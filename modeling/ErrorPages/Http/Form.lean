import ErrorPages.Text.Digits
import ErrorPages.Text.Lossy

/-! Form data, as in a query: pairs of a name and a value. A plus sign stands for a space, and a
percent sign with two hexadecimal digits for a byte; the bytes are then read as UTF-8. -/

namespace ErrorPages.Form

def hexByte? (high low : UInt8) : Option UInt8 := do
  let h ← Text.digit? 16 (Char.ofNat high.toNat)
  let l ← Text.digit? 16 (Char.ofNat low.toNat)
  return .ofNat (h * 16 + l)

/-- A percent sign without two digits stands for itself. -/
def decodeBytes : List UInt8 → List UInt8
  | [] => []
  | 0x2B :: rest => 0x20 :: decodeBytes rest
  | 0x25 :: high :: low :: rest =>
    match hexByte? high low with
    | some b => b :: decodeBytes rest
    | none => 0x25 :: decodeBytes (high :: low :: rest)
  | b :: rest => b :: decodeBytes rest

def decode (bytes : List UInt8) : String := String.ofList (Text.decodeLossy (decodeBytes bytes))

/-- The name and the value around the first equals sign; without one the value is empty. -/
def pair (part : List UInt8) : String × String :=
  (decode (part.takeWhile (· != 0x3D)), decode ((part.dropWhile (· != 0x3D)).drop 1))

def pairs (query : String) : List (String × String) :=
  ((query.toUTF8.toList.splitOn 0x26).filter (!·.isEmpty)).map pair

/-- All values of a name. -/
def values (query name : String) : List String := ((pairs query).filter (·.1 = name)).map (·.2)

end ErrorPages.Form
