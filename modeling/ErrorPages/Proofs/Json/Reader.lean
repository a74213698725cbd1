import ErrorPages.Json
import ErrorPages.Text.Digits
import ErrorPages.Text.Reader

/-! JSON from a text. Space may stand around every sign of the structure, a string may have any escape, and a
number a fraction and a power of ten. The members of an object are kept in the order of the text. -/

namespace ErrorPages.Json

open Reader

def isSpace (c : Char) : Bool := c == ' ' || c == '\t' || c == '\n' || c == '\r'

def gap : Reader Unit := do let _ ← takeWhile isSpace

/-- A sign of the structure. -/
def sign (c : Char) : Reader Unit := gap *> char c

section Strings

/-- A character that stands for itself. -/
def isPlain (c : Char) : Bool := 0x20 ≤ c.toNat && c != '"' && c != '\\'

/-- A unit of UTF-16 in four hexadecimal digits. -/
def codeUnit : Reader Nat := do
  let digits ← (List.replicate 4 ()).mapM fun _ => next (Text.isDigit 16)
  match Text.value? 16 digits with
  | some n => return n
  | none => failure

/-- The character of a unit, or of two units that are a pair of surrogates. -/
def codeUnits : Reader Char := do
  let high ← codeUnit
  if high < 0xD800 ∨ 0xDFFF < high then return Char.ofNat high
  else
    word "\\u"
    let low ← codeUnit
    if high < 0xDC00 ∧ 0xDC00 ≤ low ∧ low ≤ 0xDFFF then
      return Char.ofNat (0x10000 + (high - 0xD800) * 0x400 + (low - 0xDC00))
    else failure

def escape : Reader Char := do
  char '\\'
  match ← next fun _ => true with
  | '"' => return '"'
  | '\\' => return '\\'
  | '/' => return '/'
  | 'b' => return '\x08'
  | 'f' => return '\x0c'
  | 'n' => return '\n'
  | 'r' => return '\r'
  | 't' => return '\t'
  | 'u' => codeUnits
  | _ => failure

def string : Reader String := do
  sign '"'
  let cs ← many (next isPlain <|> escape)
  char '"'
  return String.ofList cs

end Strings

section Numbers

def digits : Reader (List Char) := do
  let cs ← takeWhile Char.isDigit
  if cs.isEmpty then failure else return cs

/-- The digits before a point. They begin with a zero only if they are a zero. -/
def whole : Reader (List Char) := do
  let cs ← digits
  if cs.head? = some '0' ∧ cs ≠ ['0'] then failure else return cs

def power : Reader Int := do
  let _ ← next fun c => c == 'e' || c == 'E'
  let minus ← opt (next fun c => c == '+' || c == '-')
  let cs ← digits
  let n : Int := Nat.ofDigitChars 10 cs 0
  return if minus = some '-' then -n else n

/-- A number is whole if it has neither a fraction nor a power. -/
def number : Reader Json := do
  let minus ← opt (char '-')
  let before ← whole
  let after ← opt (char '.' *> digits)
  let power ← opt power
  let signed (n : Nat) : Int := if minus.isSome then -n else n
  if after.isNone && power.isNone then return .int (signed (Nat.ofDigitChars 10 before 0))
  else
    let after := after.getD []
    let places : Int := after.length - power.getD 0
    let zeros := List.replicate (-places).toNat '0'
    return .decimal (signed (Nat.ofDigitChars 10 (before ++ after ++ zeros) 0)) places.toNat

end Numbers

section Values

variable {α : Type}

/-- Items with commas between them. -/
def sequence (opening closing : Char) (item : Reader α) : Reader (List α) := do
  sign opening
  let items ← opt (sepBy item (sign ','))
  sign closing
  return items.getD []

def member (value : Reader α) : Reader (String × α) := do
  let name ← string
  sign ':'
  return (name, ← value)

/-- A value that begins with this character, from the values inside it. -/
def valueFrom (inner : Reader Json) : Char → Reader Json
  | '"' => .str <$> string
  | '[' => .arr <$> sequence '[' ']' inner
  | '{' => .obj <$> sequence '{' '}' (member inner)
  | 'n' => word "null" *> pure .null
  | 't' => word "true" *> pure (.bool true)
  | 'f' => word "false" *> pure (.bool false)
  | _ => number

/-- A value that has arrays and objects nested to less than a depth. -/
def valueWithin : Nat → Reader Json
  | 0 => failure
  | depth + 1 => do
    gap
    match ← peek with
    | some c => valueFrom (valueWithin depth) c
    | none => failure

/-- A value with space around it. -/
def padded (depth : Nat) : Reader Json := do
  let v ← valueWithin depth
  gap
  return v

/-- Reads a whole text, in which nothing can be nested deeper than the text is long. -/
def ofText? (text : String) : Option Json := whole? (padded (text.length + 1)) text.toList

end Values

end ErrorPages.Json
