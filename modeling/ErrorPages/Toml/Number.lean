import ErrorPages.Toml.Value
import ErrorPages.Toml.Text

/-! Numbers and date-times of TOML. Integers are those of 64 bits; a float above the range of
doubles is refused. -/

namespace ErrorPages.Toml

open Reader

/-- Digits, where an underscore may part two neighbours. -/
def digitRun (base : Nat) : Reader (List Char) := do
  let first ← next (Text.isDigit base)
  let rest ← many ((char '_' *> next (Text.isDigit base)) <|> next (Text.isDigit base))
  return first :: rest

/-- Whether a minus sign stands in front. -/
def sign : Reader Bool := (char '-' *> pure true) <|> (char '+' *> pure false) <|> pure false

def natural (base : Nat) : Reader Nat := do
  return (Text.value? base (← digitRun base)).getD 0

/-- A decimal number has no leading zeros. -/
def decimalDigits : Reader (List Char) := do
  let digits ← digitRun 10
  if digits.head? = some '0' ∧ 1 < digits.length then failure else return digits

def decimalNumber : Reader Int := do
  let negative ← sign
  let n : Nat := (Text.value? 10 (← decimalDigits)).getD 0
  return if negative then -n else n

/-- The ends of the range of integers. -/
def least : Int := -0x8000000000000000
def greatest : Int := 0x7FFFFFFFFFFFFFFF

def integer : Reader Int := do
  let n ← (word "0x" *> Int.ofNat <$> natural 16) <|> (word "0o" *> Int.ofNat <$> natural 8) <|>
    (word "0b" *> Int.ofNat <$> natural 2) <|> decimalNumber
  if least ≤ n ∧ n ≤ greatest then return n else failure

/-- The least number that rounds to infinity, half a unit above the greatest double. -/
def overflowBound : Nat := (Nat.pow 2 54 - 1) * Nat.pow 2 970

/-- Whether `digits * 10 ^ exponent` is too great for a double. -/
def overflows (digits : Nat) (exponent : Int) : Bool :=
  let size := (Nat.toDigits 10 digits).length + exponent
  if digits = 0 ∨ size ≤ 308 then false
  else if 309 < size then true
  else if 0 ≤ exponent then overflowBound ≤ digits * Nat.pow 10 exponent.toNat
  else overflowBound * Nat.pow 10 (-exponent).toNat ≤ digits

def exponentPart : Reader Int := do
  char 'e' <|> char 'E'
  let negative ← sign
  let n : Nat := (Text.value? 10 (← digitRun 10)).getD 0
  return if negative then -n else n

def decimalFloat : Reader Unit := do
  let negative ← sign
  let whole ← decimalDigits
  let (part, exponent) ←
    (do
      char '.'
      let part ← digitRun 10
      return (part, (← opt exponentPart).getD 0)) <|>
    (do return ([], ← exponentPart))
  let digits := (Text.value? 10 (whole ++ part)).getD 0
  if !negative && overflows digits (exponent - part.length) then failure

def specialFloat : Reader Unit := do
  let _ ← sign
  word "inf" <|> word "nan"

/-- A number of exactly so many digits, in a range. -/
def fixedDigits (width low high : Nat) : Reader Nat := do
  let digits ← (List.replicate width ()).mapM fun _ => next (Text.isDigit 10)
  let n := (Text.value? 10 digits).getD 0
  if low ≤ n ∧ n ≤ high then return n else failure

def isLeapYear (year : Nat) : Bool := year % 4 = 0 && (year % 100 ≠ 0 || year % 400 = 0)

def daysInMonth (year month : Nat) : Nat :=
  if month = 2 then (if isLeapYear year then 29 else 28)
  else if month = 4 ∨ month = 6 ∨ month = 9 ∨ month = 11 then 30
  else 31

def date : Reader Unit := do
  let year ← fixedDigits 4 0 9999
  char '-'
  let month ← fixedDigits 2 1 12
  char '-'
  let _ ← fixedDigits 2 1 (daysInMonth year month)

def hourAndMinute : Reader Unit := do
  let _ ← fixedDigits 2 0 23
  char ':'
  let _ ← fixedDigits 2 0 59

/-- A minute may have a leap second. -/
def time : Reader Unit := do
  hourAndMinute
  char ':'
  let _ ← fixedDigits 2 0 60
  let _ ← opt (char '.' *> next (Text.isDigit 10) *> takeWhile (Text.isDigit 10))

def offset : Reader Unit :=
  char 'Z' <|> char 'z' <|> ((char '+' <|> char '-') *> hourAndMinute)

def dateTime : Reader Unit :=
  (do
    date
    let _ ← opt ((char 'T' <|> char 't' <|> char ' ') *> time *> opt offset)) <|> time

def number : Reader Value :=
  (dateTime *> pure .dateTime) <|> ((decimalFloat <|> specialFloat) *> pure .float) <|>
    .integer <$> integer

end ErrorPages.Toml
