/-! Numbers written in digits. `value?` reads a run of digits of any length; a caller bounds the
value, never the length. `decimal` writes a number with no digit too many. -/

namespace ErrorPages.Text

/-- The value of an ASCII digit in a base up to sixteen. -/
def digit? (base : Nat) (c : Char) : Option Nat :=
  let n := c.toNat
  let d :=
    if 48 ≤ n ∧ n ≤ 57 then some (n - 48)
    else if 97 ≤ n ∧ n ≤ 102 then some (n - 87)
    else if 65 ≤ n ∧ n ≤ 70 then some (n - 55)
    else none
  d.bind fun d => if d < base then some d else none

def isDigit (base : Nat) (c : Char) : Bool := (digit? base c).isSome

def valueFrom? (base : Nat) : Nat → List Char → Option Nat
  | acc, [] => some acc
  | acc, c :: rest => (digit? base c).bind fun d => valueFrom? base (acc * base + d) rest

/-- The value of a non-empty run of digits. -/
def value? (base : Nat) (cs : List Char) : Option Nat :=
  if cs.isEmpty then none else valueFrom? base 0 cs

/-- The value of decimal digits, which may follow a plus sign. -/
def plusValue? : List Char → Option Nat
  | '+' :: digits => value? 10 digits
  | digits => value? 10 digits

def decimal (n : Nat) : String := String.ofList (Nat.toDigits 10 n)

def hexadecimal (n : Nat) : String := String.ofList (Nat.toDigits 16 n)

end ErrorPages.Text
