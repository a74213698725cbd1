import ErrorPages.Net.SocketAddress

/-! Reading socket addresses. Octets have no leading zeros, groups have at most four digits, ports
and scopes any number of digits; `::` stands for at least one group, and only the last two groups
may be written as an IPv4 address. -/

namespace ErrorPages.SocketAddress

/-- Reads a number below `bound`, of at most `width` digits when one is given. -/
def number? (base : Nat) (width : Option Nat) (leadingZeros : Bool) (bound : Nat)
    (cs : List Char) : Option (Nat × List Char) :=
  let digits := cs.takeWhile (Text.isDigit base)
  let rest := cs.dropWhile (Text.isDigit base)
  if width.any (· < digits.length) then none
  else if !leadingZeros && digits.head? == some '0' && 1 < digits.length then none
  else (Text.value? base digits).bind fun n => if n < bound then some (n, rest) else none

def char? (c : Char) : List Char → Option (List Char)
  | a :: rest => if a = c then some rest else none
  | [] => none

/-- Takes the separator before every part but the first. -/
def separator? (c : Char) (index : Nat) (cs : List Char) : Option (List Char) :=
  if index = 0 then some cs else char? c cs

def octet? : List Char → Option (Nat × List Char) := number? 10 (some 3) false 256

def ipv4? (cs : List Char) : Option (Ipv4 × List Char) := do
  let (a, cs) ← octet? cs
  let (b, cs) ← octet? (← char? '.' cs)
  let (c, cs) ← octet? (← char? '.' cs)
  let (d, cs) ← octet? (← char? '.' cs)
  return (#v[.ofNat a, .ofNat b, .ofNat c, .ofNat d], cs)

/-- Groups of an IPv6 address, and whether they end in an IPv4 address. -/
structure Groups where
  values : List Nat
  dotted : Bool
  rest : List Char

/-- Reads up to `room` more groups after the `read` groups in front. -/
def groups (read : List Nat) : Nat → List Char → Groups
  | 0, cs => ⟨read, false, cs⟩
  | room + 1, cs =>
    let dotted := if 0 < room then (separator? ':' read.length cs).bind ipv4? else none
    match dotted with
    | some (host, rest) =>
      ⟨read ++ [host[0].toNat * 256 + host[1].toNat, host[2].toNat * 256 + host[3].toNat], true, rest⟩
    | none =>
      match (separator? ':' read.length cs).bind (number? 16 (some 4) true 65536) with
      | some (group, rest) => groups (read ++ [group]) room rest
      | none => ⟨read, false, cs⟩

def ipv6OfGroups (values : List Nat) : Ipv6 := Vector.ofFn fun i => .ofNat (values.getD i 0)

def ipv6? (cs : List Char) : Option (Ipv6 × List Char) := do
  let front := groups [] 8 cs
  if front.values.length = 8 then return (ipv6OfGroups front.values, front.rest)
  if front.dotted then none
  let back := groups [] (7 - front.values.length) (← char? ':' (← char? ':' front.rest))
  let zeros := List.replicate (8 - front.values.length - back.values.length) 0
  return (ipv6OfGroups (front.values ++ zeros ++ back.values), back.rest)

def port? (cs : List Char) : Option (UInt16 × List Char) := do
  let (n, rest) ← number? 10 none true 65536 (← char? ':' cs)
  return (.ofNat n, rest)

def scope? (cs : List Char) : Option (UInt32 × List Char) := do
  let (n, rest) ← number? 10 none true 0x100000000 (← char? '%' cs)
  return (.ofNat n, rest)

def v4? (cs : List Char) : Option (SocketAddress × List Char) := do
  let (host, cs) ← ipv4? cs
  let (port, cs) ← port? cs
  return (.v4 host port, cs)

def v6? (cs : List Char) : Option (SocketAddress × List Char) := do
  let (host, cs) ← ipv6? (← char? '[' cs)
  let (scope, cs) := (scope? cs).getD (0, cs)
  let (port, cs) ← port? (← char? ']' cs)
  return (.v6 host port scope, cs)

/-- Reads a whole text as an address with a port. -/
def ofText? (text : String) : Option SocketAddress :=
  match (v4? text.toList).or (v6? text.toList) with
  | some (address, []) => some address
  | _ => none

end ErrorPages.SocketAddress
