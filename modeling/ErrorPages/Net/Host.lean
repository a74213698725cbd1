import ErrorPages.Net.SocketAddress.Reader
import ErrorPages.Text.Cut

/-! Hosts in front of a port: the four octets of an IPv4 address in up to four numbers, an IPv6
address, or a name. The only name that stands for an address is that of this machine, and its only
device is the one that leads back to it. -/

namespace ErrorPages

namespace Ipv4

/-- A number in hexadecimal after `0x`, in octal after a zero, and else in decimal. -/
def number? : List Char → Option Nat
  | '0' :: 'x' :: digits | '0' :: 'X' :: digits => Text.value? 16 digits
  | '0' :: digits => Text.value? 8 ('0' :: digits)
  | digits => Text.value? 10 digits

/-- The last octets of a number, so many of them, the highest first. -/
def octets (count value : Nat) : List Nat :=
  (List.range count).reverse.map fun i => value / Nat.pow 256 i % 256

/-- Reads an address in numbers between dots. Each number but the last is an octet, and the last
stands for all the octets that are left. -/
def ofNumbers? (cs : List Char) : Option Ipv4 := do
  let numbers ← (cs.splitOn '.').mapM number?
  let front := numbers.dropLast
  let last ← numbers.getLast?
  let left := 4 - front.length
  guard (front.length < 4 ∧ front.all (· < 256) ∧ last < Nat.pow 256 left)
  let values := front ++ octets left last
  return Vector.ofFn fun i => .ofNat (values.getD i 0)

def loopback : Ipv4 := #v[127, 0, 0, 1]

end Ipv4

namespace Ipv6

/-- Whether an address means one machine only together with a scope. -/
def isLinkLocal (host : Ipv6) : Bool := 0xFE80 ≤ host[0].toNat && host[0].toNat < 0xFEC0

def isMulticast (host : Ipv6) : Bool := 0xFF00 ≤ host[0].toNat

/-- Whether the scope of an address may be given by the name of a device. -/
def takesDevice (host : Ipv6) : Bool :=
  host.isLinkLocal ||
    (host.isMulticast && (host[0].toNat % 16 == 1 || host[0].toNat % 16 == 2))

end Ipv6

namespace Device

def maxName : Nat := 15

/-- The number of the device that leads back to the machine. -/
def loopback : UInt32 := 1

/-- The number of the device with a name, which a label may follow after a colon. -/
def ofName? (name : List Char) : Option UInt32 :=
  if Text.byteSize name ≤ maxName ∧ String.ofList (name.takeWhile (· != ':')) = "lo" then
    some loopback
  else none

end Device

namespace SocketAddress

/-- The scope of a host: the name of a device where the host takes one, or else a number. -/
def scopeOf? (host : Ipv6) (scope : List Char) : Option UInt32 :=
  (if host.takesDevice then Device.ofName? scope else none).or <|
    (number? 10 none true 0x100000000 scope).bind fun (n, rest) =>
      if rest.isEmpty then some (.ofNat n) else none

/-- Reads an IPv6 address with a scope or without one. -/
def scoped? (cs : List Char) (port : UInt16) : Option SocketAddress := do
  let (host, rest) ← ipv6? cs
  match rest with
  | [] => return .v6 host port 0
  | '%' :: scope => return .v6 host port (← scopeOf? host scope)
  | _ => none

/-- The address of this machine under its own name. -/
def ofOwnName? (name : String) (port : UInt16) : Option SocketAddress :=
  if name.map Char.toLower = "localhost" then some (.v4 Ipv4.loopback port) else none

def ofHost? (host : String) (port : UInt16) : Option SocketAddress :=
  (((Ipv4.ofNumbers? host.toList).map (.v4 · port)).or (scoped? host.toList port)).or
    (ofOwnName? host port)

end SocketAddress

namespace HostName

def maxLength : Nat := 253
def maxLabel : Nat := 63

def isLabelChar (c : Char) : Bool := c.isAlphanum || c == '-' || c == '_'

def isLabel (cs : List Char) : Bool := !cs.isEmpty && cs.length ≤ maxLabel && cs.all isLabelChar

/-- Whether a text can be the name of a host: labels between dots, with a dot at the end or without
one, and no hyphen in front. -/
def isValid (cs : List Char) : Bool :=
  let name := if cs.getLast? = some '.' then cs.dropLast else cs
  cs = ['.'] ||
    (name.length ≤ maxLength && name.head? != some '-' && (name.splitOn '.').all isLabel)

end HostName

end ErrorPages
