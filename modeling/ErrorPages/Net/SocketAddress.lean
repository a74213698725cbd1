import ErrorPages.Text.Digits

/-! Socket addresses and their text. An IPv6 address is written with its longest run of two or more
zero groups left out, and an IPv4 address mapped into IPv6 keeps its dotted form. -/

namespace ErrorPages

abbrev Ipv4 := Vector UInt8 4

abbrev Ipv6 := Vector UInt16 8

inductive SocketAddress where
  | v4 (host : Ipv4) (port : UInt16)
  | v6 (host : Ipv6) (port : UInt16) (scope : UInt32)
deriving DecidableEq

namespace Ipv4

def text (host : Ipv4) : String :=
  ".".intercalate (host.toList.map fun octet => Text.decimal octet.toNat)

end Ipv4

namespace Ipv6

/-- The IPv4 address that stands in the last two groups. -/
def mapped? (host : Ipv6) : Option Ipv4 :=
  if host.toList.take 6 = [0, 0, 0, 0, 0, 0xFFFF] then
    let a := host[6].toNat
    let b := host[7].toNat
    some #v[.ofNat (a / 256), .ofNat (a % 256), .ofNat (b / 256), .ofNat (b % 256)]
  else none

/-- Where the first of the longest runs of zeros begins, and its length. -/
def longestZeros (groups : List UInt16) : Nat × Nat :=
  (List.range groups.length).foldl (fun best start =>
    let run := ((groups.drop start).takeWhile (· == 0)).length
    if best.2 < run then (start, run) else best) (0, 0)

def groupsText (groups : List UInt16) : String :=
  ":".intercalate (groups.map fun group => Text.hexadecimal group.toNat)

def text (host : Ipv6) : String :=
  match mapped? host with
  | some v4 => "::ffff:" ++ Ipv4.text v4
  | none =>
    let groups := host.toList
    let (start, run) := longestZeros groups
    if 1 < run then groupsText (groups.take start) ++ "::" ++ groupsText (groups.drop (start + run))
    else groupsText groups

end Ipv6

namespace SocketAddress

def port : SocketAddress → UInt16
  | .v4 _ port => port
  | .v6 _ port _ => port

def hostText : SocketAddress → String
  | .v4 host _ => Ipv4.text host
  | .v6 host _ _ => Ipv6.text host

def text : SocketAddress → String
  | .v4 host port => Ipv4.text host ++ ":" ++ Text.decimal port.toNat
  | .v6 host port scope =>
    let zone := if scope = 0 then "" else "%" ++ Text.decimal scope.toNat
    "[" ++ Ipv6.text host ++ zone ++ "]:" ++ Text.decimal port.toNat

end SocketAddress

end ErrorPages
