import ErrorPages.Cause
import ErrorPages.Net.Host

/-! Binding to an address given as a text. The text is a socket address, or a host and a port; the
network then says whether the address can be bound. No name is known but that of this machine, so
what could be the name of another host fails for the time being. -/

namespace ErrorPages

inductive BindFault where
  | noPort
  | badPort
  | nulByte
  | unresolvedHost
  | unknownHost
  | denied
  | invalid
  | noDevice
  | unavailable
  | inUse
deriving DecidableEq

namespace BindFault

def message : BindFault → String
  | .noPort => "invalid socket address"
  | .badPort => "invalid port value"
  | .nulByte => "file name contained an unexpected NUL byte"
  | .unresolvedHost =>
    "failed to lookup address information: Temporary failure in name resolution"
  | .unknownHost => "failed to lookup address information: Name or service not known"
  | .denied => "Permission denied (os error 13)"
  | .invalid => "Invalid argument (os error 22)"
  | .noDevice => "No such device (os error 19)"
  | .unavailable => "Cannot assign requested address (os error 99)"
  | .inUse => "Address already in use (os error 98)"

def cause (fault : BindFault) : Cause := .root fault.message

end BindFault

/-- The fault that binding an address meets, if any. -/
abbrev Network := SocketAddress → Option BindFault

namespace SocketAddress

/-- An address with its host as IPv4, if it is mapped into IPv6. -/
def unmapped : SocketAddress → SocketAddress
  | .v4 host port => .v4 host port
  | .v6 host port scope =>
    match host.mapped? with
    | some host => .v4 host port
    | none => .v6 host port scope

/-- Whether binding the one host takes the other too. The host of zeros takes all hosts of its kind,
and that of IPv6 takes those of IPv4 as well. -/
def sharesHost : SocketAddress → SocketAddress → Bool
  | .v4 a _, .v4 b _ => a = b || a.toList.all (· == 0) || b.toList.all (· == 0)
  | .v6 a _ _, .v6 b _ _ => a = b || a.toList.all (· == 0) || b.toList.all (· == 0)
  | .v4 .., .v6 host _ _ | .v6 host _ _, .v4 .. => host.toList.all (· == 0)

end SocketAddress

namespace Network

/-- Whether a port is kept for the programs of the machine itself. -/
def isReserved (port : UInt16) : Bool := 0 < port.toNat && port.toNat < 1024

/-- The network of a machine that is cut off: it takes every IPv4 address, and of IPv6 the
unspecified one and those that are mapped from IPv4. -/
def isolated : Network := fun address =>
  match address with
  | .v4 _ port => if isReserved port then some .denied else none
  | .v6 host port scope =>
    if host.isMulticast then some .invalid
    else if isReserved port then some .denied
    else if host.toList.all (· == 0) || host.mapped?.isSome then none
    else if host.isLinkLocal && scope == 0 then some .invalid
    else if host.isLinkLocal && scope != Device.loopback then some .noDevice
    else some .unavailable

/-- The network once an address is taken. The port 0 stands for any free port. -/
def take (network : Network) (taken : SocketAddress) : Network := fun address =>
  (network address).or <|
    if address.port ≠ 0 ∧ address.port = taken.port ∧ address.unmapped.sharesHost taken.unmapped then
      some .inUse
    else none

end Network

namespace SocketAddress

def bindPort? (cs : List Char) : Option UInt16 :=
  (Text.plusValue? cs).bind fun n => if n < 65536 then some (.ofNat n) else none

/-- The address that a text with a host and a port names. -/
def resolve (text : String) : Except BindFault SocketAddress :=
  match ofText? text with
  | some address => .ok address
  | none =>
    let cs := text.toList
    if ':' ∈ cs then
      let port := (cs.reverse.takeWhile (· != ':')).reverse
      let host := cs.take (cs.length - port.length - 1)
      match bindPort? port with
      | none => .error .badPort
      | some port =>
        if '\x00' ∈ host then .error .nulByte
        else match ofHost? (String.ofList host) port with
          | some address => .ok address
          | none => .error (if HostName.isValid host then .unresolvedHost else .unknownHost)
    else .error .noPort

end SocketAddress

def Network.bind (network : Network) (text : String) : Except BindFault SocketAddress := do
  let address ← SocketAddress.resolve text
  match network address with
  | none => return address
  | some fault => throw fault

end ErrorPages
