import ServiceDiscovery.Address.Endpoint
import ServiceDiscovery.Time.UtcTime

/-!
# Where the API listens

The address to listen at is given as a text. It is an address and a port, or else
a host name and a port, which are separated by the last colon. Of the host it
has to be known which addresses names stand for and which ones are its own.
-/

namespace ServiceDiscovery

/-- A host that the daemon runs on. -/
structure Host where
  name : String
  /-- The address that a name stands for. -/
  lookUp? : String → Option IpAddress
  /-- Whether there can be listened at an address. -/
  owns : IpAddress → Bool
  /-- The time of its clock. -/
  clock : UtcTime

namespace Host

/-- Whether an IPv4 address leads back to the host, or to any of its own. -/
def ownsV4 (ip : Ipv4) : Bool := ip.a = 127 || ip.toNat = 0

/-- Whether an address leads back to the host, or to any of its own. -/
def isLocal : IpAddress → Bool
  | .v4 ip => ownsV4 ip
  | .v6 ip => ip.toNat = 0 || ip.toNat = 1 || ip.mapped?.any ownsV4

/-- A host without any network, which knows no name but `localhost`. Nothing is
    ever heard on it, so that its clock may stand still. -/
def isolated (name : String) (clock : UtcTime) : Host where
  name
  lookUp? s := if s = "localhost" then some (.v4 ⟨127, 0, 0, 1⟩) else none
  owns := isLocal
  clock

end Host

/-- Why there is no listening at an address. -/
inductive ListenFault
  /-- The text has no colon. -/
  | noPort
  | badPort
  /-- The host name has a character with the code zero. -/
  | zeroInName
  | unknownName
  /-- The address is not one of the host's own. -/
  | foreign
  deriving DecidableEq, Repr

def ListenFault.message : ListenFault → String
  | noPort => "invalid socket address"
  | badPort => "invalid port value"
  | zeroInName => "file name contained an unexpected NUL byte"
  | unknownName => "failed to lookup address information: Name or service not known"
  | foreign => "Cannot assign requested address (os error 99)"

/-- What is before and after the last occurrence of a character. -/
def splitLast? (separator : Char) (cs : List Char) : Option (List Char × List Char) :=
  let last := (cs.reverse.takeWhile (· != separator)).reverse
  if last.length < cs.length then some (cs.take (cs.length - last.length - 1), last) else none

/-- A port in decimal digits, with a plus sign perhaps. -/
def readPortDigits? (cs : List Char) : Option UInt16 := do
  let (port, rest) ← scanNumber 10 none true 65536 ((scanChar '+' cs).getD cs)
  if rest.isEmpty then some port.toUInt16 else none

namespace Host

/-- The endpoint that a text stands for. -/
def endpoint (host : Host) (text : String) : Except ListenFault Endpoint :=
  match Endpoint.read? text with
  | some endpoint => .ok endpoint
  | none =>
    match splitLast? ':' text.toList with
    | none => .error .noPort
    | some (name, port) =>
      match readPortDigits? port with
      | none => .error .badPort
      | some port =>
        if name.contains (Char.ofNat 0) then .error .zeroInName
        else
          match IpAddress.readChars? name <|> host.lookUp? (String.ofList name) with
          | some ip => .ok (.of ip port)
          | none => .error .unknownName

/-- Listen at the address that a text stands for. -/
def listen (host : Host) (text : String) : Except ListenFault Endpoint :=
  match host.endpoint text with
  | .error fault => .error fault
  | .ok endpoint => if host.owns endpoint.ip then .ok endpoint else .error .foreign

end Host

end ServiceDiscovery
