import ServiceDiscovery.Address.IpText

/-!
# Endpoints

An address together with a port. An IPv6 endpoint also has a flow label and
the scope in which the address is meant, so two endpoints with the same
address and port may differ; `Endpoint.of` makes the one without label and
scope.

The text is `1.2.3.4:80` or `[::1]:80`, with the scope, if it is not zero, as
a decimal number after a percent sign: `[fe80::1%3]:80`. It does not show the
flow label.
-/

namespace ServiceDiscovery

/-- Where a service can be reached. -/
inductive Endpoint
  | v4 (ip : Ipv4) (port : UInt16)
  | v6 (ip : Ipv6) (port : UInt16) (flow : UInt32) (scope : UInt32)
  deriving DecidableEq, Repr

namespace Endpoint

/-- The endpoint of an address and a port, without flow label and scope. -/
def of : IpAddress → UInt16 → Endpoint
  | .v4 ip, port => .v4 ip port
  | .v6 ip, port => .v6 ip port 0 0

/-- The address. -/
def ip : Endpoint → IpAddress
  | .v4 ip _ => .v4 ip
  | .v6 ip _ _ _ => .v6 ip

/-- The port. -/
def port : Endpoint → UInt16
  | .v4 _ port => port
  | .v6 _ port _ _ => port

@[simp] theorem ip_of (ip : IpAddress) (port : UInt16) : (of ip port).ip = ip := by
  cases ip <;> rfl

@[simp] theorem port_of (ip : IpAddress) (port : UInt16) : (of ip port).port = port := by
  cases ip <;> rfl

/-- The text of an endpoint. -/
def render : Endpoint → String
  | .v4 ip port => String.ofList (ip.render ++ ':' :: Nat.toDigits 10 port.toNat)
  | .v6 ip port _ scope =>
    let zone := if scope = 0 then [] else '%' :: Nat.toDigits 10 scope.toNat
    String.ofList ('[' :: ip.render ++ zone ++ ']' :: ':' :: Nat.toDigits 10 port.toNat)

/-- A colon and a port in decimal digits, at the end of the text. -/
def scanPort (cs : List Char) : Option UInt16 := do
  let cs ← scanChar ':' cs
  let (port, rest) ← scanNumber 10 none true 65536 cs
  if rest.isEmpty then some port.toUInt16 else none

/-- The endpoint whose text is exactly `s`. -/
def read? (s : String) : Option Endpoint :=
  match Ipv4.scan s.toList with
  | some (ip, rest) => (scanPort rest).map (.v4 ip)
  | none => do
    let cs ← scanChar '[' s.toList
    let (ip, cs) ← Ipv6.scan cs
    let (scope, cs) ← match scanChar '%' cs with
      | some rest => scanNumber 10 none true (Nat.pow 2 32) rest
      | none => some (0, cs)
    let cs ← scanChar ']' cs
    let port ← scanPort cs
    return .v6 ip port 0 scope.toUInt32

end Endpoint

end ServiceDiscovery
