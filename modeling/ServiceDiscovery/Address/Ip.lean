/-!
# Internet addresses

IPv4 addresses as four octets and IPv6 addresses as eight groups of sixteen
bits. They are ordered with every IPv4 address before every IPv6 one and
numerically within a family; `IpAddress.least?` picks the first of a list.
-/

namespace ServiceDiscovery

/-- An IPv4 address: its four octets, the most significant first. -/
structure Ipv4 where
  a : UInt8
  b : UInt8
  c : UInt8
  d : UInt8
  deriving DecidableEq, Repr

/-- An IPv6 address: its eight groups, the most significant first. -/
structure Ipv6 where
  groups : List UInt16
  length_eq : groups.length = 8
  deriving DecidableEq, Repr

/-- An address of either family. -/
inductive IpAddress
  | v4 (ip : Ipv4)
  | v6 (ip : Ipv6)
  deriving DecidableEq, Repr

namespace Ipv4

/-- The address as a number of 32 bits. -/
def toNat (ip : Ipv4) : Nat :=
  ((ip.a.toNat * 256 + ip.b.toNat) * 256 + ip.c.toNat) * 256 + ip.d.toNat

/-- The two groups that an IPv6 address embedding this one ends in. -/
def groups (ip : Ipv4) : List UInt16 :=
  [ip.a.toUInt16 * 256 + ip.b.toUInt16, ip.c.toUInt16 * 256 + ip.d.toUInt16]

end Ipv4

namespace Ipv6

/-- The address as a number of 128 bits. -/
def toNat (ip : Ipv6) : Nat := ip.groups.foldl (fun n g => n * 65536 + g.toNat) 0

/-- The address with these groups, if there are eight. -/
def ofGroups? (gs : List UInt16) : Option Ipv6 :=
  if h : gs.length = 8 then some ⟨gs, h⟩ else none

/-- The IPv4 address that an address of the form `::ffff:a.b.c.d` stands for. -/
def mapped? (ip : Ipv6) : Option Ipv4 :=
  match ip.groups with
  | [0, 0, 0, 0, 0, 0xffff, hi, lo] =>
    some ⟨(hi / 256).toUInt8, hi.toUInt8, (lo / 256).toUInt8, lo.toUInt8⟩
  | _ => none

end Ipv6

namespace IpAddress

/-- IPv4 before IPv6, numerically within a family. -/
def le : IpAddress → IpAddress → Bool
  | .v4 x, .v4 y => x.toNat ≤ y.toNat
  | .v4 _, .v6 _ => true
  | .v6 _, .v4 _ => false
  | .v6 x, .v6 y => x.toNat ≤ y.toNat

/-- The least address of a list, if it is not empty. -/
def least? : List IpAddress → Option IpAddress
  | [] => none
  | x :: xs =>
    match least? xs with
    | none => some x
    | some y => some (if x.le y then x else y)

end IpAddress

end ServiceDiscovery
