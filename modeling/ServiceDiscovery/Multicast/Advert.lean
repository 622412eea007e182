import ServiceDiscovery.Error
import ServiceDiscovery.Settings
import ServiceDiscovery.Text.Blank
import ServiceDiscovery.Text.Split

/-!
# Adverts

What is published on the network about a service: its full name, its type, its
port, its addresses and its properties. An advert is made from a service record
and a text that lists addresses (`Advert.make`), and refused if a piece of the
list is no address or a property key is not allowed.

The type of an advert is the part after the last subtype mark `._sub.` of the
record's type; a type with such a mark is kept as a whole as the subtype.

`Advert.ofRecord` makes the advert of a node's own record: without configured
addresses it is published with those of the interfaces.
-/

namespace ServiceDiscovery

/-- What is published about a service. -/
structure Advert where
  fullName : String
  type : String
  subtype : Option String
  port : UInt16
  /-- The addresses in their order, none of them twice. -/
  addresses : List IpAddress
  /-- Whether the addresses of the interfaces are published. -/
  autoAddress : Bool := false
  properties : Association String String := .empty
  deriving DecidableEq

namespace Advert

/-! ## Types -/

/-- What stands between a subtype and a type. -/
def subtypeMark : List Char := "._sub.".toList

/-- The part of a text after the last subtype mark, if there is one. -/
def afterSubtypeMark? : List Char → Option (List Char)
  | [] => none
  | c :: cs =>
    match afterSubtypeMark? cs with
    | some rest => some rest
    | none =>
      if subtypeMark.isPrefixOf (c :: cs) then some ((c :: cs).drop subtypeMark.length) else none

/-- The type and the subtype that a record's type stands for. -/
def splitSubtype (serviceType : String) : String × Option String :=
  match afterSubtypeMark? serviceType.toList with
  | some rest => (String.ofList rest, some serviceType)
  | none => (serviceType, none)

/-! ## Addresses -/

/-- Insert an address into an ordered list, unless it is there. -/
def insertAddress (ip : IpAddress) : List IpAddress → List IpAddress
  | [] => [ip]
  | x :: xs =>
    if x = ip then x :: xs
    else if ip.le x then ip :: x :: xs
    else x :: insertAddress ip xs

/-- The pieces of a list of addresses: none for the empty text, and otherwise
    those between the commas, without blanks around them. -/
def addressPieces (text : String) : List String :=
  if text.isEmpty then []
  else (splitAtChar ',' text.toList).map fun piece => String.ofList (trimBlanks piece)

/-- The addresses of a list, in their order, if every piece is one. -/
def addresses? (text : String) : Option (List IpAddress) :=
  ((addressPieces text).mapM IpAddress.read?).map fun ips => ips.foldr insertAddress []

/-! ## Properties -/

/-- What is wrong with a property key. -/
def keyFault? (key : String) : Option MulticastFault :=
  if key.toList.any fun c => c.toNat ≥ 128 then some (.keyNotAscii key)
  else if '=' ∈ key.toList then some (.keyWithEquals key)
  else none

/-! ## Making adverts -/

/-- The advert of an instance, with the addresses of a list. -/
def make (serviceType instanceName addressList : String) (port : UInt16)
    (properties : Association String String) : Except MulticastFault Advert :=
  let (type, subtype) := splitSubtype serviceType
  match addresses? addressList with
  | none => .error (.address MulticastFault.notAnAddress)
  | some addresses =>
    match properties.keys.findSome? keyFault? with
    | some fault => .error fault
    | none =>
      .ok { fullName := instanceName ++ "." ++ type, type, subtype, port, addresses, properties }

/-- The advert of a node's own record. -/
def ofRecord (record : ServiceRecord) (settings : MulticastSettings) :
    Except DiscoveryError Advert :=
  let addressList := settings.address.getD ""
  match make record.serviceType record.instanceName addressList record.port record.metadata with
  | .error fault => .error (.invalidRecord (.multicast fault))
  | .ok advert => .ok { advert with autoAddress := addressList.isEmpty }

/-- Where the service is: at the first of its addresses. -/
def endpoint? (a : Advert) : Option Endpoint := (IpAddress.least? a.addresses).map (.of · a.port)

end Advert

end ServiceDiscovery
