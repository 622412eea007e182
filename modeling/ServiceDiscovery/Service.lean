import ServiceDiscovery.Association
import ServiceDiscovery.Address.Endpoint

/-!
# Services and peers

The nouns of service discovery. A node offers a service described by a
`ServiceRecord`. Another node sees it as a `Peer`: a `PeerKey`, which
identifies the remote record as a whole, with the address and port it was
resolved to. What a subscriber is told are `PeerEvent`s, and `LivePeers` is
what it knows after them: a peer that was added under a key and not removed
since.
-/

namespace ServiceDiscovery

/-- The service instance a node offers on the local network. -/
structure ServiceRecord where
  /-- The name of the instance, such as `nas`. -/
  instanceName : String
  /-- The service type, such as `_files._tcp.local.`. -/
  serviceType : String
  /-- The port the service listens on. -/
  port : UInt16
  /-- Free attributes published with the service. -/
  metadata : Association String String := .empty
  deriving DecidableEq

/-- The address family a remote record was seen on. -/
inductive Protocol
  | unspec
  | inet
  | inet6
  deriving DecidableEq, Repr

namespace Protocol

/-- The word for a family. -/
def name : Protocol → String
  | unspec => "unspec"
  | inet => "inet"
  | inet6 => "inet6"

/-- The families in their order. -/
def all : List Protocol := [unspec, inet, inet6]

/-- The family a word stands for. -/
def ofName? (s : String) : Option Protocol := all.find? (·.name = s)

/-- The place of a family in their order. -/
def rank : Protocol → Nat
  | unspec => 0
  | inet => 1
  | inet6 => 2

end Protocol

/-- What identifies a remote service record; compared only as a whole. -/
structure PeerKey where
  interface : String
  protocol : Protocol
  name : String
  serviceType : String
  domain : String
  deriving DecidableEq, Repr

namespace PeerKey

/-- The text of a key: name, service type and domain, joined by dots. -/
def render (k : PeerKey) : String := k.name ++ "." ++ k.serviceType ++ "." ++ k.domain

/-- Keys are ordered by interface, protocol, name, service type and domain,
    texts by their characters' code points. -/
def compare (x y : PeerKey) : Ordering :=
  (Ord.compare x.interface y.interface).then <|
  (Ord.compare x.protocol.rank y.protocol.rank).then <|
  (Ord.compare x.name y.name).then <|
  (Ord.compare x.serviceType y.serviceType).then <|
  Ord.compare x.domain y.domain

/-- Whether `x` comes before `y` or equals it. -/
def le (x y : PeerKey) : Bool := x.compare y != .gt

end PeerKey

/-- A remote node whose record was resolved to an address. -/
structure Peer where
  key : PeerKey
  address : IpAddress
  port : UInt16
  deriving DecidableEq, Repr

namespace Peer

/-- The peer found at an endpoint; a flow label or scope is not kept. -/
def located (key : PeerKey) (endpoint : Endpoint) : Peer := ⟨key, endpoint.ip, endpoint.port⟩

/-- Where the peer can be reached. -/
def endpoint (p : Peer) : Endpoint := .of p.address p.port

end Peer

/-- A change to the live peers of a subscription. -/
inductive PeerEvent
  | added (peer : Peer)
  | removed (key : PeerKey)
  deriving DecidableEq, Repr

/-- The key whose peer an event is about. -/
def PeerEvent.key : PeerEvent → PeerKey
  | added peer => peer.key
  | removed key => key

/-- The live peers, by key. -/
abbrev LivePeers := Association PeerKey Peer

namespace LivePeers

/-- The live peers after one more event. An addition is refused if the key has
    a live peer already, a removal if it has none. -/
def after? (live : LivePeers) : PeerEvent → Option LivePeers
  | .added peer => if live.contains peer.key then none else some (live.put peer.key peer)
  | .removed key => if live.contains key then some (live.erase key) else none

/-- The live peers after a list of events, if none of them is refused. -/
def ofEvents? (events : List PeerEvent) : Option LivePeers :=
  events.foldlM after? Association.empty

end LivePeers

end ServiceDiscovery
