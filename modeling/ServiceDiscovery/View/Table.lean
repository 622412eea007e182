import ServiceDiscovery.Service

/-!
# The peer table

The live peers as other programs are shown them: an entry for each key, with
the time at which the key was first seen and the time of its last change. Times
are readings `τ` of whatever clock the table is used with.

Entries are listed by instance name. Two keys may share one, since a key also
has an interface, a protocol, a type and a domain; such entries come in the
order in which their keys were first inserted.
-/

namespace ServiceDiscovery

/-- A live peer as it is shown. -/
structure PeerEntry (τ : Type u) where
  instanceName : String
  serviceType : String
  address : IpAddress
  port : UInt16
  /-- When the peer was added. -/
  firstSeen : τ
  /-- When its address or port last changed. -/
  lastChanged : τ
  deriving DecidableEq, Repr

/-- The live peers by key. -/
structure PeerTable (τ : Type u) where
  entries : Association PeerKey (PeerEntry τ) := .empty
  deriving DecidableEq

namespace PeerTable

variable {τ : Type u}

instance : Inhabited (PeerTable τ) := ⟨{}⟩

/-- The entry of a peer that is seen for the first time. -/
def newEntry (peer : Peer) (now : τ) : PeerEntry τ where
  instanceName := peer.key.name
  serviceType := peer.key.serviceType
  address := peer.address
  port := peer.port
  firstSeen := now
  lastChanged := now

/-- Insert or update a peer. The answer tells whether anything changed; an
    entry with the same address and port is left as it is. -/
def insert (t : PeerTable τ) (peer : Peer) (now : τ) : PeerTable τ × Bool :=
  match t.entries.get? peer.key with
  | none => (⟨t.entries.put peer.key (newEntry peer now)⟩, true)
  | some entry =>
    if entry.address = peer.address ∧ entry.port = peer.port then (t, false)
    else
      let entry := { entry with address := peer.address, port := peer.port, lastChanged := now }
      (⟨t.entries.put peer.key entry⟩, true)

/-- Remove a peer. The answer tells whether it was there. -/
def remove (t : PeerTable τ) (key : PeerKey) : PeerTable τ × Bool :=
  if t.entries.contains key then (⟨t.entries.erase key⟩, true) else (t, false)

/-- All entries, by instance name. -/
def all (t : PeerTable τ) : List (PeerEntry τ) :=
  t.entries.values.mergeSort fun x y => x.instanceName ≤ y.instanceName

/-- An entry with an instance name, if there is one. -/
def byInstance? (t : PeerTable τ) (instanceName : String) : Option (PeerEntry τ) :=
  t.entries.values.find? (·.instanceName = instanceName)

/-- The number of entries. -/
def size (t : PeerTable τ) : Nat := t.entries.size

end PeerTable

end ServiceDiscovery
