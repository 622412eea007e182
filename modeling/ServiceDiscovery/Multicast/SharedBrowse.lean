import ServiceDiscovery.Directory.Event
import ServiceDiscovery.Name

/-!
# Shared browses

The network is browsed once for each service type, and all watchers of the type
share that browse. It remembers the instances that are present. A watcher that
attaches is sent those first, in no particular order, and every event from then
on; a browse that closed takes no watchers any more.

A stream exists as long as its watcher reads it. The browse notices that a
watcher left when it sends the next event, and closes when none is left.
-/

namespace ServiceDiscovery

/-- The stream of a watcher of a shared browse. -/
structure BrowseStream where
  /-- What was sent and not read yet. -/
  unread : List DirectoryEvent := []
  /-- Whether the browse still sends to it. -/
  connected : Bool := true
  deriving DecidableEq, Repr

/-- The browse of a service type. -/
structure SharedBrowse where
  typeDomain : String
  interface : String
  /-- The streams it sends to, oldest first. -/
  watchers : List Nat := []
  /-- The streams that are read, by number. -/
  streams : Association Nat BrowseStream := .empty
  nextStream : Nat := 0
  /-- The instances present, by full name. -/
  present : Association String PeerKey := .empty
  closed : Bool := false
  deriving DecidableEq

namespace SharedBrowse

/-- Add a stream in which some events wait already. -/
def addStream (b : SharedBrowse) (unread : List DirectoryEvent) : SharedBrowse × Nat :=
  ({ b with
      watchers := b.watchers ++ [b.nextStream]
      streams := b.streams.put b.nextStream { unread }
      nextStream := b.nextStream + 1 },
    b.nextStream)

/-- A new browse together with its first watcher. -/
def start (typeDomain interface : String) : SharedBrowse × Nat :=
  { typeDomain, interface : SharedBrowse }.addStream []

/-- Attach a watcher; a closed browse takes none. -/
def attach? (b : SharedBrowse) : Option (SharedBrowse × Nat) :=
  if b.closed then none else some (b.addStream (b.present.values.map .appeared))

/-- Stop reading a stream. -/
def dropStream (b : SharedBrowse) (stream : Nat) : SharedBrowse :=
  { b with streams := b.streams.erase stream }

/-- Whether the instance of a full name is present. -/
def isPresent (b : SharedBrowse) (fullName : String) : Bool := b.present.contains fullName

/-- Forget an instance that the node withdrew itself. -/
def forget (b : SharedBrowse) (fullName : String) : SharedBrowse :=
  { b with present := b.present.erase fullName }

/-- The instances present after an event about a full name. -/
def record (fullName : String) (present : Association String PeerKey) :
    DirectoryEvent → Association String PeerKey
  | .appeared key => present.put fullName key
  | .removed _ => present.erase fullName
  | .reset => present

/-- Send an event to the watchers that still read; the others are struck off. -/
def send (b : SharedBrowse) (event : DirectoryEvent) : SharedBrowse :=
  let watchers := b.watchers.filter b.streams.contains
  { b with
    watchers
    streams := b.streams.mapValues fun stream s =>
      if stream ∈ watchers then { s with unread := s.unread ++ [event] } else s }

/-- Record an event and send it. A browse without watchers closes; the answer
    tells whether it is still open. -/
def publish (b : SharedBrowse) (fullName : String) (event : DirectoryEvent) :
    SharedBrowse × Bool :=
  let b := { b with present := record fullName b.present event }.send event
  if b.watchers.isEmpty then ({ b with closed := true }, false) else (b, true)

/-- Close the browse, telling every watcher that nothing is certain any more. -/
def closeWithReset (b : SharedBrowse) : SharedBrowse :=
  let b := b.send .reset
  { b with
    closed := true
    present := .empty
    watchers := []
    streams := b.streams.mapValues fun stream s =>
      if stream ∈ b.watchers then { s with connected := false } else s }

end SharedBrowse

end ServiceDiscovery
