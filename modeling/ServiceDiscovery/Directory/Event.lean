import ServiceDiscovery.Service

/-!
# Directories

What announcers and subscriptions have to do with a service directory. A
record that is registered gets a `Registration`, whose number the directory
never gives out again. Whoever watches a service type is sent
`DirectoryEvent`s: the records present already first, then every change. A
`reset` says that the directory lost its state, so that nothing it said before
is confirmed; a stream that ends says the same.

`keysAfter` is what a watcher that folds its stream believes to be present.
-/

namespace ServiceDiscovery

/-- A record registered with a directory. -/
structure Registration where
  id : Nat
  fullName : String
  deriving DecidableEq, Repr

/-- A change notice for a watched service type. -/
inductive DirectoryEvent
  | appeared (key : PeerKey)
  | removed (key : PeerKey)
  /-- The directory lost its state. -/
  | reset
  deriving DecidableEq, Repr

namespace DirectoryEvent

/-- The keys believed present after one more event, those seen last at the
    end. -/
def apply (keys : List PeerKey) : DirectoryEvent → List PeerKey
  | appeared key => if key ∈ keys then keys else keys ++ [key]
  | removed key => keys.filter (· ≠ key)
  | reset => []

/-- The keys believed present after a list of events. -/
def keysAfter (events : List DirectoryEvent) : List PeerKey := events.foldl apply []

end DirectoryEvent

end ServiceDiscovery
