import ServiceDiscovery.Multicast.AddressBook
import ServiceDiscovery.Multicast.SharedBrowse

/-!
# Relays

A relay forwards what the responder reports about a service type to the shared
browse of that type, and enters resolved adverts into the address book. It ends
`idle` once no watcher is left, and otherwise with a reset of the browse: when
it is told to stop, when the responder was replaced, or when the search ended.

What is ready at the same time may be noticed in any order (`RelaySignal`).
-/

namespace ServiceDiscovery

/-- What the responder reports about a search. -/
inductive SearchEvent
  | started
  | found (fullName : String)
  | resolved (advert : Advert)
  | removed (fullName : String)
  | stopped
  deriving DecidableEq

/-- Why a relay ended. -/
inductive RelayExit
  /-- Every watcher went away. -/
  | idle
  /-- The watchers were told that nothing is certain any more. -/
  | reset
  deriving DecidableEq, Repr

/-- A relay between the responder and a shared browse. -/
structure Relay where
  /-- The reports not worked off yet. -/
  reports : List SearchEvent := []
  /-- Whether reports may still come. -/
  connected : Bool := true
  /-- Whether the responder was replaced, or will not be any more. -/
  replaced : Bool := false
  /-- Whether it was told to stop. -/
  cancelled : Bool := false
  exit : Option RelayExit := none
  deriving DecidableEq

/-- What a relay notices next. -/
inductive RelaySignal
  | cancelled
  | replaced
  /-- A report, or that none will come any more. -/
  | report
  deriving DecidableEq, Repr

namespace Relay

/-- Put a report to a relay; the answer tells whether it still listens. -/
def put (r : Relay) (event : SearchEvent) : Relay × Bool :=
  if r.exit.isSome || !r.connected then (r, false)
  else ({ r with reports := r.reports ++ [event] }, true)

/-- A relay, its browse and the address book. -/
abbrev Parts := Relay × SharedBrowse × AddressBook

/-- The end of a relay with a reset. -/
def stop : Parts → Parts
  | (r, browse, book) => ({ r with exit := some .reset, reports := [] }, browse.closeWithReset, book)

/-- Publish an event about a full name. -/
def publish (fullName : String) (event : PeerKey → DirectoryEvent) : Parts → Parts
  | (r, browse, book) =>
    let key := PeerKey.ofFullName fullName browse.typeDomain browse.interface
    match browse.publish fullName (event key) with
    | (browse, true) => (r, browse, book)
    | (browse, false) => ({ r with exit := some .idle, reports := [] }, browse, book)

/-- What a report does. -/
def handle (event : SearchEvent) (parts : Parts) : Parts :=
  let (r, browse, book) := parts
  match event with
  | .started => parts
  | .found fullName => publish fullName .appeared parts
  | .resolved advert => publish advert.fullName .appeared (r, browse, book.enter advert)
  | .removed fullName => publish fullName .removed (r, browse, book.strike fullName)
  | .stopped => stop parts

/-- The step of a relay that notices a signal, if that is there. -/
def step? (parts : Parts) (signal : RelaySignal) : Option Parts :=
  let (r, browse, book) := parts
  if r.exit.isSome then none
  else
    match signal with
    | .cancelled => if r.cancelled then some (stop parts) else none
    | .replaced => if r.replaced then some (stop parts) else none
    | .report =>
      match r.reports with
      | event :: reports => some (handle event ({ r with reports }, browse, book))
      | [] => if r.connected then none else some (stop parts)

/-- The next step of a relay that notices an order to stop first, then a
    replacement, and reports last. -/
def next? (parts : Parts) : Option Parts :=
  step? parts .cancelled <|> step? parts .replaced <|> step? parts .report

end Relay

end ServiceDiscovery
