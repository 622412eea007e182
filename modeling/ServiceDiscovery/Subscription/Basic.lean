import ServiceDiscovery.Directory.Event
import ServiceDiscovery.Settings

/-!
# Subscriptions

A subscription turns the notices of a directory about one service type into
events about peers with addresses. It keeps one *slot* for each key that
appeared and was not removed since:

* *pending*, while the key is being resolved for the first time;
* *live*, once it was resolved and announced as added, perhaps with a refresh
  going on: a resolution after a repeated appearance.

Resolutions run concurrently. Each carries a *ticket*, a number never used
again, and its result counts only if the slot of its key still waits for that
ticket.

When the directory loses its state, every slot is given up and the directory
is watched anew after a pause.
-/

namespace ServiceDiscovery

/-- What a subscription knows about a key that appeared. -/
inductive Slot
  /-- It is being resolved for the first time, under a ticket. -/
  | pending (ticket : Nat)
  /-- It was announced as added; perhaps it is being resolved again. -/
  | live (peer : Peer) (refresh : Option Nat)
  deriving DecidableEq, Repr

namespace Slot

/-- The ticket whose result the slot waits for. -/
def ticket? : Slot → Option Nat
  | pending ticket => some ticket
  | live _ refresh => refresh

/-- The peer announced for the slot. -/
def peer? : Slot → Option Peer
  | pending _ => none
  | live peer _ => some peer

end Slot

/-- How far a resolution is. -/
inductive ResolutionStage
  /-- About to ask the directory. -/
  | asking
  /-- Waiting for the directory's answer. -/
  | waiting
  /-- Failed; waiting until a moment for the next attempt. -/
  | pausing (until_ : Nat)
  deriving DecidableEq, Repr

/-- A resolution under way. -/
structure Resolution where
  key : PeerKey
  /-- The attempts that failed. -/
  failures : Nat := 0
  backoff : Backoff
  /-- Whether it was told to stop. -/
  cancelled : Bool := false
  stage : ResolutionStage := .asking
  deriving DecidableEq, Repr

/-- Where a subscription stands towards the directory. -/
inductive SubscriptionPhase
  /-- Reading a stream. -/
  | listening
  /-- Waiting until a moment to watch again. -/
  | pausing (until_ : Nat)
  /-- About to watch again. -/
  | calling
  | ended
  deriving DecidableEq, Repr

/-- A subscription to a service type. -/
structure Subscription where
  serviceType : String
  settings : BrowserSettings := {}
  slots : Association PeerKey Slot := .empty
  nextTicket : Nat := 0
  /-- The resolutions under way, by ticket, in the order in which they were
      started. -/
  resolutions : Association Nat Resolution := .empty
  /-- The pauses before watching again. -/
  backoff : Backoff
  phase : SubscriptionPhase := .listening
  /-- Whether the subscription was told to stop. -/
  cancelled : Bool := false
  deriving DecidableEq

namespace Subscription

/-- A new subscription, reading its first stream. -/
def start (settings : BrowserSettings) (serviceType : String) : Subscription :=
  { serviceType, settings, backoff := settings.resubscribeBackoff }

/-- The peer announced under a key. -/
def peer? (s : Subscription) (key : PeerKey) : Option Peer :=
  (s.slots.get? key).bind Slot.peer?

/-- The live peers: those announced under their keys. -/
def livePeers (s : Subscription) : List Peer := s.slots.values.filterMap Slot.peer?

/-- The subscription with a resolution told to stop. -/
def stopResolution (s : Subscription) (ticket : Option Nat) : Subscription :=
  match ticket with
  | none => s
  | some ticket =>
    { s with resolutions := s.resolutions.update ticket fun r => { r with cancelled := true } }

/-! ## Handlers -/

/-- The subscription with a new resolution of a key, which gets the next
    ticket. -/
def startResolution (s : Subscription) (key : PeerKey) : Subscription :=
  { s with
    nextTicket := s.nextTicket + 1
    resolutions :=
      s.resolutions.put s.nextTicket { key, backoff := s.settings.resolveBackoff } }

/-- A key appeared: a new one is resolved, a live one refreshed; while a
    result is still waited for the notice adds nothing. -/
def onAppeared (s : Subscription) (key : PeerKey) : Subscription :=
  match s.slots.get? key with
  | none => { s with slots := s.slots.put key (.pending s.nextTicket) }.startResolution key
  | some (.live peer none) =>
    { s with slots := s.slots.put key (.live peer (some s.nextTicket)) }.startResolution key
  | some (.pending _) | some (.live _ (some _)) => s

/-- A key was removed: its slot is given up, and a live peer is announced as
    removed. -/
def onRemoved (s : Subscription) (key : PeerKey) : Subscription × List PeerEvent :=
  match s.slots.get? key with
  | none => (s, [])
  | some slot =>
    let s := { s with slots := s.slots.erase key }.stopResolution slot.ticket?
    (s, if slot.peer?.isSome then [.removed key] else [])

/-- A resolution of a key ended, with an endpoint or without. A first one that
    failed gives the slot up; a refresh that failed changes nothing, and one
    that found the peer elsewhere announces it as removed and added. -/
def onResolved (s : Subscription) (key : PeerKey) (ticket : Nat) (result : Option Endpoint) :
    Subscription × List PeerEvent :=
  match s.slots.get? key with
  | some (.pending t) =>
    if t ≠ ticket then (s, [])
    else
      match result with
      | some endpoint =>
        let peer := Peer.located key endpoint
        ({ s with slots := s.slots.put key (.live peer none) }, [.added peer])
      | none => ({ s with slots := s.slots.erase key }, [])
  | some (.live peer (some t)) =>
    if t ≠ ticket then (s, [])
    else
      match result with
      | some endpoint =>
        if endpoint = peer.endpoint then
          ({ s with slots := s.slots.put key (.live peer none) }, [])
        else
          let moved := Peer.located key endpoint
          ({ s with slots := s.slots.put key (.live moved none) }, [.removed key, .added moved])
      | none => ({ s with slots := s.slots.put key (.live peer none) }, [])
  | _ => (s, [])

/-- The events that announce the live peers among some slots as removed. -/
def removals (slots : List (PeerKey × Slot)) : List PeerEvent :=
  slots.filterMap fun (key, slot) => slot.peer?.map fun _ => .removed key

/-- The directory lost its state: every slot and every resolution is given up,
    and the live peers are announced as removed. -/
def onReset (s : Subscription) : Subscription × List PeerEvent :=
  ({ s with slots := .empty, resolutions := .empty }, removals s.slots.bindings)

/-- A notice of the directory. -/
def onEvent (s : Subscription) : DirectoryEvent → Subscription × List PeerEvent
  | .appeared key => (s.onAppeared key, [])
  | .removed key => s.onRemoved key
  | .reset => s.onReset

end Subscription

end ServiceDiscovery
