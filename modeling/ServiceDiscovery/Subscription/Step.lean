import ServiceDiscovery.Subscription.Basic

/-!
# Steps of a subscription

`Subscription.step?` lets a subscription react to one `SubscriptionSignal`: a
notice read from its stream, the end of the stream, what happens to one of its
resolutions, the end of a pause, the answer to watching again, or the order to
stop. A signal that the subscription does not wait for is refused. A step
returns the events that it announces.

A resolution that fails is tried again after a pause, as often as the settings
allow; `Resolution.answered` is that rule. Losing the directory, by notice or
by the end of the stream, leads to a pause whose length grows until watching
succeeds.
-/

namespace ServiceDiscovery

namespace Resolution

/-- What becomes of a resolution. -/
inductive Next
  /-- It ends with a result. -/
  | ended (result : Option Endpoint)
  /-- It goes on after a pause. -/
  | again (resolution : Resolution)
  deriving DecidableEq

/-- The directory answered, at a moment. A failure is the end if it is the last
    attempt allowed. -/
def answered (r : Resolution) (attempts now : Nat) : Option Endpoint → Next
  | some endpoint => .ended (some endpoint)
  | none =>
    if r.failures + 1 < attempts then
      .again
        { r with
          failures := r.failures + 1
          backoff := r.backoff.next
          stage := .pausing (now + r.backoff.delay) }
    else .ended none

end Resolution

/-- What a subscription reacts to. -/
inductive SubscriptionSignal
  /-- A notice read from the stream. -/
  | event (event : DirectoryEvent)
  /-- The stream has ended. -/
  | lost
  /-- A resolution asks the directory, which does not answer at once. -/
  | asked (ticket : Nat)
  /-- The directory answers a resolution. -/
  | answered (ticket : Nat) (result : Option Endpoint)
  /-- The pause of a resolution is over. -/
  | rested (ticket : Nat)
  /-- A resolution that was told to stop does so. -/
  | stopped (ticket : Nat)
  /-- The pause before watching again is over. -/
  | expired
  /-- The directory lets the subscription watch again, or refuses. -/
  | watched (accepted : Bool)
  /-- The order to stop is noticed. -/
  | cancelled
  deriving DecidableEq

namespace Subscription

/-- The subscription with a resolution at another stage. -/
def setResolution (s : Subscription) (ticket : Nat) (r : Resolution) : Subscription :=
  { s with resolutions := s.resolutions.put ticket r }

/-- The subscription without a resolution. -/
def endResolution (s : Subscription) (ticket : Nat) : Subscription :=
  { s with resolutions := s.resolutions.erase ticket }

/-- Pause before watching again. -/
def pause (s : Subscription) (now : Nat) : Subscription :=
  { s with phase := .pausing (now + s.backoff.delay), backoff := s.backoff.next }

/-- A resolution ends with a result. -/
def conclude (s : Subscription) (ticket : Nat) (key : PeerKey) (result : Option Endpoint) :
    Subscription × List PeerEvent :=
  (s.endResolution ticket).onResolved key ticket result

/-- The directory is lost: everything is given up, and after a pause it is
    watched again. -/
def lose (s : Subscription) (now : Nat) : Subscription × List PeerEvent :=
  let (s, events) := s.onReset
  (s.pause now, events)

/-- One step of a resolution. -/
def stepResolution (s : Subscription) (now ticket : Nat) (r : Resolution) :
    SubscriptionSignal → Option (Subscription × List PeerEvent)
  | .asked _ =>
    if r.stage = .asking then some (s.setResolution ticket { r with stage := .waiting }, [])
    else none
  | .answered _ result =>
    match r.stage with
    | .pausing _ => none
    | _ =>
      match r.answered s.settings.attempts now result with
      | .ended result => some (s.conclude ticket r.key result)
      | .again r => some (s.setResolution ticket r, [])
  | .rested _ =>
    match r.stage with
    | .pausing moment =>
      if moment ≤ now then some (s.setResolution ticket { r with stage := .asking }, []) else none
    | _ => none
  | .stopped _ => if r.cancelled then some (s.conclude ticket r.key none) else none
  | _ => none

/-- The ticket that a signal is about. -/
def ticketOf? : SubscriptionSignal → Option Nat
  | .asked ticket | .answered ticket _ | .rested ticket | .stopped ticket => some ticket
  | _ => none

/-- One step on a signal, if the subscription waits for that signal. -/
def step? (s : Subscription) (now : Nat) (signal : SubscriptionSignal) :
    Option (Subscription × List PeerEvent) :=
  match s.phase, signal with
  | .ended, _ => none
  | _, .cancelled =>
    if s.cancelled then some ({ s with phase := .ended, resolutions := .empty }, []) else none
  | .listening, .event .reset => some (s.lose now)
  | .listening, .event event => some (s.onEvent event)
  | .listening, .lost => some (s.lose now)
  | .listening, signal =>
    (ticketOf? signal).bind fun ticket =>
      (s.resolutions.get? ticket).bind fun r => s.stepResolution now ticket r signal
  | .pausing moment, .expired =>
    if moment ≤ now then some ({ s with phase := .calling }, []) else none
  | .calling, .watched true =>
    some ({ s with phase := .listening, backoff := s.backoff.reset }, [])
  | .calling, .watched false => some (s.pause now, [])
  | _, _ => none

/-- Tell a subscription to stop. -/
def cancel (s : Subscription) : Subscription := { s with cancelled := true }

end Subscription

end ServiceDiscovery
