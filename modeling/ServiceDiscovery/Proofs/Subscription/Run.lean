import ServiceDiscovery.Subscription.Step

/-!
# Runs of a subscription

A *run* of a subscription is any sequence of steps, at any moments and on any
signals that it waits for, with the order to stop given at any time. It is
recorded with everything the subscription announced.

`Move` tells what one step can do, once and for all: `Move.of_step?` takes every
step apart, and what a run preserves follows from what each move preserves.
-/

namespace ServiceDiscovery

namespace Resolution

variable {r r' : Resolution} {attempts now : Nat} {answer result : Option Endpoint}

/-- A resolution that an answer ends, ends with that answer. -/
theorem answered_eq_ended (h : r.answered attempts now answer = .ended result) :
    answer = result := by
  cases answer with
  | some endpoint => exact Next.ended.inj h
  | none =>
    rw [answered] at h
    split at h
    · cases h
    · exact Next.ended.inj h

/-- A resolution that goes on is for the same key, and no more told to stop than
    before. -/
theorem answered_eq_again (h : r.answered attempts now answer = .again r') :
    r'.key = r.key ∧ r'.cancelled = r.cancelled := by
  cases answer with
  | some endpoint => cases h
  | none =>
    rw [answered] at h
    split at h
    · cases h
      exact ⟨rfl, rfl⟩
    · cases h

end Resolution

namespace Subscription

/-! ## Losing the directory -/

section

variable {s : Subscription} (now : Nat)

@[simp] theorem slots_pause : (s.pause now).slots = s.slots := by rw [pause]

@[simp] theorem resolutions_pause : (s.pause now).resolutions = s.resolutions := by rw [pause]

@[simp] theorem nextTicket_pause : (s.pause now).nextTicket = s.nextTicket := by rw [pause]

@[simp] theorem serviceType_pause : (s.pause now).serviceType = s.serviceType := by rw [pause]

@[simp] theorem cancelled_pause : (s.pause now).cancelled = s.cancelled := by rw [pause]

@[simp] theorem phase_pause :
    (s.pause now).phase = .pausing (now + s.backoff.delay) := by rw [pause]

@[simp] theorem lose_fst :
    (s.lose now).1 = { s with slots := .empty, resolutions := .empty }.pause now := by
  rw [lose, onReset]

@[simp] theorem lose_snd : (s.lose now).2 = removals s.slots.bindings := by
  rw [lose, onReset]

end

/-! ## Moves -/

/-- What a subscription does in one step on a signal: the subscription after it,
    and what is announced. -/
inductive Move (s : Subscription) (now : Nat) :
    SubscriptionSignal → Subscription × List PeerEvent → Prop
  | stop : s.cancelled = true →
      Move s now .cancelled ({ s with phase := .ended, resolutions := .empty }, [])
  | appeared (key : PeerKey) : s.phase = .listening →
      Move s now (.event (.appeared key)) (s.onAppeared key, [])
  | removed (key : PeerKey) : s.phase = .listening →
      Move s now (.event (.removed key)) (s.onRemoved key)
  | lose {signal : SubscriptionSignal} : s.phase = .listening →
      signal = .event .reset ∨ signal = .lost → Move s now signal (s.lose now)
  /-- A resolution asks, fails, or rests, and goes on. -/
  | progress {signal : SubscriptionSignal} {ticket : Nat} {r r' : Resolution} :
      s.phase = .listening → s.resolutions.get? ticket = some r →
      ticketOf? signal = some ticket → r'.key = r.key → r'.cancelled = r.cancelled →
      Move s now signal (s.setResolution ticket r', [])
  | answered {ticket : Nat} {r : Resolution} {result : Option Endpoint} :
      s.phase = .listening → s.resolutions.get? ticket = some r →
      Move s now (.answered ticket result) (s.conclude ticket r.key result)
  | stopped {ticket : Nat} {r : Resolution} :
      s.phase = .listening → s.resolutions.get? ticket = some r → r.cancelled = true →
      Move s now (.stopped ticket) (s.conclude ticket r.key none)
  | call {moment : Nat} : s.phase = .pausing moment →
      Move s now .expired ({ s with phase := .calling }, [])
  | accepted : s.phase = .calling →
      Move s now (.watched true) ({ s with phase := .listening, backoff := s.backoff.reset }, [])
  | refused : s.phase = .calling → Move s now (.watched false) (s.pause now, [])

namespace Move

variable {s : Subscription} {now : Nat} {signal : SubscriptionSignal}
  {after : Subscription × List PeerEvent}

theorem of_stepResolution {ticket : Nat} {r : Resolution} (hp : s.phase = .listening)
    (hr : s.resolutions.get? ticket = some r) (ht : ticketOf? signal = some ticket)
    (h : s.stepResolution now ticket r signal = some after) : Move s now signal after := by
  cases signal with
  | event | lost | expired | watched | cancelled => cases ht
  | asked t =>
    rw [stepResolution] at h
    split at h
    · obtain rfl := Option.some.inj h
      exact .progress hp hr ht rfl rfl
    · cases h
  | answered t result =>
    obtain rfl : t = ticket := Option.some.inj ht
    simp only [stepResolution] at h
    split at h
    · cases h
    · split at h
      · rename_i he
        obtain rfl := Option.some.inj h
        obtain rfl := Resolution.answered_eq_ended he
        exact .answered hp hr
      · rename_i r' ha
        obtain rfl := Option.some.inj h
        obtain ⟨hk, hc⟩ := Resolution.answered_eq_again ha
        exact .progress hp hr ht hk hc
  | rested t =>
    simp only [stepResolution] at h
    split at h
    · split at h
      · obtain rfl := Option.some.inj h
        exact .progress hp hr ht rfl rfl
      · cases h
    · cases h
  | stopped t =>
    obtain rfl : t = ticket := Option.some.inj ht
    simp only [stepResolution] at h
    split at h
    · rename_i hc
      obtain rfl := Option.some.inj h
      exact .stopped hp hr hc
    · cases h

/-- Every step is one of the moves. -/
theorem of_step? (h : s.step? now signal = some after) : Move s now signal after := by
  unfold step? at h
  split at h
  · cases h
  · split at h
    · obtain rfl := Option.some.inj h
      exact .stop ‹_›
    · cases h
  · obtain rfl := Option.some.inj h
    exact .lose ‹_› (.inl rfl)
  · rename_i event hne hp
    obtain rfl := Option.some.inj h
    cases event with
    | appeared key => exact .appeared key hp
    | removed key => exact .removed key hp
    | reset => exact absurd rfl hne
  · obtain rfl := Option.some.inj h
    exact .lose ‹_› (.inr rfl)
  · rename_i hp _ _ _ _
    simp only [Option.bind_eq_some_iff] at h
    obtain ⟨ticket, ht, r, hr, h⟩ := h
    exact .of_stepResolution hp hr ht h
  · split at h
    · obtain rfl := Option.some.inj h
      exact .call ‹_›
    · cases h
  · obtain rfl := Option.some.inj h
    exact .accepted ‹_›
  · obtain rfl := Option.some.inj h
    exact .refused ‹_›
  · cases h

end Move

/-! ## Runs -/

/-- The subscriptions that a subscription to `serviceType` may become, each with
    all that was announced until then, in order. -/
inductive Run (settings : BrowserSettings) (serviceType : String) :
    Subscription → List PeerEvent → Prop
  | start : Run settings serviceType (start settings serviceType) []
  | step {s s' : Subscription} {events out : List PeerEvent} {now : Nat}
      {signal : SubscriptionSignal} : Run settings serviceType s events →
      s.step? now signal = some (s', out) → Run settings serviceType s' (events ++ out)
  | cancel {s : Subscription} {events : List PeerEvent} : Run settings serviceType s events →
      Run settings serviceType s.cancel events

/-- The subscription after a series of signals, each at a moment, and what it
    announced, if it waited for each of them. -/
def react? (s : Subscription) : List (Nat × SubscriptionSignal) →
    Option (Subscription × List PeerEvent)
  | [] => some (s, [])
  | (now, signal) :: signals =>
    (s.step? now signal).bind fun (s', out) =>
      (react? s' signals).map fun (s'', more) => (s'', out ++ more)

theorem Run.react {settings : BrowserSettings} {serviceType : String} {s s' : Subscription}
    {events out : List PeerEvent} {signals : List (Nat × SubscriptionSignal)}
    (h : Run settings serviceType s events) (hr : s.react? signals = some (s', out)) :
    Run settings serviceType s' (events ++ out) := by
  induction signals generalizing s events out with
  | nil =>
    obtain ⟨rfl, rfl⟩ := Prod.mk.inj (Option.some.inj hr)
    rw [List.append_nil]
    exact h
  | cons head signals ih =>
    obtain ⟨⟨s₁, first⟩, hstep, hrest⟩ := Option.bind_eq_some_iff.1 hr
    obtain ⟨⟨s₂, more⟩, hmore, heq⟩ := Option.map_eq_some_iff.1 hrest
    obtain ⟨rfl, rfl⟩ := Prod.mk.inj heq
    rw [← List.append_assoc]
    exact ih (h.step hstep) hmore

end Subscription

end ServiceDiscovery
