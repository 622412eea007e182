import Mathlib.Data.ENat.Lattice
import ServiceDiscovery.Proofs.Subscription.Origins

/-!
# How often a resolution asks

A resolution asks the directory, and asks again after a pause, until the directory answers
with an endpoint or no attempt is left. `Subscription.Pursued` follows one resolution through
a run, whatever else the subscription does meanwhile, as long as it is not told to stop and
the directory is not lost; the directory answers its calls as a given sequence of outcomes
tells.

Main statement: such a resolution is held up by nothing. It ends, once, with the call that is
the first to succeed, or with the last one allowed if that comes before, and its result is the
outcome of this call (`Pursued.ends_with_call`).
-/

namespace ServiceDiscovery

/-! ## Outcomes -/

/-- The number of calls up to the first that succeeds; there may be none. -/
noncomputable def firstSuccess (outcomes : Nat → Option Endpoint) : ℕ∞ :=
  ⨅ (i : Nat) (_ : (outcomes i).isSome), ((i + 1 : Nat) : ℕ∞)

section

variable {outcomes : Nat → Option Endpoint} {calls : Nat}

/-- After calls that failed, the first one to succeed is still to come. -/
theorem succ_le_firstSuccess (h : ∀ i < calls, outcomes i = none) :
    ((calls + 1 : Nat) : ℕ∞) ≤ firstSuccess outcomes := by
  refine le_iInf₂ fun i hi => Nat.cast_le.2 ?_
  by_contra hlt
  rw [h i (by omega)] at hi
  cases hi

theorem firstSuccess_eq (h : ∀ i < calls, outcomes i = none) (hcall : (outcomes calls).isSome) :
    firstSuccess outcomes = ((calls + 1 : Nat) : ℕ∞) :=
  le_antisymm (iInf₂_le calls hcall) (succ_le_firstSuccess h)

/-- If one more call fails, too, the first one to succeed comes after it. -/
theorem succ_lt_firstSuccess (h : ∀ i < calls, outcomes i = none) (hcall : outcomes calls = none) :
    ((calls + 1 : Nat) : ℕ∞) < firstSuccess outcomes := by
  have hall : ∀ i < calls + 1, outcomes i = none := fun i hi => by
    rcases Nat.lt_succ_iff_lt_or_eq.1 hi with hi | rfl
    · exact h i hi
    · exact hcall
  exact lt_of_lt_of_le (Nat.cast_lt.2 (Nat.lt_succ_self _)) (succ_le_firstSuccess hall)

/-- Calling until one succeeds, or until as many as allowed were made, stops at whichever comes
    first; the last call tells which it was. -/
theorem succ_eq_min_firstSuccess {limit : Nat} (h : ∀ i < calls, outcomes i = none)
    (hlimit : calls < limit) (hend : (outcomes calls).isSome ∨ limit ≤ calls + 1) :
    ((calls + 1 : Nat) : ℕ∞) = min (firstSuccess outcomes) limit ∧
      ((outcomes calls).isSome ↔ firstSuccess outcomes ≤ limit) := by
  cases hcall : outcomes calls with
  | some endpoint =>
    have hfirst := firstSuccess_eq h (by rw [hcall]; rfl)
    have hle : firstSuccess outcomes ≤ limit := hfirst.trans_le (Nat.cast_le.2 hlimit)
    exact ⟨by rw [min_eq_left hle, hfirst], fun _ => hle, fun _ => rfl⟩
  | none =>
    have hlast : limit = calls + 1 := by
      rcases hend with hsome | hle
      · rw [hcall] at hsome
        cases hsome
      · omega
    have hlt : (limit : ℕ∞) < firstSuccess outcomes := hlast ▸ succ_lt_firstSuccess h hcall
    exact ⟨by rw [min_eq_right hlt.le, hlast], nofun, fun hle => absurd hle (not_le.2 hlt)⟩

end

/-- How many steps a resolution has taken since it last paused. -/
def ResolutionStage.place : ResolutionStage → Nat
  | pausing _ => 0
  | asking => 1
  | waiting => 2

theorem ResolutionStage.place_le (stage : ResolutionStage) : stage.place ≤ 2 := by
  cases stage <;> simp [place]

namespace Subscription

variable {s s' : Subscription} {now ticket : Nat} {signal : SubscriptionSignal} {key : PeerKey}
  {r : Resolution} {after : Subscription × List PeerEvent}

/-! ## Steps of one resolution -/

/-- A signal about a resolution under way is a step of that resolution. -/
theorem step?_eq_stepResolution (hp : s.phase = .listening) (ht : ticketOf? signal = some ticket)
    (hr : s.resolutions.get? ticket = some r) :
    s.step? now signal = s.stepResolution now ticket r signal := by
  cases signal with
  | event | lost | expired | watched | cancelled => cases ht
  | asked t | answered t | rested t | stopped t =>
    obtain rfl := Option.some.inj ht
    rw [step?.eq_def, hp]
    simp only [ticketOf?, Option.bind_some, hr]

/-- A signal about a resolution that is not under way is refused. -/
theorem step?_eq_none_of_get? (ht : ticketOf? signal = some ticket)
    (hr : s.resolutions.get? ticket = none) : s.step? now signal = none := by
  refine Option.eq_none_iff_forall_ne_some.2 fun after hstep => ?_
  cases Move.of_step? hstep with
  | stop | appeared | removed | call | accepted | refused => cases ht
  | lose _ hsignal => rcases hsignal with rfl | rfl <;> cases ht
  | progress _ hr' ht' =>
    cases ht.symm.trans ht'
    cases hr.symm.trans hr'
  | answered _ hr' | stopped _ hr' =>
    cases ht
    cases hr.symm.trans hr'

/-- The result of a resolution ends it. -/
theorem get?_resolutions_conclude (ticket : Nat) (key : PeerKey) (result : Option Endpoint) :
    (s.conclude ticket key result).1.resolutions.get? ticket = none := by
  rw [conclude_frame, Association.get?_erase_self]

/-- A signal about something else leaves a resolution under way as it is, unless its key is
    cleared or the subscription stops. -/
theorem Move.aside (h : Move s now signal after) (hs : Ticketed s) (hp : s.phase = .listening)
    (hr : s.resolutions.get? ticket = some r) (ht : ticketOf? signal ≠ some ticket)
    (hkept : signal.clears r.key = false) (hne : signal ≠ .cancelled) :
    after.1.phase = .listening ∧ after.1.resolutions.get? ticket = some r := by
  cases h with
  | stop => exact absurd rfl hne
  | appeared k =>
    refine ⟨(phase_onAppeared k).trans hp, ?_⟩
    have hticket : ticket ≠ s.nextTicket := Nat.ne_of_lt (hs.fresh hr)
    rw [get?_resolutions_onAppeared, if_neg fun h => hticket h.1, hr]
  | removed k =>
    refine ⟨(phase_onRemoved k).trans hp, ?_⟩
    -- What is stopped is what the slot of the removed key waits for.
    have hother : s.waitsFor? k ≠ some ticket := fun hw => by
      obtain ⟨r', hr', hkey, -⟩ := hs.running hw
      cases hr.symm.trans hr'
      exact of_decide_eq_false hkept hkey.symm
    rw [waitsFor?] at hother
    rw [get?_resolutions_onRemoved, if_neg hother, hr]
  | lose _ hsignal => rcases hsignal with rfl | rfl <;> cases hkept
  | @progress _ t _ _ _ _ ht' =>
    have hticket : ticket ≠ t := by
      rintro rfl
      exact ht ht'
    refine ⟨hp, ?_⟩
    rw [setResolution, Association.get?_put, if_neg hticket, hr]
  | @answered t | @stopped t =>
    have hticket : ticket ≠ t := by
      rintro rfl
      exact ht rfl
    refine ⟨(phase_conclude ..).trans hp, ?_⟩
    rw [conclude_frame, Association.get?_erase, if_neg hticket, hr]
  | call hp' | accepted hp' | refused hp' => cases hp.symm.trans hp'

/-- A resolution that has ended does not come back. -/
theorem Move.gone (h : Move s now signal after) (hr : s.resolutions.get? ticket = none)
    (hold : ticket < s.nextTicket) :
    after.1.resolutions.get? ticket = none ∧ ticket < after.1.nextTicket := by
  refine ⟨?_, Nat.lt_of_lt_of_le hold h.nextTicket_le⟩
  cases h with
  | stop | call | accepted => first | rfl | exact hr
  | appeared k =>
    rw [get?_resolutions_onAppeared, if_neg fun h => absurd h.1 (Nat.ne_of_lt hold), hr]
  | removed k =>
    rw [get?_resolutions_onRemoved, hr]
    split <;> rfl
  | lose => rw [lose_fst, resolutions_pause, Association.get?_empty]
  | @progress _ t _ _ _ hr' =>
    have hticket : ticket ≠ t := by
      rintro rfl
      cases hr.symm.trans hr'
    rw [setResolution, Association.get?_put, if_neg hticket, hr]
  | answered | stopped =>
    rw [conclude_frame, Association.get?_erase, hr]
    split <;> rfl
  | refused => rw [resolutions_pause, hr]

/-- A step of a resolution that ends it is the directory's answer, unless it was told to stop. -/
theorem Move.ended (h : Move s now signal after) (hr : s.resolutions.get? ticket = some r)
    (hfree : r.cancelled = false) (ht : ticketOf? signal = some ticket)
    (hgone : after.1.resolutions.get? ticket = none) :
    ∃ result, signal = .answered ticket result ∧ after = s.conclude ticket r.key result := by
  cases h with
  | stop | appeared | removed | call | accepted | refused => cases ht
  | lose _ hsignal => rcases hsignal with rfl | rfl <;> cases ht
  | progress _ _ ht' =>
    obtain rfl := Option.some.inj (ht'.symm.trans ht)
    rw [setResolution, Association.get?_put_self] at hgone
    cases hgone
  | @answered _ _ result _ hr' =>
    obtain rfl := Option.some.inj ht
    obtain rfl := Option.some.inj (hr'.symm.trans hr)
    exact ⟨result, rfl, rfl⟩
  | stopped _ hr' hcancelled =>
    obtain rfl := Option.some.inj ht
    obtain rfl := Option.some.inj (hr'.symm.trans hr)
    cases hfree.symm.trans hcancelled

/-- No signal about a resolution that has ended is ever accepted again. -/
theorem log?_gone {signals : List (Nat × SubscriptionSignal)} {turns : List Turn}
    (hr : s.resolutions.get? ticket = none) (hold : ticket < s.nextTicket)
    (hlog : s.log? signals = some (s', turns)) :
    ∀ p ∈ signals, ticketOf? p.2 ≠ some ticket := by
  induction signals generalizing s turns with
  | nil => exact nofun
  | cons head signals ih =>
    obtain ⟨s₁, out, later, hstep, hlater, rfl⟩ := log?_cons_eq_some_iff.1 hlog
    obtain ⟨hr', hold'⟩ := (Move.of_step? hstep).gone hr hold
    intro p hp ht
    rcases List.mem_cons.1 hp with rfl | hp
    · rw [step?_eq_none_of_get? ht hr] at hstep
      cases hstep
    · exact ih hr' hold' hlater p hp ht

@[simp] theorem settings_pause : (s.pause now).settings = s.settings := by rw [pause]

theorem Move.settings_eq (h : Move s now signal after) : after.1.settings = s.settings := by
  cases h with
  | stop | progress | call | accepted => rfl
  | appeared k => rw [onAppeared_frame]
  | removed k => rw [onRemoved_frame]
  | lose => rw [lose_fst, settings_pause]
  | answered | stopped => rw [conclude_frame]
  | refused => exact settings_pause

theorem Run.settings_eq {settings : BrowserSettings} {serviceType : String}
    {events : List PeerEvent} (h : Run settings serviceType s events) : s.settings = settings := by
  induction h with
  | start => rfl
  | step _ hstep ih => exact (Move.of_step? hstep).settings_eq.trans ih
  | cancel _ ih => exact ih

/-- What an answer means to a resolution: with an endpoint, or at the last attempt allowed, it
    ends with the answer, and otherwise it pauses. -/
inductive Reply (s : Subscription) (ticket : Nat) (r : Resolution) (result : Option Endpoint)
    (after : Subscription × List PeerEvent) : Prop
  | ends : result.isSome ∨ s.settings.attempts ≤ r.failures + 1 →
      after = s.conclude ticket r.key result → Reply s ticket r result after
  | pauses {r' : Resolution} : result = none → r.failures + 1 < s.settings.attempts →
      after = (s.setResolution ticket r', []) → r'.key = r.key → r'.cancelled = r.cancelled →
      r'.failures = r.failures + 1 → Reply s ticket r result after

theorem reply_of_step? {result : Option Endpoint} (hp : s.phase = .listening)
    (hr : s.resolutions.get? ticket = some r)
    (h : s.step? now (.answered ticket result) = some after) : Reply s ticket r result after := by
  rw [step?_eq_stepResolution hp rfl hr, stepResolution] at h
  split at h
  · cases h
  · cases result with
    | some endpoint => exact .ends (.inl rfl) (Option.some.inj h).symm
    | none =>
      rw [Resolution.answered] at h
      split at h
      · rename_i hlast
        split at hlast
        · cases hlast
        · cases hlast
          exact .ends (.inr (Nat.not_lt.1 ‹_›)) (Option.some.inj h).symm
      · rename_i hagain
        split at hagain
        · cases hagain
          exact .pauses rfl ‹_› (Option.some.inj h).symm rfl rfl rfl
        · cases hagain

/-- A resolution that asks, or whose pause is over, is one place further. -/
theorem goes_of_step? (hp : s.phase = .listening) (hr : s.resolutions.get? ticket = some r)
    (hsignal : signal = .asked ticket ∨ signal = .rested ticket)
    (h : s.step? now signal = some after) :
    ∃ stage, after = (s.setResolution ticket { r with stage }, []) ∧
      stage.place = r.stage.place + 1 := by
  rcases hsignal with rfl | rfl
  · rw [step?_eq_stepResolution hp rfl hr, stepResolution] at h
    split at h
    · rename_i hstage
      exact ⟨.waiting, (Option.some.inj h).symm, by rw [hstage]; rfl⟩
    · cases h
  · rw [step?_eq_stepResolution hp rfl hr, stepResolution] at h
    split at h
    · rename_i hstage
      split at h
      · exact ⟨.asking, (Option.some.inj h).symm, by rw [hstage]; rfl⟩
      · cases h
    · cases h

/-- A resolution under way has a step to take: it waits for an answer, whatever that will be, or
    for the end of its pause. -/
theorem exists_step? (hp : s.phase = .listening) (hr : s.resolutions.get? ticket = some r)
    (result : Option Endpoint) :
    ∃ signal moment, (signal = .answered ticket result ∨ signal = .rested ticket) ∧
      ∀ now, moment ≤ now → (s.step? now signal).isSome := by
  have hanswered (hstage : ∀ moment, r.stage ≠ .pausing moment) (now : Nat) :
      (s.step? now (.answered ticket result)).isSome := by
    rw [step?_eq_stepResolution hp rfl hr, stepResolution]
    split
    · exact absurd ‹_› (hstage _)
    · split <;> rfl
  cases hstage : r.stage with
  | pausing moment =>
    refine ⟨.rested ticket, moment, .inr rfl, fun now hnow => ?_⟩
    rw [step?_eq_stepResolution hp rfl hr, stepResolution, hstage]
    simp [hnow]
  | asking | waiting =>
    refine ⟨_, 0, .inl rfl, fun now _ => hanswered (fun moment he => ?_) now⟩
    cases hstage.symm.trans he

/-! ## Pursuing a resolution -/

/-- The subscriptions in which a resolution is under way that an appearance of its key started,
    with the steps that it has taken and the calls that were answered, as long as its key is not
    cleared and the subscription is not told to stop. -/
inductive Pursued (settings : BrowserSettings) (serviceType : String)
    (outcomes : Nat → Option Endpoint) (key : PeerKey) (ticket : Nat) :
    Subscription → Nat → Nat → Prop
  | start {s s' : Subscription} {events out : List PeerEvent} {now : Nat} :
      Run settings serviceType s events → s.step? now (.event (.appeared key)) = some (s', out) →
      ticket ∈ s.started s' → Pursued settings serviceType outcomes key ticket s' 0 0
  /-- Something else happens. -/
  | aside {s s' : Subscription} {steps calls now : Nat} {signal : SubscriptionSignal}
      {out : List PeerEvent} : Pursued settings serviceType outcomes key ticket s steps calls →
      ticketOf? signal ≠ some ticket → signal.clears key = false → signal ≠ .cancelled →
      s.step? now signal = some (s', out) →
      Pursued settings serviceType outcomes key ticket s' steps calls
  /-- It asks the directory, or its pause is over. -/
  | goes {s s' : Subscription} {steps calls now : Nat} {signal : SubscriptionSignal}
      {out : List PeerEvent} : Pursued settings serviceType outcomes key ticket s steps calls →
      signal = .asked ticket ∨ signal = .rested ticket → s.step? now signal = some (s', out) →
      Pursued settings serviceType outcomes key ticket s' (steps + 1) calls
  /-- The directory answers, and that is not the end. -/
  | fails {s s' : Subscription} {steps calls now : Nat} {out : List PeerEvent} :
      Pursued settings serviceType outcomes key ticket s steps calls →
      s.step? now (.answered ticket (outcomes calls)) = some (s', out) →
      (s'.resolutions.get? ticket).isSome →
      Pursued settings serviceType outcomes key ticket s' (steps + 1) (calls + 1)

/-- A resolution is under way all of whose calls failed, and more are allowed. -/
structure Unresolved (settings : BrowserSettings) (serviceType : String)
    (outcomes : Nat → Option Endpoint) (key : PeerKey) (ticket : Nat) (s : Subscription)
    (steps calls : Nat) : Prop where
  run : ∃ events, Run settings serviceType s events
  listening : s.phase = .listening
  underWay : ∃ r, s.resolutions.get? ticket = some r ∧ r.key = key ∧ r.cancelled = false ∧
    r.failures = calls ∧ steps ≤ 3 * calls + r.stage.place
  failed : ∀ i < calls, outcomes i = none
  allowed : calls < settings.attempts

/-- A step of a resolution that ends it, answered as the outcomes tell. -/
structure Ends (outcomes : Nat → Option Endpoint) (ticket calls : Nat) (s : Subscription)
    (now : Nat) (signal : SubscriptionSignal) (after : Subscription × List PeerEvent) : Prop where
  step : s.step? now signal = some after
  about : ticketOf? signal = some ticket
  answered : ∀ result, signal = .answered ticket result → result = outcomes calls
  gone : after.1.resolutions.get? ticket = none

/-- Left to its own steps, answered as the outcomes tell, a resolution ends. -/
inductive Completes (outcomes : Nat → Option Endpoint) (ticket : Nat) : Subscription → Nat → Prop
  | ends {s : Subscription} {calls now : Nat} {signal : SubscriptionSignal}
      {after : Subscription × List PeerEvent} : Ends outcomes ticket calls s now signal after →
      Completes outcomes ticket s calls
  | goes {s s' : Subscription} {calls now : Nat} {signal : SubscriptionSignal}
      {out : List PeerEvent} : signal = .asked ticket ∨ signal = .rested ticket →
      s.step? now signal = some (s', out) → Completes outcomes ticket s' calls →
      Completes outcomes ticket s calls
  | fails {s s' : Subscription} {calls now : Nat} {out : List PeerEvent} :
      s.step? now (.answered ticket (outcomes calls)) = some (s', out) →
      Completes outcomes ticket s' (calls + 1) → Completes outcomes ticket s calls

section

variable {settings : BrowserSettings} {serviceType : String} {outcomes : Nat → Option Endpoint}
  {steps calls : Nat}

theorem Unresolved.ticketed
    (h : Unresolved settings serviceType outcomes key ticket s steps calls) : Ticketed s := by
  obtain ⟨events, hrun⟩ := h.run
  refine hrun.ticketed fun he => ?_
  cases h.listening.symm.trans he

theorem Unresolved.start {events out : List PeerEvent} (hrun : Run settings serviceType s events)
    (hstep : s.step? now (.event (.appeared key)) = some (s', out))
    (hm : ticket ∈ s.started s') :
    Unresolved settings serviceType outcomes key ticket s' 0 0 := by
  have hs : Ticketed s := hrun.ticketed fun he => by
    rw [step?_ended he] at hstep
    cases hstep
  have hattempts : 0 < settings.attempts := Nat.lt_of_lt_of_le Nat.one_pos (Nat.le_max_right _ _)
  cases Move.of_step? hstep with
  | appeared _ hp =>
    obtain ⟨rfl, hfree⟩ := (mem_started_onAppeared hs).1 hm
    rw [waitsFor?] at hfree
    refine ⟨⟨_, hrun.step hstep⟩, (phase_onAppeared key).trans hp,
      ⟨{ key, backoff := s.settings.resolveBackoff }, ?_, rfl, rfl, rfl, Nat.zero_le _⟩,
      fun i hi => absurd hi (Nat.not_lt_zero i), hattempts⟩
    rw [get?_resolutions_onAppeared, if_pos ⟨rfl, hfree⟩]
  | lose _ hsignal => rcases hsignal with he | he <;> cases he
  | progress _ _ ht => cases ht

theorem Unresolved.aside (h : Unresolved settings serviceType outcomes key ticket s steps calls)
    {out : List PeerEvent} (ht : ticketOf? signal ≠ some ticket)
    (hkept : signal.clears key = false) (hne : signal ≠ .cancelled)
    (hstep : s.step? now signal = some (s', out)) :
    Unresolved settings serviceType outcomes key ticket s' steps calls := by
  obtain ⟨events, hrun⟩ := h.run
  obtain ⟨r, hr, rfl, hcourse⟩ := h.underWay
  obtain ⟨hp, hr'⟩ :=
    (Move.of_step? hstep).aside h.ticketed h.listening hr ht hkept hne
  exact ⟨⟨_, hrun.step hstep⟩, hp, ⟨r, hr', rfl, hcourse⟩, h.failed, h.allowed⟩

theorem Unresolved.goes (h : Unresolved settings serviceType outcomes key ticket s steps calls)
    {out : List PeerEvent} (hsignal : signal = .asked ticket ∨ signal = .rested ticket)
    (hstep : s.step? now signal = some (s', out)) :
    Unresolved settings serviceType outcomes key ticket s' (steps + 1) calls := by
  obtain ⟨events, hrun⟩ := h.run
  obtain ⟨r, hr, hkey, hfree, hfailures, hsteps⟩ := h.underWay
  obtain ⟨stage, hafter, hplace⟩ := goes_of_step? h.listening hr hsignal hstep
  have hrun' := hrun.step hstep
  obtain ⟨rfl, -⟩ := Prod.mk.inj hafter
  refine ⟨⟨_, hrun'⟩, h.listening, ⟨{ r with stage }, Association.get?_put_self .., hkey, hfree,
    hfailures, ?_⟩, h.failed, h.allowed⟩
  rw [hplace]
  exact Nat.succ_le_succ hsteps

theorem Unresolved.fails (h : Unresolved settings serviceType outcomes key ticket s steps calls)
    {out : List PeerEvent}
    (hstep : s.step? now (.answered ticket (outcomes calls)) = some (s', out))
    (hgoes : (s'.resolutions.get? ticket).isSome) :
    Unresolved settings serviceType outcomes key ticket s' (steps + 1) (calls + 1) := by
  obtain ⟨events, hrun⟩ := h.run
  obtain ⟨r, hr, hkey, hfree, hfailures, hsteps⟩ := h.underWay
  cases reply_of_step? h.listening hr hstep with
  | ends _ hafter =>
    rw [show s' = _ from congrArg Prod.fst hafter, get?_resolutions_conclude] at hgoes
    cases hgoes
  | @pauses r' hnone hmore hafter hkey' hfree' hfailures' =>
    obtain ⟨rfl, rfl⟩ := Prod.mk.inj hafter
    rw [hrun.settings_eq, hfailures] at hmore
    refine ⟨⟨_, hrun.step hstep⟩, h.listening, ⟨r', Association.get?_put_self .., hkey'.trans hkey,
      hfree'.trans hfree, hfailures'.trans (congrArg (· + 1) hfailures), ?_⟩, fun i hi => ?_, hmore⟩
    · have hplace := r.stage.place_le
      omega
    · rcases Nat.lt_succ_iff_lt_or_eq.1 hi with hi | rfl
      · exact h.failed i hi
      · exact hnone

theorem Pursued.unresolved
    (h : Pursued settings serviceType outcomes key ticket s steps calls) :
    Unresolved settings serviceType outcomes key ticket s steps calls := by
  induction h with
  | start hrun hstep hm => exact .start hrun hstep hm
  | aside _ ht hkept hne hstep ih => exact ih.aside ht hkept hne hstep
  | goes _ hsignal hstep ih => exact ih.goes hsignal hstep
  | fails _ hstep hgoes ih => exact ih.fails hstep hgoes

/-- The answer that ends a resolution is the outcome of its call. It succeeds, or it was the last
    one allowed. -/
theorem Unresolved.ended (h : Unresolved settings serviceType outcomes key ticket s steps calls)
    (hends : Ends outcomes ticket calls s now signal after) :
    signal = .answered ticket (outcomes calls) ∧
      after = s.conclude ticket key (outcomes calls) ∧
      ((outcomes calls).isSome ∨ settings.attempts ≤ calls + 1) := by
  obtain ⟨events, hrun⟩ := h.run
  obtain ⟨r, hr, rfl, hfree, hfailures, -⟩ := h.underWay
  obtain ⟨result, rfl, hafter⟩ :=
    (Move.of_step? hends.step).ended hr hfree hends.about hends.gone
  obtain rfl := hends.answered result rfl
  refine ⟨rfl, hafter, ?_⟩
  cases reply_of_step? h.listening hr hends.step with
  | ends hend => rwa [hrun.settings_eq, hfailures] at hend
  | pauses _ _ hpauses =>
    have hgone := hends.gone
    rw [hpauses, setResolution, Association.get?_put_self] at hgone
    cases hgone

theorem Pursued.completes
    (h : Pursued settings serviceType outcomes key ticket s steps calls) :
    Completes outcomes ticket s calls := by
  -- By induction on the steps that are left: no resolution takes more than three for each of the
  -- attempts allowed.
  induction hleft : 3 * settings.attempts - steps using Nat.strong_induction_on
    generalizing s steps calls with
  | _ left ih =>
    subst hleft
    have hu := h.unresolved
    obtain ⟨r, hr, -, -, -, hsteps⟩ := hu.underWay
    have hplace := r.stage.place_le
    have hallowed := hu.allowed
    have hless : 3 * settings.attempts - (steps + 1) < 3 * settings.attempts - steps := by omega
    obtain ⟨signal, moment, hsignal, haccepted⟩ := exists_step? hu.listening hr (outcomes calls)
    obtain ⟨⟨s', out⟩, hstep⟩ := Option.isSome_iff_exists.1 (haccepted moment (Nat.le_refl _))
    rcases hsignal with rfl | rfl
    · cases hgone : s'.resolutions.get? ticket with
      | none =>
        exact .ends ⟨hstep, rfl, fun _ he => (SubscriptionSignal.answered.inj he).2.symm, hgone⟩
      | some r' => exact .fails hstep (ih _ hless (h.fails hstep (by rw [hgone]; rfl)) rfl)
    · exact .goes (.inr rfl) hstep (ih _ hless (h.goes (.inr rfl) hstep) rfl)

/-- As long as a resolution is pursued, it has made fewer calls than up to the first that
    succeeds and fewer than allowed, and it has a step to take. It takes no more than three for
    each call: asking, the answer, and the end of the pause after it. So it ends unless it is
    stopped, and it does so with its `min j (max 1 n)`-th call, where the `j`-th is the first to
    succeed and `n` is the number of attempts set: with the endpoint found if `j` is not beyond
    `max 1 n`, and with none otherwise. The result is that of its key under its ticket, and no
    other one follows. -/
theorem Pursued.ends_with_call
    (h : Pursued settings serviceType outcomes key ticket s steps calls) :
    let limit : ℕ∞ := ((max 1 settings.resolveAttempts : Nat) : ℕ∞)
    ((calls + 1 : Nat) : ℕ∞) ≤ min (firstSuccess outcomes) limit ∧
      steps ≤ 3 * calls + 2 ∧
      (∃ signal moment, (signal = .answered ticket (outcomes calls) ∨ signal = .rested ticket) ∧
        ∀ now, moment ≤ now → (s.step? now signal).isSome) ∧
      Completes outcomes ticket s calls ∧
      ∀ now signal after, Ends outcomes ticket calls s now signal after →
        ((calls + 1 : Nat) : ℕ∞) = min (firstSuccess outcomes) limit ∧
          signal = .answered ticket (outcomes calls) ∧
          after = s.conclude ticket key (outcomes calls) ∧
          ((outcomes calls).isSome ↔ firstSuccess outcomes ≤ limit) ∧
          ∀ signals s' turns, after.1.log? signals = some (s', turns) →
            ∀ p ∈ signals, ticketOf? p.2 ≠ some ticket := by
  have hu := h.unresolved
  obtain ⟨r, hr, -, -, -, hsteps⟩ := hu.underWay
  have hlimit : max 1 settings.resolveAttempts = settings.attempts := Nat.max_comm ..
  rw [hlimit]
  have hplace := r.stage.place_le
  refine ⟨le_min (succ_le_firstSuccess hu.failed) (Nat.cast_le.2 hu.allowed), by omega,
    exists_step? hu.listening hr (outcomes calls), h.completes, ?_⟩
  intro now signal after hends
  obtain ⟨hsignal, hafter, hend⟩ := hu.ended hends
  obtain ⟨hcalls, hsuccess⟩ := succ_eq_min_firstSuccess hu.failed hu.allowed hend
  refine ⟨hcalls, hsignal, hafter, hsuccess, fun signals s' turns hlog => ?_⟩
  have hold : ticket < after.1.nextTicket :=
    Nat.lt_of_lt_of_le (hu.ticketed.fresh hr) (Move.of_step? hends.step).nextTicket_le
  exact log?_gone hends.gone hold hlog

/-- A key that is found with the third of three calls; another one appears and is found
    meanwhile. -/
theorem Pursued.ends_with_call_third :
    let key : PeerKey := ⟨"eth0", .inet, "nas", "t", "local"⟩
    let other : PeerKey := ⟨"eth0", .inet, "tv", "t", "local"⟩
    let endpoint : Endpoint := .v4 ⟨10, 0, 0, 5⟩ 9000
    let outcomes : Nat → Option Endpoint := fun i => if i < 2 then none else some endpoint
    ∃ s, Pursued {} "t" outcomes key 0 s 5 2 ∧ s.peer? other = some (.located other endpoint) ∧
      s.step? 10000000000 (.answered 0 (some endpoint)) = some (s.conclude 0 key (some endpoint)) ∧
      (s.conclude 0 key (some endpoint)).2 = [.added (.located key endpoint)] ∧
      ((3 : Nat) : ℕ∞) = min (firstSuccess outcomes) ((3 : Nat) : ℕ∞) := by
  intro key other endpoint outcomes
  have hpursued : ∃ s, Pursued {} "t" outcomes key 0 s 5 2 ∧
      s.peer? other = some (.located other endpoint) ∧
      s.step? 10000000000 (.answered 0 (some endpoint)) =
        some (s.conclude 0 key (some endpoint)) ∧
      (s.conclude 0 key (some endpoint)).2 = [.added (.located key endpoint)] ∧
      (s.conclude 0 key (some endpoint)).1.resolutions.get? 0 = none := by
    have hstep (s : Subscription) (now : Nat) (signal : SubscriptionSignal)
        (h : (s.step? now signal).isSome) : s.step? now signal = some (_, _) :=
      (Option.some_get h).symm
    have h₀ : Pursued {} "t" outcomes key 0 _ 0 0 :=
      .start .start (hstep _ 0 (.event (.appeared key)) (by decide)) (by decide)
    have h₁ := h₀.goes (.inl rfl) (hstep _ 0 (.asked 0) (by decide))
    have h₂ := h₁.fails (hstep _ 1 (.answered 0 none) (by decide)) (by decide)
    have h₃ := h₂.aside (by decide) (by decide) (by decide)
      (hstep _ 2 (.event (.appeared other)) (by decide))
    have h₄ := h₃.goes (.inr rfl) (hstep _ 1000000000 (.rested 0) (by decide +kernel))
    have h₅ := h₄.fails (hstep _ 1000000000 (.answered 0 none) (by decide +kernel))
      (by decide +kernel)
    have h₆ := h₅.aside (by decide) (by decide) (by decide)
      (hstep _ 2000000000 (.answered 1 (some endpoint)) (by decide +kernel))
    have h₇ := h₆.goes (.inr rfl) (hstep _ 10000000000 (.rested 0) (by decide +kernel))
    exact ⟨_, h₇, by decide +kernel, by decide +kernel, by decide +kernel, by decide +kernel⟩
  obtain ⟨s, hs, hother, hstep, hout, hgone⟩ := hpursued
  have hends : Ends outcomes 0 2 s 10000000000 (.answered 0 (some endpoint))
      (s.conclude 0 key (some endpoint)) :=
    ⟨hstep, rfl, fun result he => (SubscriptionSignal.answered.inj he).2.symm, hgone⟩
  obtain ⟨hcalls, -⟩ := hs.ends_with_call.2.2.2.2 _ _ _ hends
  exact ⟨s, hs, hother, hstep, hout, hcalls⟩

end

end Subscription

end ServiceDiscovery
