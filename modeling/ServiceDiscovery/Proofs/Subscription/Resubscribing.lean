import Mathlib.Data.List.Induction
import ServiceDiscovery.Proofs.Association
import ServiceDiscovery.Proofs.Subscription.LivePeers
import ServiceDiscovery.Proofs.Subscription.Origins

/-!
# Watching again

What a subscription does between the loss of its directory and the first event that it
announces after it.

With the loss it announces that every live peer is removed, and as it asks to watch again
nothing is left: no slot, no resolution, no peer that its events add up to
(`Subscription.GivenUp`). Whatever it announces next is the addition of a peer by a
resolution that an appearance in the new stream started (`Turn.Regains`). Each loss is
followed by one permission to watch again, unless the subscription is still asking or was
told to stop.

`Subscription.Passage` says what a step means to the phase of a subscription;
`Logged.resubscribing` puts the three together.
-/

namespace ServiceDiscovery

/-- Whether the directory is lost with a signal. -/
def SubscriptionSignal.loses : SubscriptionSignal → Bool
  | event .reset | lost => true
  | _ => false

/-- Whether a subscription is about to watch again, or waits to. -/
def SubscriptionPhase.away : SubscriptionPhase → Bool
  | pausing _ | calling => true
  | listening | ended => false

theorem SubscriptionSignal.clears_of_loses {signal : SubscriptionSignal} (h : signal.loses = true)
    (key : PeerKey) : signal.clears key = true := by
  unfold loses at h
  split at h
  · rfl
  · rfl
  · cases h

namespace Turn

/-- How often the directory was lost. -/
def losses (log : List Turn) : Nat := log.countP (·.signal.loses)

/-- How often the subscription was let watch again. -/
def returns (log : List Turn) : Nat := log.countP (·.signal = .watched true)

theorem losses_concat (log : List Turn) (turn : Turn) :
    losses (log ++ [turn]) = losses log + if turn.signal.loses then 1 else 0 := by
  rw [losses, List.countP_append, List.countP_singleton, losses]

theorem returns_concat (log : List Turn) (turn : Turn) :
    returns (log ++ [turn]) = returns log + if turn.signal = .watched true then 1 else 0 := by
  rw [returns, List.countP_append, List.countP_singleton, returns]
  simp only [decide_eq_true_eq]

/-- After quiet turns a turn announces a peer, and nothing but that: the subscription was let
    watch again, in this stream the key appeared and was not cleared since, and the resolution
    that its appearance started has found the peer. -/
def Regains (quiet : List Turn) (turn : Turn) : Prop :=
  ∃ before returned stream key ticket endpoint, quiet = before ++ returned :: stream ∧
    returned.signal = .watched true ∧ (∀ turn' ∈ stream, turn'.signal.loses = false) ∧
    Current stream key ticket ∧ turn.signal = .answered ticket (some endpoint) ∧
    turn.announced = [.added (.located key endpoint)]

variable {log earlier later : List Turn} {turn : Turn} {key : PeerKey} {ticket : Nat}

/-- A resolution that is current was started after each turn that cleared its key. -/
theorem Current.of_clears (h : Current (earlier ++ turn :: later) key ticket)
    (hclears : turn.signal.clears key = true) : Current later key ticket := by
  obtain ⟨before, first, after, hlog, hstarts, hafter⟩ := h
  rcases List.append_eq_append_iff.1 hlog with ⟨between, rfl, hrest⟩ | ⟨between, rfl, hrest⟩
  · cases between with
    | nil =>
      obtain ⟨rfl, rfl⟩ := List.cons.inj hrest
      rw [hstarts.1] at hclears
      cases hclears
    | cons _ between =>
      obtain ⟨rfl, rfl⟩ := List.cons.inj hrest
      exact ⟨between, first, after, rfl, hstarts, hafter⟩
  · cases between with
    | nil =>
      obtain ⟨rfl, rfl⟩ := List.cons.inj hrest
      rw [hstarts.1] at hclears
      cases hclears
    | cons _ between =>
      obtain ⟨rfl, rfl⟩ := List.cons.inj hrest
      rw [hafter turn (by simp)] at hclears
      cases hclears

end Turn

namespace Subscription

variable {s s' : Subscription} {now : Nat} {signal : SubscriptionSignal}
  {after : Subscription × List PeerEvent}

/-! ## Phases -/

/-- What a step means to the phase: it goes on listening, loses the directory, goes on waiting
    to watch again, returns, or ends. -/
inductive Passage (s : Subscription) (now : Nat) (signal : SubscriptionSignal)
    (after : Subscription × List PeerEvent) : Prop
  | listens : s.phase = .listening → after.1.phase = .listening → signal.loses = false →
      signal ≠ .watched true → Passage s now signal after
  | loses : s.phase = .listening → signal.loses = true → signal ≠ .watched true →
      after = s.lose now → Passage s now signal after
  | waits : s.phase.away = true → after.1.phase.away = true → after.2 = [] →
      signal = .expired ∨ signal = .watched false → after.1.slots = s.slots →
      after.1.resolutions = s.resolutions → Passage s now signal after
  | returns : s.phase = .calling → after.1.phase = .listening → signal = .watched true →
      Passage s now signal after
  | ends : after.1.phase = .ended → signal = .cancelled → after.1.cancelled = true →
      Passage s now signal after

/-- A signal about a resolution is neither a loss nor an answer to watching again. -/
theorem loses_of_ticketOf? {ticket : Nat} (h : ticketOf? signal = some ticket) :
    signal.loses = false ∧ signal ≠ .watched true := by
  cases signal with
  | asked | answered | rested | stopped => exact ⟨rfl, fun he => nomatch he⟩
  | event | lost | expired | watched | cancelled => cases h

theorem Move.passage (h : Move s now signal after) : Passage s now signal after := by
  cases h with
  | stop hcancelled => exact .ends rfl rfl hcancelled
  | appeared key hp => exact .listens hp ((phase_onAppeared key).trans hp) rfl nofun
  | removed key hp => exact .listens hp ((phase_onRemoved key).trans hp) rfl nofun
  | lose hp hsignal => rcases hsignal with rfl | rfl <;> exact .loses hp rfl nofun rfl
  | progress hp _ ht =>
    obtain ⟨hkept, hne⟩ := loses_of_ticketOf? ht
    exact .listens hp hp hkept hne
  | answered hp | stopped hp => exact .listens hp ((phase_conclude ..).trans hp) rfl nofun
  | call hp =>
    exact .waits (by rw [hp]; rfl) rfl rfl (.inl rfl) rfl rfl
  | accepted hp => exact .returns hp rfl rfl
  | refused hp =>
    exact .waits (by rw [hp]; rfl) (by rw [phase_pause]; rfl) rfl (.inr rfl) (slots_pause now)
      (resolutions_pause now)

theorem Passage.eq_lose (h : Passage s now signal after) (hloses : signal.loses = true) :
    after = s.lose now := by
  cases h with
  | loses _ _ _ hlose => exact hlose
  | listens _ _ hkept => exact absurd hloses (by rw [hkept]; exact Bool.false_ne_true)
  | waits _ _ _ hsignal => rcases hsignal with rfl | rfl <;> cases hloses
  | returns _ _ hsignal | ends _ hsignal =>
    rw [hsignal] at hloses
    cases hloses

/-- A subscription listens if it did before and nothing was lost, or if it returns. -/
theorem Passage.of_listening (h : Passage s now signal after)
    (hp : after.1.phase = .listening) :
    (s.phase = .listening ∧ signal.loses = false) ∨ signal = .watched true := by
  cases h with
  | listens hbefore _ hkept => exact .inl ⟨hbefore, hkept⟩
  | loses _ _ _ hlose =>
    rw [hlose, lose_fst, phase_pause] at hp
    cases hp
  | waits _ hafter =>
    rw [hp] at hafter
    cases hafter
  | returns _ _ hsignal => exact .inr hsignal
  | ends hafter => cases hafter.symm.trans hp

theorem Move.listening_of_appeared {key : PeerKey}
    (h : Move s now (.event (.appeared key)) after) : s.phase = .listening := by
  cases h with
  | appeared _ hp => exact hp
  | lose hp => exact hp
  | progress hp => exact hp

/-! ## What a loss announces -/

theorem nodup_removals (slots : Association PeerKey Slot) : (removals slots.bindings).Nodup := by
  refine List.Nodup.of_map PeerEvent.key (Association.nodup_filterMap fun b event he => ?_)
  obtain ⟨peer, -, rfl⟩ := Option.map_eq_some_iff.1 he
  rfl

theorem mem_lose_snd {event : PeerEvent} :
    event ∈ (s.lose now).2 ↔ ∃ key peer, s.peer? key = some peer ∧ event = .removed key := by
  rw [lose_snd, removals, List.mem_filterMap]
  constructor
  · rintro ⟨⟨key, slot⟩, hslot, he⟩
    obtain ⟨peer, hpeer, rfl⟩ := Option.map_eq_some_iff.1 he
    exact ⟨key, peer, by rw [peer?, s.slots.mem_bindings_iff.1 hslot]; exact hpeer, rfl⟩
  · rintro ⟨key, peer, hpeer, rfl⟩
    obtain ⟨slot, hslot, hpeer⟩ := Option.bind_eq_some_iff.1 hpeer
    exact ⟨(key, slot), s.slots.mem_bindings_iff.2 hslot, by simp [hpeer]⟩

/-- The end of a resolution of a key without a peer is announced if it has found one. -/
theorem news_of_none {slot : Option Slot} {key : PeerKey} {ticket : Nat}
    {result : Option Endpoint} (hnone : slot.bind Slot.peer? = none)
    (hnews : Slot.news key ticket result slot ≠ []) : ∃ endpoint, result = some endpoint ∧
      Slot.news key ticket result slot = [.added (.located key endpoint)] := by
  rcases slot with _ | ⟨t⟩ | ⟨peer, refresh⟩
  · exact absurd rfl hnews
  · rw [Slot.news] at hnews ⊢
    split at hnews
    · exact absurd rfl hnews
    · rw [if_neg ‹_›]
      cases result with
      | none => exact absurd rfl hnews
      | some endpoint => exact ⟨endpoint, rfl, rfl⟩
  · cases hnone

/-- While there is no peer, nothing is announced but the addition of one that a resolution
    found. -/
theorem Move.added_of_none (h : Move s now signal after) (hnone : ∀ key, s.peer? key = none)
    (hevents : after.2 ≠ []) :
    ∃ ticket key endpoint, signal = .answered ticket (some endpoint) ∧
      after.2 = [.added (.located key endpoint)] := by
  have hnews {ticket : Nat} {key : PeerKey} {result : Option Endpoint}
      (hne : (s.conclude ticket key result).2 ≠ []) : ∃ endpoint, result = some endpoint ∧
        (s.conclude ticket key result).2 = [.added (.located key endpoint)] := by
    rw [conclude, onResolved_snd] at hne ⊢
    exact news_of_none (hnone key) hne
  cases h with
  | stop | appeared | progress | call | accepted | refused => exact absurd rfl hevents
  | removed key =>
    rw [onRemoved_snd, Slot.removal, ← peer?, hnone] at hevents
    exact absurd rfl hevents
  | lose =>
    obtain ⟨event, hm⟩ := List.exists_mem_of_ne_nil _ hevents
    obtain ⟨key, peer, hpeer, -⟩ := mem_lose_snd.1 hm
    rw [hnone] at hpeer
    cases hpeer
  | @answered ticket r =>
    obtain ⟨endpoint, rfl, hadded⟩ := hnews hevents
    exact ⟨ticket, r.key, endpoint, rfl, hadded⟩
  | stopped =>
    obtain ⟨endpoint, hresult, -⟩ := hnews hevents
    cases hresult

/-! ## Logs -/

variable {settings : BrowserSettings} {serviceType : String} {log : List Turn}

/-- The last turn of a log was a step. -/
theorem Logged.last {turn : Turn} (h : Logged settings serviceType s (log ++ [turn])) :
    ∃ s₀ s₁ now, Logged settings serviceType s₀ log ∧
      s₀.step? now turn.signal = some (s₁, turn.announced) := by
  generalize hlog : log ++ [turn] = whole at h
  induction h with
  | start => simp at hlog
  | @step s s' log' out now signal h hstep ih =>
    obtain ⟨rfl, hturn⟩ := List.append_inj' hlog rfl
    obtain rfl := (List.cons.inj hturn).1
    exact ⟨s, s', now, h, hstep⟩
  | cancel _ ih => exact ih hlog

/-- Every beginning of a log is a log. -/
theorem Logged.beginning {earlier later : List Turn}
    (h : Logged settings serviceType s (earlier ++ later)) :
    ∃ s₀, Logged settings serviceType s₀ earlier := by
  induction later using List.reverseRecOn generalizing s with
  | nil =>
    rw [List.append_nil] at h
    exact ⟨s, h⟩
  | append_singleton later turn ih =>
    rw [← List.append_assoc] at h
    obtain ⟨s₀, -, -, h, -⟩ := h.last
    exact ih h

/-- Every turn of a log was a step. -/
theorem Logged.turn {earlier later : List Turn} {turn : Turn}
    (h : Logged settings serviceType s (earlier ++ turn :: later)) :
    ∃ s₀ s₁ now, Logged settings serviceType s₀ earlier ∧
      s₀.step? now turn.signal = some (s₁, turn.announced) := by
  rw [List.append_cons] at h
  obtain ⟨s', h⟩ := h.beginning
  exact h.last

/-! ## Watching again -/

/-- A subscription has given up all it had: as it last lost the directory it announced each
    live peer as removed, once, and nothing else, and since then it has asked in vain to watch
    again, if at all. -/
structure GivenUp (settings : BrowserSettings) (serviceType : String) (s : Subscription)
    (log : List Turn) : Prop where
  slots : s.slots = .empty
  resolutions : s.resolutions = .empty
  lost : ∃ s₀ s₁ now earlier lost attempts, log = earlier ++ lost :: attempts ∧
    lost.signal.loses = true ∧ Logged settings serviceType s₀ earlier ∧
    s₀.step? now lost.signal = some (s₁, lost.announced) ∧ lost.announced.Nodup ∧
    (∀ event, event ∈ lost.announced ↔
      ∃ key peer, s₀.peer? key = some peer ∧ event = .removed key) ∧
    ∀ turn ∈ attempts, turn.announced = [] ∧
      (turn.signal = .expired ∨ turn.signal = .watched false)

/-- A subscription that asks in vain has still given up all it had. -/
theorem GivenUp.attempt (h : GivenUp settings serviceType s log) {turn : Turn}
    (hslots : s'.slots = s.slots) (hresolutions : s'.resolutions = s.resolutions)
    (hsilent : turn.announced = [])
    (hsignal : turn.signal = .expired ∨ turn.signal = .watched false) :
    GivenUp settings serviceType s' (log ++ [turn]) := by
  obtain ⟨s₀, s₁, now, earlier, lost, attempts, rfl, hloses, hlogged, hstep, hnodup, hevents,
    hattempts⟩ := h.lost
  refine ⟨hslots.trans h.slots, hresolutions.trans h.resolutions, s₀, s₁, now, earlier, lost,
    attempts ++ [turn], by simp, hloses, hlogged, hstep, hnodup, hevents, fun turn' hm => ?_⟩
  rcases List.mem_append.1 hm with hm | hm
  · exact hattempts turn' hm
  · obtain rfl := List.mem_singleton.1 hm
    exact ⟨hsilent, hsignal⟩

/-- As long as a subscription is not let watch again it has given up all it had. -/
theorem Logged.givenUp (h : Logged settings serviceType s log) (hp : s.phase.away = true) :
    GivenUp settings serviceType s log := by
  induction h with
  | start => cases hp
  | @step s s' log out now signal h hstep ih =>
    cases (Move.of_step? hstep).passage with
    | listens _ hafter | returns _ hafter | ends hafter =>
      rw [show s'.phase = _ from hafter] at hp
      cases hp
    | loses _ hloses _ hlose =>
      have hs : s' = (s.lose now).1 := congrArg Prod.fst hlose
      have hout : out = (s.lose now).2 := congrArg Prod.snd hlose
      refine ⟨?_, ?_, s, s', now, log, _, [], rfl, hloses, h, hstep, ?_, fun event => ?_, nofun⟩
      · rw [hs, lose_fst, slots_pause]
      · rw [hs, lose_fst, resolutions_pause]
      · rw [hout, lose_snd]
        exact nodup_removals s.slots
      · rw [hout, mem_lose_snd]
    | waits haway _ hsilent hsignal hslots hresolutions =>
      exact (ih haway).attempt hslots hresolutions hsilent hsignal
  | cancel _ ih => exact ⟨(ih hp).slots, (ih hp).resolutions, (ih hp).lost⟩

/-- The events of a subscription without slots add up to no peer. -/
theorem Run.fold_of_empty {events : List PeerEvent} (h : Run settings serviceType s events)
    (hslots : s.slots = .empty) : LivePeers.ofEvents? events = some .empty := by
  obtain ⟨live, hevents, hlive⟩ := h.livePeers
  have hempty : live = .empty := Association.eq_empty_of_get? fun key => by
    rw [hlive, peer?, hslots]
    rfl
  rw [hevents, hempty]

/-- Each loss is followed by one permission to watch again, unless the subscription is still
    without it, perhaps for ever as it was told to stop. -/
structure Balanced (s : Subscription) (log : List Turn) : Prop where
  listening : s.phase = .listening → Turn.returns log = Turn.losses log
  away : s.phase.away = true → Turn.returns log + 1 = Turn.losses log
  ended : s.phase = .ended → s.cancelled = true ∧
    (Turn.returns log = Turn.losses log ∨ Turn.returns log + 1 = Turn.losses log)

theorem Balanced.passage (h : Balanced s log) {turn : Turn} {out : List PeerEvent}
    (hpassage : Passage s now turn.signal (s', out)) : Balanced s' (log ++ [turn]) := by
  have hreturns := Turn.returns_concat log turn
  have hlosses := Turn.losses_concat log turn
  cases hpassage with
  | listens hbefore hafter hkept hsignal =>
    rw [if_neg hsignal] at hreturns
    rw [hkept, if_neg Bool.false_ne_true] at hlosses
    have heq := h.listening hbefore
    refine ⟨fun _ => by omega, fun hp => ?_, fun hp => nomatch hafter.symm.trans hp⟩
    rw [show s'.phase = _ from hafter] at hp
    cases hp
  | loses hbefore hloses hsignal hlose =>
    rw [if_neg hsignal] at hreturns
    rw [hloses, if_pos rfl] at hlosses
    have heq := h.listening hbefore
    have hafter : s'.phase = .pausing (now + s.backoff.delay) := by
      rw [show s' = (s.lose now).1 from congrArg Prod.fst hlose, lose_fst, phase_pause]
    exact ⟨fun hp => (nomatch hafter.symm.trans hp), fun _ => by omega,
      fun hp => nomatch hafter.symm.trans hp⟩
  | waits hbefore hafter _ hsignal =>
    have heq := h.away hbefore
    have hafter : s'.phase.away = true := hafter
    refine ⟨fun hp => ?_, fun _ => ?_, fun hp => ?_⟩
    · rw [hp] at hafter
      cases hafter
    · rw [hreturns, hlosses]
      rcases hsignal with hsignal | hsignal
      · rw [hsignal]
        exact heq
      · rw [hsignal]
        exact heq
    · rw [hp] at hafter
      cases hafter
  | returns hbefore hafter hsignal =>
    have heq := h.away (by rw [hbefore]; rfl)
    refine ⟨fun _ => ?_, fun hp => ?_, fun hp => nomatch hafter.symm.trans hp⟩
    · rw [hreturns, hlosses, hsignal]
      exact heq
    · rw [show s'.phase = _ from hafter] at hp
      cases hp
  | ends hafter hsignal hcancelled =>
    refine ⟨fun hp => (nomatch hafter.symm.trans hp), fun hp => ?_, fun _ => ⟨hcancelled, ?_⟩⟩
    · rw [show s'.phase = _ from hafter] at hp
      cases hp
    · rw [hreturns, hlosses, hsignal]
      cases hp : s.phase with
      | listening => exact .inl (h.listening hp)
      | pausing | calling => exact .inr (h.away (by rw [hp]; rfl))
      | ended => exact (h.ended hp).2

theorem Logged.balanced (h : Logged settings serviceType s log) : Balanced s log := by
  induction h with
  | start => exact ⟨fun _ => rfl, nofun, nofun⟩
  | step _ hstep ih => exact ih.passage (Move.of_step? hstep).passage
  | cancel _ ih => exact ⟨ih.listening, ih.away, fun hp => ⟨rfl, (ih.ended hp).2⟩⟩

/-! ## After a loss -/

/-- A subscription that listens after a loss was let watch again. -/
theorem Logged.returned (h : Logged settings serviceType s log) (hp : s.phase = .listening)
    {earlier later : List Turn} {lost : Turn} (hlog : log = earlier ++ lost :: later)
    (hloses : lost.signal.loses = true) :
    ∃ before returned stream, later = before ++ returned :: stream ∧
      returned.signal = .watched true ∧ ∀ turn ∈ stream, turn.signal.loses = false := by
  induction h generalizing later with
  | start => simp at hlog
  | @step s s' log out now signal h hstep ih =>
    have hpassage := (Move.of_step? hstep).passage
    rcases Turn.eq_or_of_append hlog with ⟨-, -, rfl⟩ | ⟨later, rfl, hlog'⟩
    · have hs : s' = (s.lose now).1 := congrArg Prod.fst (hpassage.eq_lose hloses)
      rw [hs, lose_fst, phase_pause] at hp
      cases hp
    · rcases hpassage.of_listening hp with ⟨hbefore, hkept⟩ | hsignal
      · obtain ⟨before, returned, stream, rfl, hreturned, hstream⟩ := ih hbefore hlog'
        refine ⟨before, returned, stream ++ [⟨signal, s.started s', out⟩], by simp, hreturned,
          fun turn hm => ?_⟩
        rcases List.mem_append.1 hm with hm | hm
        · exact hstream turn hm
        · rw [List.mem_singleton.1 hm, hkept]
      · exact ⟨later, _, [], rfl, hsignal, nofun⟩
  | cancel _ ih => exact ih hp hlog

/-- Runs that announce the same know the same peers. -/
theorem Run.peer?_eq {settings' : BrowserSettings} {serviceType' : String}
    {events : List PeerEvent} (h : Run settings serviceType s events)
    (h' : Run settings' serviceType' s' events) (key : PeerKey) : s.peer? key = s'.peer? key := by
  obtain ⟨live, hevents, hlive⟩ := h.livePeers
  obtain ⟨live', hevents', hlive'⟩ := h'.livePeers
  obtain rfl := Option.some.inj (hevents.symm.trans hevents')
  rw [← hlive, hlive']

/-- After a loss there is no peer until something is announced. -/
theorem Logged.none_after_loss {earlier quiet : List Turn} {lost : Turn}
    (h : Logged settings serviceType s (earlier ++ lost :: quiet))
    (hloses : lost.signal.loses = true) (hquiet : ∀ turn ∈ quiet, turn.announced = [])
    (key : PeerKey) : s.peer? key = none := by
  obtain ⟨s₀, s₁, now, h₀, hstep⟩ := h.turn
  have hsame : (earlier ++ lost :: quiet).flatMap Turn.announced =
      earlier.flatMap Turn.announced ++ lost.announced := by
    rw [List.flatMap_append, List.flatMap_cons, List.flatMap_eq_nil_iff.2 hquiet, List.append_nil]
  have hrun := h.run
  rw [hsame] at hrun
  have hlose : s₁ = (s₀.lose now).1 :=
    congrArg Prod.fst ((Move.of_step? hstep).passage.eq_lose hloses)
  rw [hrun.peer?_eq (h₀.run.step hstep), hlose, lose_fst, peer?, slots_pause]
  rfl

/-- The first turn that announces something after a loss announces what a resolution found
    that was started since. -/
theorem Logged.regains (h : Logged settings serviceType s log) {earlier quiet later : List Turn}
    {lost turn : Turn} (hlog : log = earlier ++ lost :: (quiet ++ turn :: later))
    (hloses : lost.signal.loses = true) (hquiet : ∀ turn ∈ quiet, turn.announced = [])
    (hannounced : turn.announced ≠ []) : turn.Regains quiet := by
  have hsplit : log = (earlier ++ lost :: quiet) ++ turn :: later := by simp [hlog]
  rw [hsplit] at h
  obtain ⟨s₀, s₁, now, h₀, hstep⟩ := h.turn
  obtain ⟨ticket, key, endpoint, hsignal, hadded⟩ :=
    (Move.of_step? hstep).added_of_none (h₀.none_after_loss hloses hquiet) hannounced
  have hadded : turn.announced = [.added (.located key endpoint)] := hadded
  obtain ⟨_, _, hsignal', -, hcurrent⟩ :=
    (h.added_current rfl).1 (.located key endpoint) (by rw [hadded]; exact List.mem_cons_self)
  cases hsignal.symm.trans hsignal'
  -- What is current was started after the loss, by an appearance in a new stream.
  have hcurrent : Turn.Current quiet key ticket :=
    hcurrent.of_clears (SubscriptionSignal.clears_of_loses hloses _)
  obtain ⟨between, first, rest, rfl, hstarts, hrest⟩ := hcurrent
  rw [← List.cons_append, ← List.append_assoc] at h₀
  obtain ⟨s₂, s₃, now', h₂, hstep'⟩ := h₀.turn
  rw [hstarts.1] at hstep'
  have hlistening := (Move.of_step? hstep').listening_of_appeared
  obtain ⟨before, returned, stream, rfl, hreturned, hstream⟩ :=
    h₂.returned hlistening rfl hloses
  refine ⟨before, returned, stream ++ first :: rest, key, ticket, endpoint, by simp, hreturned,
    fun turn' hm => ?_, ⟨stream, first, rest, rfl, hstarts, hrest⟩, hsignal, hadded⟩
  · rcases List.mem_append.1 hm with hm | hm
    · exact hstream turn' hm
    · rcases List.mem_cons.1 hm with rfl | hm
      · rw [hstarts.1]
        rfl
      · refine eq_false_of_ne_true fun hl => ?_
        cases (hrest turn' hm).symm.trans (SubscriptionSignal.clears_of_loses hl key)

/-- Whenever a subscription asks to watch again, it has given up all it had, and its events add
    up to nothing. The next event that it announces is the addition of a peer by a resolution
    that was started by an appearance in the new stream. It was let watch again as often as it
    lost the directory, or once less while it is without it, or was told to stop. -/
theorem Logged.resubscribing (h : Logged settings serviceType s log) :
    (s.phase = .calling → GivenUp settings serviceType s log ∧
      LivePeers.ofEvents? (log.flatMap Turn.announced) = some .empty) ∧
    (∀ earlier lost quiet turn later, log = earlier ++ lost :: (quiet ++ turn :: later) →
      lost.signal.loses = true → (∀ turn' ∈ quiet, turn'.announced = []) →
      turn.announced ≠ [] → turn.Regains quiet) ∧
    Balanced s log := by
  refine ⟨fun hp => ?_, fun _ _ _ _ _ => h.regains, h.balanced⟩
  have hgiven := h.givenUp (by rw [hp]; rfl)
  exact ⟨hgiven, h.run.fold_of_empty hgiven.slots⟩

/-- The directory resets while one peer is live, one is being refreshed and one is being
    resolved. It refuses the subscription once; then the first peer comes back. -/
theorem Logged.resubscribing_refused :
    let nas : PeerKey := ⟨"eth0", .inet, "nas", "t", "local"⟩
    let tv : PeerKey := ⟨"eth0", .inet, "tv", "t", "local"⟩
    let radio : PeerKey := ⟨"eth0", .inet, "radio", "t", "local"⟩
    let endpoint : Endpoint := .v4 ⟨10, 0, 0, 5⟩ 9000
    let signals : List (Nat × SubscriptionSignal) :=
      [(0, .event (.appeared nas)), (0, .event (.appeared radio)), (0, .answered 0 (some endpoint)),
        (0, .answered 1 (some endpoint)), (1, .event (.appeared radio)),
        (1, .event (.appeared tv)), (2, .event .reset), (10000000000, .expired),
        (10000000000, .watched false), (30000000000, .expired)]
    let more : List (Nat × SubscriptionSignal) :=
      [(30000000000, .watched true), (30000000000, .event (.appeared nas)),
        (30000000000, .answered 4 (some endpoint))]
    let earlier : List Turn :=
      [⟨.event (.appeared nas), [0], []⟩, ⟨.event (.appeared radio), [1], []⟩,
        ⟨.answered 0 (some endpoint), [], [.added (.located nas endpoint)]⟩,
        ⟨.answered 1 (some endpoint), [], [.added (.located radio endpoint)]⟩,
        ⟨.event (.appeared radio), [2], []⟩, ⟨.event (.appeared tv), [3], []⟩]
    let lost : Turn := ⟨.event .reset, [], [.removed nas, .removed radio]⟩
    let attempts : List Turn :=
      [⟨.expired, [], []⟩, ⟨.watched false, [], []⟩, ⟨.expired, [], []⟩]
    let stream : List Turn := [⟨.watched true, [], []⟩, ⟨.event (.appeared nas), [4], []⟩]
    let turn : Turn := ⟨.answered 4 (some endpoint), [], [.added (.located nas endpoint)]⟩
    (∃ s, (Subscription.start {} "t").log? signals = some (s, earlier ++ lost :: attempts) ∧
      s.phase = .calling ∧ GivenUp {} "t" s (earlier ++ lost :: attempts) ∧
      LivePeers.ofEvents? ((earlier ++ lost :: attempts).flatMap Turn.announced) =
        some .empty) ∧
    ∃ s, (Subscription.start {} "t").log? (signals ++ more) =
        some (s, earlier ++ lost :: (attempts ++ stream ++ [turn])) ∧
      turn.Regains (attempts ++ stream) ∧
      Balanced s (earlier ++ lost :: (attempts ++ stream ++ [turn])) := by
  intro nas tv radio endpoint signals more earlier lost attempts stream turn
  have hcalling : ∃ s, (Subscription.start {} "t").log? signals =
      some (s, earlier ++ lost :: attempts) ∧ s.phase = .calling := by
    simp only [nas, tv, radio, endpoint, signals, earlier, lost, attempts]
    exact ⟨_, rfl, rfl⟩
  have hback : ∃ s, (Subscription.start {} "t").log? (signals ++ more) =
      some (s, earlier ++ lost :: (attempts ++ stream ++ [turn])) := by
    simp only [nas, tv, radio, endpoint, signals, more, earlier, lost, attempts, stream, turn]
    exact ⟨_, rfl⟩
  obtain ⟨s, hs, hp⟩ := hcalling
  obtain ⟨s', hs'⟩ := hback
  have hgiven := (Logged.start.log hs).resubscribing.1 hp
  have hlater := (Logged.start.log hs').resubscribing.2
  exact ⟨⟨s, hs, hp, hgiven.1, hgiven.2⟩, s', hs',
    hlater.1 earlier lost (attempts ++ stream) turn [] rfl rfl (by decide) (by decide), hlater.2⟩

end Subscription

end ServiceDiscovery
