import ServiceDiscovery.Proofs.Subscription.Tickets

/-!
# Where peers come from

A run of a subscription as a log of its turns: what it reacted to, which
resolutions it started, and what it announced (`Subscription.Logged`).

A resolution is *current* at the end of a log if its key appeared to start it and
was not cleared since, by a removal, a reset or the end of the stream
(`Turn.Current`); it is *outdated* if it was (`Turn.Outdated`). A slot waits for
current resolutions only, and for no outdated one (`Subscription.Traced`).

Main statement: whatever is announced as added is what a current resolution found,
and an outdated resolution announces nothing any more (`Logged.added_current`).
-/

namespace ServiceDiscovery

/-- Whether a signal clears the slot of a key. -/
def SubscriptionSignal.clears (key : PeerKey) : SubscriptionSignal → Bool
  | event (.removed k) => k = key
  | event .reset | lost => true
  | _ => false

/-- A turn of a subscription. -/
structure Turn where
  signal : SubscriptionSignal
  /-- The tickets of the resolutions that it started. -/
  started : List Nat
  announced : List PeerEvent

namespace Turn

/-- A resolution of a key was started by its appearance. -/
def Starts (turn : Turn) (key : PeerKey) (ticket : Nat) : Prop :=
  turn.signal = .event (.appeared key) ∧ ticket ∈ turn.started

/-- In a log a resolution of a key was started, and the key was not cleared
    since. -/
def Current (log : List Turn) (key : PeerKey) (ticket : Nat) : Prop :=
  ∃ earlier turn later, log = earlier ++ turn :: later ∧ turn.Starts key ticket ∧
    ∀ turn' ∈ later, turn'.signal.clears key = false

/-- In a log a resolution of a key was started, and the key was cleared since. -/
def Outdated (log : List Turn) (key : PeerKey) (ticket : Nat) : Prop :=
  ∃ earlier turn later, log = earlier ++ turn :: later ∧ turn.Starts key ticket ∧
    ∃ turn' ∈ later, turn'.signal.clears key = true

variable {log : List Turn} {turn : Turn} {key : PeerKey} {ticket : Nat}

theorem Current.mem (h : Current log key ticket) : ∃ turn ∈ log, turn.Starts key ticket := by
  obtain ⟨earlier, turn, later, rfl, hstarts, -⟩ := h
  exact ⟨turn, by simp, hstarts⟩

theorem Outdated.mem (h : Outdated log key ticket) : ∃ turn ∈ log, turn.Starts key ticket := by
  obtain ⟨earlier, turn, later, rfl, hstarts, -⟩ := h
  exact ⟨turn, by simp, hstarts⟩

/-- A resolution is current as it is started. -/
theorem Current.of_starts (h : turn.Starts key ticket) : Current (log ++ [turn]) key ticket :=
  ⟨log, turn, [], rfl, h, fun _ hm => by cases hm⟩

/-- A resolution stays current until its key is cleared. -/
theorem Current.append (h : Current log key ticket) (hkept : turn.signal.clears key = false) :
    Current (log ++ [turn]) key ticket := by
  obtain ⟨earlier, first, later, rfl, hstarts, hlater⟩ := h
  refine ⟨earlier, first, later ++ [turn], by simp, hstarts, fun turn' hm => ?_⟩
  rcases List.mem_append.1 hm with hm | hm
  · exact hlater turn' hm
  · obtain rfl := List.mem_singleton.1 hm
    exact hkept

/-- A turn of a log that is one longer is the last one, or was there before. -/
theorem eq_or_of_append {last : Turn} {earlier later : List Turn}
    (h : log ++ [last] = earlier ++ turn :: later) :
    (later = [] ∧ log = earlier ∧ last = turn) ∨
      ∃ later', later = later' ++ [last] ∧ log = earlier ++ turn :: later' := by
  rcases List.eq_nil_or_concat later with rfl | ⟨later', last', rfl⟩
  · obtain ⟨rfl, hturn⟩ := List.append_inj' h rfl
    exact .inl ⟨rfl, rfl, (List.cons.inj hturn).1⟩
  · have hsplit : log ++ [last] = (earlier ++ turn :: later') ++ [last'] := by simp [h]
    obtain ⟨rfl, hlast⟩ := List.append_inj' hsplit rfl
    obtain rfl := (List.cons.inj hlast).1
    exact .inr ⟨later', List.concat_eq_append, rfl⟩

/-- A resolution is outdated from the turn on that clears its key. -/
theorem Outdated.of_append (h : Outdated (log ++ [turn]) key ticket) :
    Outdated log key ticket ∨
      turn.signal.clears key = true ∧ ∃ turn' ∈ log, turn'.Starts key ticket := by
  obtain ⟨earlier, first, later, hlog, hstarts, turn', hm, hclears⟩ := h
  rcases eq_or_of_append hlog with ⟨rfl, -, -⟩ | ⟨later, rfl, rfl⟩
  · cases hm
  · rcases List.mem_append.1 hm with hm | hm
    · exact .inl ⟨earlier, first, later, rfl, hstarts, turn', hm, hclears⟩
    · obtain rfl := List.mem_singleton.1 hm
      exact .inr ⟨hclears, first, by simp, hstarts⟩

end Turn

namespace Subscription

/-- The resolutions under way in a subscription that were not before. -/
def started (s s' : Subscription) : List Nat :=
  s'.resolutions.keys.filter fun ticket => !s.resolutions.contains ticket

/-- The subscriptions that a subscription to `serviceType` may become, each with its
    turns until then, in order. -/
inductive Logged (settings : BrowserSettings) (serviceType : String) :
    Subscription → List Turn → Prop
  | start : Logged settings serviceType (start settings serviceType) []
  | step {s s' : Subscription} {log : List Turn} {out : List PeerEvent} {now : Nat}
      {signal : SubscriptionSignal} : Logged settings serviceType s log →
      s.step? now signal = some (s', out) →
      Logged settings serviceType s' (log ++ [⟨signal, s.started s', out⟩])
  | cancel {s : Subscription} {log : List Turn} : Logged settings serviceType s log →
      Logged settings serviceType s.cancel log

theorem Logged.run {settings : BrowserSettings} {serviceType : String} {s : Subscription}
    {log : List Turn} (h : Logged settings serviceType s log) :
    Run settings serviceType s (log.flatMap Turn.announced) := by
  induction h with
  | start => exact .start
  | step _ hstep ih =>
    rw [List.flatMap_append, List.flatMap_singleton]
    exact ih.step hstep
  | cancel _ ih => exact ih.cancel

/-- The subscription after a series of signals, each at a moment, and its turns, if it
    waited for each of them. -/
def log? (s : Subscription) : List (Nat × SubscriptionSignal) →
    Option (Subscription × List Turn)
  | [] => some (s, [])
  | (now, signal) :: signals =>
    (s.step? now signal).bind fun (s', out) =>
      (log? s' signals).map fun (s'', more) => (s'', ⟨signal, s.started s', out⟩ :: more)

/-- A log begins with a step. -/
theorem log?_cons_eq_some_iff {s s'' : Subscription} {now : Nat} {signal : SubscriptionSignal}
    {signals : List (Nat × SubscriptionSignal)} {turns : List Turn} :
    s.log? ((now, signal) :: signals) = some (s'', turns) ↔
      ∃ s' out later, s.step? now signal = some (s', out) ∧ s'.log? signals = some (s'', later) ∧
        turns = ⟨signal, s.started s', out⟩ :: later := by
  rw [log?, Option.bind_eq_some_iff]
  constructor
  · rintro ⟨⟨s', out⟩, hstep, hrest⟩
    obtain ⟨⟨s₂, later⟩, hlater, heq⟩ := Option.map_eq_some_iff.1 hrest
    obtain ⟨rfl, rfl⟩ := Prod.mk.inj heq
    exact ⟨s', out, later, hstep, hlater, rfl⟩
  · rintro ⟨s', out, later, hstep, hlater, rfl⟩
    exact ⟨(s', out), hstep, Option.map_eq_some_iff.2 ⟨_, hlater, rfl⟩⟩

theorem Logged.log {settings : BrowserSettings} {serviceType : String} {s s' : Subscription}
    {log more : List Turn} {signals : List (Nat × SubscriptionSignal)}
    (h : Logged settings serviceType s log) (hlog : s.log? signals = some (s', more)) :
    Logged settings serviceType s' (log ++ more) := by
  induction signals generalizing s log more with
  | nil =>
    obtain ⟨rfl, rfl⟩ := Prod.mk.inj (Option.some.inj hlog)
    rw [List.append_nil]
    exact h
  | cons head signals ih =>
    obtain ⟨s₁, out, later, hstep, hlater, rfl⟩ := log?_cons_eq_some_iff.1 hlog
    rw [List.append_cons]
    exact ih (h.step hstep) hlater

/-! ## What a turn starts -/

section

variable {s s' : Subscription} {key : PeerKey} {ticket : Nat}

theorem mem_started : ticket ∈ s.started s' ↔
    (∃ r, s'.resolutions.get? ticket = some r) ∧ s.resolutions.get? ticket = none := by
  rw [started, List.mem_filter, Association.mem_keys_iff]
  simp [Association.contains]

/-- A key that nothing is waited for under is resolved as it appears. -/
theorem mem_started_onAppeared (hs : Ticketed s) :
    ticket ∈ s.started (s.onAppeared key) ↔ ticket = s.nextTicket ∧ s.waitsFor? key = none := by
  rw [mem_started, get?_resolutions_onAppeared, waitsFor?]
  constructor
  · rintro ⟨⟨r, hr⟩, hnone⟩
    split at hr
    · assumption
    · rw [hnone] at hr
      cases hr
  · rintro ⟨rfl, hfree⟩
    refine ⟨⟨_, if_pos ⟨rfl, hfree⟩⟩, ?_⟩
    rw [Option.eq_none_iff_forall_ne_some]
    intro r hr
    exact absurd (hs.fresh hr) (Nat.lt_irrefl _)

variable {now : Nat} {signal : SubscriptionSignal} {after : Subscription × List PeerEvent}

/-- Only an appearance starts a resolution, and that gets the next ticket. -/
theorem Move.started (h : Move s now signal after) (hs : Ticketed s)
    (hm : ticket ∈ s.started after.1) : ticket = s.nextTicket ∧ ticket < after.1.nextTicket := by
  obtain ⟨⟨r, hr⟩, hnone⟩ := mem_started.1 hm
  cases h with
  | appeared key =>
    obtain ⟨rfl, hfree⟩ := (mem_started_onAppeared hs).1 hm
    rw [waitsFor?] at hfree
    rw [nextTicket_onAppeared, if_pos hfree]
    exact ⟨rfl, Nat.lt_succ_self _⟩
  | stop => cases hr
  | removed key =>
    rw [get?_resolutions_onRemoved, hnone] at hr
    split at hr <;> cases hr
  | lose =>
    rw [lose_fst, resolutions_pause] at hr
    cases hr
  | @progress _ t q _ _ hq =>
    rw [setResolution, Association.get?_put] at hr
    split at hr
    · rename_i ht
      cases (ht ▸ hnone).symm.trans hq
    · cases hnone.symm.trans hr
  | answered | stopped =>
    rw [conclude_frame, Association.get?_erase] at hr
    split at hr
    · cases hr
    · cases hnone.symm.trans hr
  | call | accepted => cases hnone.symm.trans hr
  | refused =>
    rw [resolutions_pause] at hr
    cases hnone.symm.trans hr

theorem Move.nextTicket_le (h : Move s now signal after) : s.nextTicket ≤ after.1.nextTicket := by
  cases h with
  | stop | progress | call | accepted => exact Nat.le_refl _
  | appeared key => exact nextTicket_le_onAppeared key
  | removed key => exact Nat.le_of_eq (nextTicket_onRemoved key).symm
  | lose => exact Nat.le_of_eq (by rw [lose_fst, nextTicket_pause])
  | answered | stopped => exact Nat.le_of_eq (by rw [conclude_frame])
  | refused => exact Nat.le_of_eq (nextTicket_pause _).symm

/-- A signal about a resolution clears nothing. -/
theorem clears_of_ticketOf? (h : ticketOf? signal = some ticket) : signal.clears key = false := by
  cases signal with
  | asked | answered | rested | stopped => rfl
  | event | lost | expired | watched | cancelled => cases h

/-- What is waited for was before, under a key that is not cleared, or was just
    started. -/
theorem Move.waits (h : Move s now signal after) (hs : Ticketed s)
    (hw : after.1.waitsFor? key = some ticket) :
    (s.waitsFor? key = some ticket ∧ signal.clears key = false) ∨
      (signal = .event (.appeared key) ∧ ticket ∈ s.started after.1) := by
  cases h with
  | stop | call | accepted => exact .inl ⟨hw, rfl⟩
  | progress _ _ ht => exact .inl ⟨hw, clears_of_ticketOf? ht⟩
  | appeared k =>
    rw [waitsFor?_onAppeared] at hw
    split at hw
    · rename_i hk
      subst hk
      cases hfree : s.waitsFor? key with
      | some t =>
        rw [hfree] at hw
        exact .inl ⟨hw, rfl⟩
      | none =>
        rw [hfree] at hw
        exact .inr ⟨rfl, (mem_started_onAppeared hs).2 ⟨(Option.some.inj hw).symm, hfree⟩⟩
    · exact .inl ⟨hw, rfl⟩
  | removed k =>
    rw [waitsFor?_onRemoved] at hw
    split at hw
    · cases hw
    · rename_i hk
      exact .inl ⟨hw, decide_eq_false (Ne.symm hk)⟩
  | lose =>
    rw [lose_fst, waitsFor?, slots_pause] at hw
    cases hw
  | @answered t r result | @stopped t r =>
    have hw' := (waitsFor?_onResolved (s := s.endResolution t) r.key key t _).symm.trans hw
    split at hw'
    · cases hw'
    · exact .inl ⟨hw', rfl⟩
  | refused =>
    rw [waitsFor?, slots_pause] at hw
    exact .inl ⟨hw, rfl⟩

/-! ## What a turn announces -/

/-- A result that is not waited for is not announced. -/
theorem onResolved_silent (result : Option Endpoint) (h : s.waitsFor? key ≠ some ticket) :
    (s.onResolved key ticket result).2 = [] := by
  unfold onResolved
  split
  · rename_i t hslot
    have ht : t ≠ ticket := by
      rintro rfl
      exact h (by rw [waitsFor?, hslot]; rfl)
    rw [if_pos ht]
  · rename_i peer t hslot
    have ht : t ≠ ticket := by
      rintro rfl
      exact h (by rw [waitsFor?, hslot]; rfl)
    rw [if_pos ht]
  · rfl

/-- A peer is added where the result waited for has found it. -/
theorem added_mem_onResolved {result : Option Endpoint} {peer : Peer}
    (hm : .added peer ∈ (s.onResolved key ticket result).2) :
    ∃ endpoint, result = some endpoint ∧ peer = .located key endpoint := by
  unfold onResolved at hm
  split at hm
  · split at hm
    · cases hm
    · cases result with
      | none => cases hm
      | some endpoint =>
        cases List.mem_singleton.1 hm
        exact ⟨endpoint, rfl, rfl⟩
  · split at hm
    · cases hm
    · cases result with
      | none => cases hm
      | some endpoint =>
        dsimp only at hm
        split at hm
        · cases hm
        · rcases List.mem_cons.1 hm with he | hm
          · cases he
          · cases List.mem_singleton.1 hm
            exact ⟨endpoint, rfl, rfl⟩
  · cases hm

/-- A peer that is added was found by the resolution that its key waits for. -/
theorem Move.added (h : Move s now signal after) {peer : Peer} (hm : .added peer ∈ after.2) :
    ∃ ticket endpoint, signal = .answered ticket (some endpoint) ∧
      peer = .located peer.key endpoint ∧ s.waitsFor? peer.key = some ticket := by
  cases h with
  | stop | appeared | progress | call | accepted | refused => cases hm
  | removed key =>
    unfold onRemoved at hm
    split at hm
    · cases hm
    · dsimp only at hm
      split at hm
      · cases List.mem_singleton.1 hm
      · cases hm
  | lose =>
    rw [lose_snd, removals] at hm
    obtain ⟨⟨k, slot⟩, -, hslot⟩ := List.mem_filterMap.1 hm
    obtain ⟨p, -, he⟩ := Option.map_eq_some_iff.1 hslot
    cases he
  | @answered ticket r result =>
    obtain ⟨endpoint, rfl, rfl⟩ := added_mem_onResolved hm
    refine ⟨ticket, endpoint, rfl, rfl, ?_⟩
    by_cases hw : s.waitsFor? r.key = some ticket
    · exact hw
    · have hsilent : (s.conclude ticket r.key (some endpoint)).2 = [] :=
        onResolved_silent (s := s.endResolution ticket) _ hw
      rw [hsilent] at hm
      cases hm
  | stopped =>
    obtain ⟨endpoint, he, -⟩ := added_mem_onResolved hm
    cases he

/-- A resolution that nothing waits for announces nothing. -/
theorem Move.silent (h : Move s now signal after) (ht : ticketOf? signal = some ticket)
    (hw : ∀ key, s.waitsFor? key ≠ some ticket) : after.2 = [] := by
  cases h with
  | stop | appeared | progress | call | accepted | refused => rfl
  | removed => cases ht
  | lose _ hsignal => rcases hsignal with rfl | rfl <;> cases ht
  | @answered t r | @stopped t r =>
    obtain rfl : t = ticket := Option.some.inj ht
    exact onResolved_silent (s := s.endResolution t) _ (hw r.key)

end

/-! ## What is waited for -/

/-- A subscription waits for current resolutions only, and for no outdated one. -/
structure Traced (s : Subscription) (log : List Turn) : Prop where
  current : ∀ {key ticket}, s.waitsFor? key = some ticket → Turn.Current log key ticket
  outdated : ∀ {key ticket}, Turn.Outdated log key ticket → ∀ k, s.waitsFor? k ≠ some ticket
  old : ∀ {turn key ticket}, turn ∈ log → turn.Starts key ticket → ticket < s.nextTicket
  single : ∀ {turn turn' key key' ticket}, turn ∈ log → turn' ∈ log →
    turn.Starts key ticket → turn'.Starts key' ticket → key = key'

variable {s : Subscription} {log : List Turn}

theorem Traced.move {now : Nat} {signal : SubscriptionSignal}
    {after : Subscription × List PeerEvent} (h : Traced s log) (hs : Ticketed s)
    (hmove : Move s now signal after) :
    Traced after.1 (log ++ [⟨signal, s.started after.1, after.2⟩]) := by
  -- What was started before is not what is started now.
  have hold {turn : Turn} {key : PeerKey} {ticket : Nat} (hm : turn ∈ log)
      (hstarts : turn.Starts key ticket) : ticket ∉ s.started after.1 := fun hm' =>
    absurd (hmove.started hs hm').1 (Nat.ne_of_lt (h.old hm hstarts))
  refine ⟨?_, ?_, ?_, ?_⟩
  · intro key ticket hw
    rcases hmove.waits hs hw with ⟨hw, hkept⟩ | ⟨hsignal, hm⟩
    · exact (h.current hw).append hkept
    · exact .of_starts ⟨hsignal, hm⟩
  · intro key ticket hout k hw
    rcases hmove.waits hs hw with ⟨hw, hkept⟩ | ⟨-, hm⟩
    · rcases hout.of_append with hout | ⟨hclears, turn, hm, hstarts⟩
      · exact h.outdated hout k hw
      · -- What the key waited for was started for it, so it was not cleared.
        obtain ⟨turn', hm', hstarts'⟩ := (h.current hw).mem
        obtain rfl := h.single hm hm' hstarts hstarts'
        rw [hkept] at hclears
        cases hclears
    · rcases hout.of_append with hout | ⟨-, turn, hm', hstarts⟩
      · obtain ⟨turn, hm', hstarts⟩ := hout.mem
        exact hold hm' hstarts hm
      · exact hold hm' hstarts hm
  · intro turn key ticket hm hstarts
    rcases List.mem_append.1 hm with hm | hm
    · exact Nat.lt_of_lt_of_le (h.old hm hstarts) hmove.nextTicket_le
    · obtain rfl := List.mem_singleton.1 hm
      exact (hmove.started hs hstarts.2).2
  · intro turn turn' key key' ticket hm hm' hstarts hstarts'
    rcases List.mem_append.1 hm with hm | hm <;> rcases List.mem_append.1 hm' with hm' | hm'
    · exact h.single hm hm' hstarts hstarts'
    · obtain rfl := List.mem_singleton.1 hm'
      exact absurd hstarts'.2 (hold hm hstarts)
    · obtain rfl := List.mem_singleton.1 hm
      exact absurd hstarts.2 (hold hm' hstarts')
    · obtain rfl := List.mem_singleton.1 hm
      obtain rfl := List.mem_singleton.1 hm'
      cases hstarts.1.symm.trans hstarts'.1
      rfl

namespace Logged

variable {settings : BrowserSettings} {serviceType : String}

theorem ticketed_of_step? (h : Logged settings serviceType s log) {now : Nat}
    {signal : SubscriptionSignal} {after : Subscription × List PeerEvent}
    (hstep : s.step? now signal = some after) : Ticketed s := by
  refine h.run.ticketed fun he => ?_
  rw [step?_ended he] at hstep
  cases hstep

theorem traced (h : Logged settings serviceType s log) : Traced s log := by
  induction h with
  | start =>
    refine ⟨fun hw => (by cases hw), ?_, fun hm => (by cases hm), fun hm => (by cases hm)⟩
    intro key ticket hout
    obtain ⟨turn, hm, -⟩ := hout.mem
    cases hm
  | step h hstep ih => exact ih.move (h.ticketed_of_step? hstep) (.of_step? hstep)
  | cancel _ ih => exact ⟨ih.current, ih.outdated, ih.old, ih.single⟩

/-- Whatever a turn announces as added is the answer to a resolution that was started
    as the key appeared, after it was last cleared. What a resolution brings that was
    started before that is not announced. -/
theorem added_current (h : Logged settings serviceType s log) {earlier later : List Turn}
    {turn : Turn} (hlog : log = earlier ++ turn :: later) :
    (∀ peer, .added peer ∈ turn.announced → ∃ ticket endpoint,
      turn.signal = .answered ticket (some endpoint) ∧ peer = .located peer.key endpoint ∧
        Turn.Current earlier peer.key ticket) ∧
    ∀ key ticket, Turn.Outdated earlier key ticket → ticketOf? turn.signal = some ticket →
      turn.announced = [] := by
  induction h generalizing later with
  | start => simp at hlog
  | @step s s' log out now signal h hstep ih =>
    rcases Turn.eq_or_of_append hlog with ⟨-, rfl, rfl⟩ | ⟨later, -, hlog⟩
    · have hmove : Move s now signal (s', out) := .of_step? hstep
      refine ⟨fun peer hm => ?_, fun key ticket hout ht => ?_⟩
      · obtain ⟨ticket, endpoint, hsignal, hpeer, hw⟩ := hmove.added hm
        exact ⟨ticket, endpoint, hsignal, hpeer, h.traced.current hw⟩
      · exact hmove.silent ht (h.traced.outdated hout)
    · exact ih hlog
  | cancel _ ih => exact ih hlog

/-- A key is removed and appears again while it is being resolved. The first
    resolution brings a result all the same, before the second does. -/
theorem added_current_late :
    let key : PeerKey := ⟨"eth0", .inet, "nas", "t", "local"⟩
    let first : Endpoint := .v4 ⟨10, 0, 0, 5⟩ 9000
    let second : Endpoint := .v4 ⟨10, 0, 0, 6⟩ 9000
    let signals : List (Nat × SubscriptionSignal) :=
      [(0, .event (.appeared key)), (1, .event (.removed key)), (2, .event (.appeared key)),
        (3, .answered 0 (some first)), (4, .answered 1 (some second))]
    let earlier : List Turn :=
      [⟨.event (.appeared key), [0], []⟩, ⟨.event (.removed key), [], []⟩,
        ⟨.event (.appeared key), [1], []⟩, ⟨.answered 0 (some first), [], []⟩]
    let turn : Turn := ⟨.answered 1 (some second), [], [.added (.located key second)]⟩
    ∃ s, (Subscription.start {} "t").log? signals = some (s, earlier ++ [turn]) ∧
      ∃ ticket endpoint, turn.signal = .answered ticket (some endpoint) ∧
        Peer.located key second = .located key endpoint ∧ Turn.Current earlier key ticket := by
  intro key first second signals earlier turn
  have hlog : ∃ s, (Subscription.start {} "t").log? signals = some (s, earlier ++ [turn]) :=
    ⟨_, rfl⟩
  obtain ⟨s, hs⟩ := hlog
  have hlogged : Logged {} "t" s (earlier ++ [turn]) := Logged.start.log hs
  exact ⟨s, hs, (hlogged.added_current rfl).1 (.located key second) List.mem_cons_self⟩

end Logged

end Subscription

end ServiceDiscovery
