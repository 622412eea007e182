import ServiceDiscovery.Proofs.Subscription.Run

/-!
# What a subscriber knows

A subscriber that folds the events of a subscription (`LivePeers.ofEvents?`)
knows its live peers. `Turns events before after` says what a list of events
means to it: none of them is refused, and they lead from the peers `before` to
the peers `after`. Each handler turns the peers of its slots into those of the
slots after it (`turns_onRemoved`, `turns_onResolved`, `turns_onReset`), hence
so does each move (`Move.turns`).

Main statement: at every point of every run the fold of all events is defined,
and it binds exactly the keys with a live slot, each to the peer in that slot
(`Run.fold_eq_slots`).
-/

namespace ServiceDiscovery

namespace LivePeers

/-! ## Lists of events -/

/-- Folded from live peers that are `before`, the events are accepted and lead
    to live peers that are `after`. -/
def Turns (events : List PeerEvent) (before after : PeerKey → Option Peer) : Prop :=
  ∀ live : LivePeers, (∀ key, live.get? key = before key) →
    ∃ live', events.foldlM after? live = some live' ∧ ∀ key, live'.get? key = after key

namespace Turns

variable {events more : List PeerEvent} {before between after : PeerKey → Option Peer}

theorem nil (h : ∀ key, before key = after key) : Turns [] before after :=
  fun live hlive => ⟨live, rfl, fun key => (hlive key).trans (h key)⟩

theorem append (h : Turns events before between) (h' : Turns more between after) :
    Turns (events ++ more) before after := by
  intro live hlive
  obtain ⟨live₁, he, h₁⟩ := h live hlive
  obtain ⟨live₂, hm, h₂⟩ := h' live₁ h₁
  refine ⟨live₂, ?_, h₂⟩
  rw [List.foldlM_append, he]
  exact hm

theorem cons {event : PeerEvent} (h : Turns [event] before between)
    (h' : Turns more between after) : Turns (event :: more) before after := h.append h'

/-- A peer is added to a key that has none. -/
theorem added {peer : Peer} (hfree : before peer.key = none) (hself : after peer.key = some peer)
    (hothers : ∀ key, key ≠ peer.key → after key = before key) :
    Turns [.added peer] before after := by
  intro live hlive
  have hunbound : live.contains peer.key = false := by
    rw [Association.contains, hlive, hfree]
    rfl
  refine ⟨live.put peer.key peer, by simp [after?, hunbound], fun key => ?_⟩
  rw [Association.get?_put]
  split
  · rename_i h
    rw [h, hself]
  · rename_i h
    rw [hlive, hothers key h]

/-- A peer is removed from a key that has one. -/
theorem removed {key : PeerKey} {peer : Peer} (hbound : before key = some peer)
    (hself : after key = none) (hothers : ∀ k, k ≠ key → after k = before k) :
    Turns [.removed key] before after := by
  intro live hlive
  have hcontains : live.contains key = true := by
    rw [Association.contains, hlive, hbound]
    rfl
  refine ⟨live.erase key, by simp [after?, hcontains], fun k => ?_⟩
  rw [Association.get?_erase]
  split
  · rename_i h
    rw [h, hself]
  · rename_i h
    rw [hlive, hothers k h]

end Turns

/-- A peer that a key is bound to in the end was added to it, or it was there before and no
    event was about the key. -/
theorem added_of_foldlM {events : List PeerEvent} {live live' : LivePeers} {key : PeerKey}
    {peer : Peer} (h : events.foldlM after? live = some live')
    (hget : live'.get? key = some peer) :
    (.added peer ∈ events ∧ peer.key = key) ∨
      (live.get? key = some peer ∧ ∀ event ∈ events, event.key ≠ key) := by
  induction events generalizing live with
  | nil =>
    obtain rfl := Option.some.inj h
    exact .inr ⟨hget, nofun⟩
  | cons event events ih =>
    rw [List.foldlM_cons] at h
    obtain ⟨between, hevent, hrest⟩ := Option.bind_eq_some_iff.1 h
    rcases ih hrest with ⟨hm, hkey⟩ | ⟨hget, hlater⟩
    · exact .inl ⟨List.mem_cons_of_mem _ hm, hkey⟩
    cases event with
    | added p =>
      rw [after?] at hevent
      split at hevent
      · cases hevent
      · obtain rfl := Option.some.inj hevent
        rw [Association.get?_put] at hget
        split at hget
        · rename_i hkey
          obtain rfl := Option.some.inj hget
          exact .inl ⟨List.mem_cons_self, hkey.symm⟩
        · rename_i hkey
          exact .inr ⟨hget, List.forall_mem_cons.2 ⟨Ne.symm hkey, hlater⟩⟩
    | removed k =>
      rw [after?] at hevent
      split at hevent
      · obtain rfl := Option.some.inj hevent
        rw [Association.get?_erase] at hget
        split at hget
        · cases hget
        · rename_i hkey
          exact .inr ⟨hget, List.forall_mem_cons.2 ⟨Ne.symm hkey, hlater⟩⟩
      · cases hevent

/-- Every peer is bound to its own key. -/
theorem key_eq_of_foldlM {events : List PeerEvent} {live live' : LivePeers}
    (h : events.foldlM after? live = some live')
    (hlive : ∀ key peer, live.get? key = some peer → peer.key = key) :
    ∀ key peer, live'.get? key = some peer → peer.key = key := by
  intro key peer hget
  rcases added_of_foldlM h hget with ⟨-, hkey⟩ | ⟨hget, -⟩
  · exact hkey
  · exact hlive key peer hget

end LivePeers

namespace Subscription

open LivePeers (Turns)

variable {s : Subscription}

/-! ## Handlers -/

@[simp] theorem peer?_stopResolution (ticket : Option Nat) (key : PeerKey) :
    (s.stopResolution ticket).peer? key = s.peer? key := by
  cases ticket <;> rfl

@[simp] theorem peer?_startResolution (key k : PeerKey) :
    (s.startResolution key).peer? k = s.peer? k := rfl

/-- The peers after a slot was bound anew. -/
theorem peer?_put (key k : PeerKey) (slot : Slot) :
    Subscription.peer? { s with slots := s.slots.put key slot } k =
      if k = key then slot.peer? else s.peer? k := by
  rw [peer?, Association.get?_put]
  split <;> rfl

/-- The peers after a slot was given up. -/
theorem peer?_erase (key k : PeerKey) :
    Subscription.peer? { s with slots := s.slots.erase key } k =
      if k = key then none else s.peer? k := by
  rw [peer?, Association.get?_erase]
  split <;> rfl

/-- A slot bound anew to the same peer changes nothing. -/
theorem peer?_put_of_eq {key : PeerKey} {slot : Slot} (h : s.peer? key = slot.peer?)
    (k : PeerKey) : Subscription.peer? { s with slots := s.slots.put key slot } k = s.peer? k := by
  rw [peer?_put]
  split
  · rename_i hk
    rw [hk, h]
  · rfl

theorem peer?_eq_of_get? {key : PeerKey} {slot : Option Slot} (h : s.slots.get? key = slot) :
    s.peer? key = slot.bind Slot.peer? := by
  rw [peer?, h]

/-- An appearance does not change what is known of any peer. -/
theorem peer?_onAppeared (key k : PeerKey) : (s.onAppeared key).peer? k = s.peer? k := by
  unfold onAppeared
  split
  · rename_i h
    rw [peer?_startResolution]
    exact peer?_put_of_eq (peer?_eq_of_get? h) k
  · rename_i h
    rw [peer?_startResolution]
    exact peer?_put_of_eq (peer?_eq_of_get? h) k
  · rfl
  · rfl

/-- A removal is announced for a live key, and only for that one. -/
theorem turns_onRemoved (key : PeerKey) :
    Turns (s.onRemoved key).2 s.peer? (s.onRemoved key).1.peer? := by
  unfold onRemoved
  split
  · exact .nil fun _ => rfl
  · rename_i slot h
    have hslot : s.peer? key = slot.peer? := peer?_eq_of_get? h
    cases hp : slot.peer? with
    | none =>
      refine .nil fun k => ?_
      rw [peer?_stopResolution, peer?_erase]
      split
      · rename_i hk
        rw [hk, hslot, hp]
      · rfl
    | some peer =>
      refine .removed (hslot.trans hp) ?_ fun k hk => ?_
      · rw [peer?_stopResolution, peer?_erase, if_pos rfl]
      · rw [peer?_stopResolution, peer?_erase, if_neg hk]

/-- Whatever a resolution comes to, and whether or not it is still waited for,
    what is announced is what changes in the slots. -/
theorem turns_onResolved (key : PeerKey) (ticket : Nat) (result : Option Endpoint) :
    Turns (s.onResolved key ticket result).2 s.peer? (s.onResolved key ticket result).1.peer? := by
  unfold onResolved
  split
  · rename_i t h
    have hpeer : s.peer? key = none := peer?_eq_of_get? h
    split
    · exact .nil fun _ => rfl
    · cases result with
      | none =>
        refine .nil fun k => ?_
        rw [peer?_erase]
        split
        · rename_i hk
          rw [hk, hpeer]
        · rfl
      | some endpoint =>
        refine .added hpeer ?_ fun k hk => ?_
        · exact (peer?_put ..).trans (if_pos rfl)
        · exact (peer?_put ..).trans (if_neg hk)
  · rename_i peer t h
    have hpeer : s.peer? key = some peer := peer?_eq_of_get? h
    -- The slot keeps its peer when the refresh fails or finds it where it was.
    have hkept (k : PeerKey) : s.peer? k =
        Subscription.peer? { s with slots := s.slots.put key (.live peer none) } k :=
      (peer?_put_of_eq hpeer k).symm
    split
    · exact .nil fun _ => rfl
    · cases result with
      | none => exact .nil hkept
      | some endpoint =>
        dsimp only
        split
        · exact .nil hkept
        · -- The peer moved: the old one goes, then the new one comes.
          have hgone : Turns [.removed key] s.peer? fun k => if k = key then none else s.peer? k :=
            .removed hpeer (if_pos rfl) fun k hk => if_neg hk
          refine hgone.cons (.added (if_pos rfl) ?_ fun k hk => ?_)
          · exact (peer?_put ..).trans (if_pos rfl)
          · exact (peer?_put ..).trans ((if_neg hk).trans (if_neg hk).symm)
  · exact .nil fun _ => rfl

/-- The removals of the live peers among some slots leave none of them. -/
theorem turns_removals {slots : List (PeerKey × Slot)} (h : (slots.map Prod.fst).Nodup) :
    Turns (removals slots) (fun key => (Association.find slots key).bind Slot.peer?)
      fun _ => none := by
  induction slots with
  | nil => exact .nil fun _ => rfl
  | cons b slots ih =>
    obtain ⟨key, slot⟩ := b
    rw [List.map_cons, List.nodup_cons] at h
    have hnone : Association.find slots key = none := Association.find_eq_none h.1
    have hrest := ih h.2
    cases hp : slot.peer? with
    | none =>
      have hr : removals ((key, slot) :: slots) = removals slots := by simp [removals, hp]
      rw [hr]
      have hsame (k : PeerKey) : (Association.find ((key, slot) :: slots) k).bind Slot.peer? =
          (Association.find slots k).bind Slot.peer? := by
        by_cases hk : key = k
        · subst hk
          simp [Association.find, hp, hnone]
        · simp [Association.find, hk]
      exact (Turns.nil hsame).append hrest
    | some peer =>
      have hr : removals ((key, slot) :: slots) = .removed key :: removals slots := by
        simp [removals, hp]
      rw [hr]
      refine .cons (.removed (?_ : _ = some peer) ?_ fun k hk => ?_) hrest
      · simp [Association.find, hp]
      · simp [hnone]
      · simp [Association.find, Ne.symm hk]

/-- Losing the directory is announced as the removal of every live peer. -/
theorem turns_lose (now : Nat) : Turns (s.lose now).2 s.peer? (s.lose now).1.peer? := by
  have hnone : (s.lose now).1.peer? = fun _ => none := by
    funext key
    rw [peer?, lose_fst, slots_pause, Association.get?_empty, Option.bind_none]
  rw [hnone, lose_snd]
  exact turns_removals s.slots.distinct

/-! ## Runs -/

theorem turns_conclude (ticket : Nat) (key : PeerKey) (result : Option Endpoint) :
    Turns (s.conclude ticket key result).2 s.peer? (s.conclude ticket key result).1.peer? :=
  turns_onResolved (s := s.endResolution ticket) key ticket result

/-- What a move announces is what changes in the live slots. -/
theorem Move.turns {now : Nat} {signal : SubscriptionSignal}
    {after : Subscription × List PeerEvent} (h : Move s now signal after) :
    Turns after.2 s.peer? after.1.peer? := by
  cases h with
  | stop | progress | call | accepted => exact .nil fun _ => rfl
  | refused => exact .nil fun k => by rw [peer?, peer?, slots_pause]
  | appeared key => exact .nil fun k => (peer?_onAppeared key k).symm
  | removed key => exact turns_onRemoved key
  | lose => exact turns_lose now
  | answered | stopped => exact turns_conclude _ _ _

variable {settings : BrowserSettings} {serviceType : String} {events : List PeerEvent}

theorem Run.turns (h : Run settings serviceType s events) :
    Turns events (fun _ => none) s.peer? := by
  induction h with
  | start => exact .nil fun _ => rfl
  | step _ hstep ih => exact ih.append (Move.of_step? hstep).turns
  | cancel _ ih => exact ih

/-- The events of a run add up to the peers announced under their keys. -/
theorem Run.livePeers (h : Run settings serviceType s events) :
    ∃ live, LivePeers.ofEvents? events = some live ∧ ∀ key, live.get? key = s.peer? key :=
  h.turns .empty fun key => Association.get?_empty key

/-- The peer in a slot is one of the key of the slot. -/
theorem Run.key_of_peer? (h : Run settings serviceType s events) {key : PeerKey} {peer : Peer}
    (hp : s.peer? key = some peer) : peer.key = key := by
  obtain ⟨live, hevents, hlive⟩ := h.livePeers
  refine LivePeers.key_eq_of_foldlM hevents (fun k p hget => ?_) key peer ((hlive key).trans hp)
  rw [Association.get?_empty] at hget
  cases hget

theorem peer?_eq_some_iff {key : PeerKey} {peer : Peer} :
    s.peer? key = some peer ↔ ∃ refresh, s.slots.get? key = some (.live peer refresh) := by
  rw [peer?, Option.bind_eq_some_iff]
  constructor
  · rintro ⟨slot, hslot, hpeer⟩
    cases slot with
    | pending ticket => cases hpeer
    | live p refresh =>
      obtain rfl := Option.some.inj hpeer
      exact ⟨refresh, hslot⟩
  · rintro ⟨refresh, hslot⟩
    exact ⟨_, hslot, rfl⟩

/-- At every point of every run, none of the events so far is refused: an
    addition finds its key unbound, a removal finds it bound. They add up to
    the live slots: each of their keys, and no other, is bound to the peer in
    its slot. -/
theorem Run.fold_eq_slots (h : Run settings serviceType s events) :
    ∃ live, LivePeers.ofEvents? events = some live ∧
      ∀ key peer, live.get? key = some peer ↔
        ∃ refresh, s.slots.get? key = some (.live peer refresh) := by
  obtain ⟨live, hevents, hlive⟩ := h.livePeers
  refine ⟨live, hevents, fun key peer => ?_⟩
  rw [hlive, peer?_eq_some_iff]

/-- A peer that is added, moves, is lost with the directory while one of another
    key is being resolved, and comes back. -/
theorem Run.fold_eq_slots_moved :
    let key : PeerKey := ⟨"eth0", .inet, "nas", "t", "local"⟩
    let other : PeerKey := ⟨"eth0", .inet, "tv", "t", "local"⟩
    let first : Endpoint := .v4 ⟨10, 0, 0, 5⟩ 9000
    let second : Endpoint := .v4 ⟨10, 0, 0, 6⟩ 9000
    let signals : List (Nat × SubscriptionSignal) :=
      [(0, .event (.appeared key)), (0, .answered 0 (some first)),
        (1, .event (.appeared key)), (1, .answered 1 (some second)),
        (2, .event (.appeared other)), (2, .lost), (10000000000, .expired),
        (10000000000, .watched true), (10000000000, .event (.appeared key)),
        (10000000000, .answered 3 (some first))]
    let events : List PeerEvent :=
      [.added (.located key first), .removed key, .added (.located key second), .removed key,
        .added (.located key first)]
    ∃ s, (Subscription.start {} "t").react? signals = some (s, events) ∧ Run {} "t" s events ∧
      ∃ live, LivePeers.ofEvents? events = some live ∧
        ∀ key peer, live.get? key = some peer ↔
          ∃ refresh, s.slots.get? key = some (.live peer refresh) := by
  intro key other first second signals events
  have hreact : ∃ s, (Subscription.start {} "t").react? signals = some (s, events) := ⟨_, rfl⟩
  obtain ⟨s, hs⟩ := hreact
  have hrun : Run {} "t" s events := Run.start.react hs
  exact ⟨s, hs, hrun, hrun.fold_eq_slots⟩

end Subscription

end ServiceDiscovery
