import ServiceDiscovery.Proofs.Subscription.Run

/-!
# Slots and tickets

The slots seen key by key. What a handler makes of the slot of a key depends on
that slot alone: `Slot.appear` after an appearance, `Slot.resolve` after the end
of a resolution; the slots of other keys stay (`get?_onAppeared`,
`get?_onRemoved`, `get?_onResolved`). So does what it announces: `Slot.removal` as
the slot is given up, `Slot.news` as a resolution ends.

`Ticketed` ties slots and resolutions together: a slot waits for a ticket
exactly if a resolution of its key under that ticket is under way and was not
told to stop. It holds as long as a run goes on (`Run.ticketed`), so that no
slot waits in vain.
-/

namespace ServiceDiscovery

namespace Slot

/-- The slot of a key that appeared, with a ticket at hand. -/
def appear (ticket : Nat) : Option Slot → Slot
  | none => .pending ticket
  | some (.live peer none) => .live peer (some ticket)
  | some (.pending t) => .pending t
  | some (.live peer (some t)) => .live peer (some t)

/-- The slot of a key a resolution of which ended, with an endpoint or without. -/
def resolve (key : PeerKey) (ticket : Nat) (result : Option Endpoint) : Option Slot → Option Slot
  | none => none
  | some (.live peer none) => some (.live peer none)
  | some (.pending t) =>
    if t ≠ ticket then some (.pending t)
    else result.map fun endpoint => .live (.located key endpoint) none
  | some (.live peer (some t)) =>
    if t ≠ ticket then some (.live peer (some t))
    else
      match result with
      | some endpoint =>
        some (.live (if endpoint = peer.endpoint then peer else .located key endpoint) none)
      | none => some (.live peer none)

/-- What is announced as the slot of a key is given up. -/
def removal (key : PeerKey) (slot : Option Slot) : List PeerEvent :=
  if (slot.bind peer?).isSome then [.removed key] else []

/-- What is announced as a resolution of a key with a slot ends. -/
def news (key : PeerKey) (ticket : Nat) (result : Option Endpoint) :
    Option Slot → List PeerEvent
  | some (.pending t) =>
    if t ≠ ticket then []
    else (result.map fun endpoint => PeerEvent.added (.located key endpoint)).toList
  | some (.live peer (some t)) =>
    if t ≠ ticket then []
    else
      match result with
      | some endpoint =>
        if endpoint = peer.endpoint then [] else [.removed key, .added (.located key endpoint)]
      | none => []
  | _ => []

/-- A slot that appeared waits for a result. -/
theorem ticket?_appear (ticket : Nat) (slot : Option Slot) :
    (appear ticket slot).ticket? = some ((slot.bind ticket?).getD ticket) := by
  rcases slot with _ | ⟨t⟩ | ⟨peer, _ | t⟩ <;> rfl

/-- The end of a resolution is the end of waiting for it, and of nothing else. -/
theorem ticket?_resolve (key : PeerKey) (ticket : Nat) (result : Option Endpoint)
    (slot : Option Slot) :
    (resolve key ticket result slot).bind ticket? =
      if slot.bind ticket? = some ticket then none else slot.bind ticket? := by
  rcases slot with _ | ⟨t⟩ | ⟨peer, _ | t⟩
  · rfl
  · by_cases h : t = ticket <;> cases result <;> simp [resolve, ticket?, h]
  · rfl
  · by_cases h : t = ticket <;> cases result <;> simp [resolve, ticket?, h]

theorem key_of_mem_removal {key : PeerKey} {slot : Option Slot} {event : PeerEvent}
    (h : event ∈ removal key slot) : event.key = key := by
  rw [removal] at h
  split at h
  · rw [List.mem_singleton.1 h]
    rfl
  · cases h

theorem key_of_mem_news {key : PeerKey} {ticket : Nat} {result : Option Endpoint}
    {slot : Option Slot} {event : PeerEvent} (h : event ∈ news key ticket result slot) :
    event.key = key := by
  unfold news at h
  split at h
  · split at h
    · cases h
    · obtain ⟨endpoint, -, rfl⟩ := Option.map_eq_some_iff.1 (Option.mem_toList.1 h)
      rfl
  · split at h
    · cases h
    · split at h
      · split at h
        · cases h
        · rcases List.mem_cons.1 h with rfl | h
          · rfl
          · rw [List.mem_singleton.1 h]
            rfl
      · cases h
  · cases h

end Slot

namespace Subscription

variable {s : Subscription}

/-! ## Slots -/

@[simp] theorem slots_startResolution (key : PeerKey) :
    (s.startResolution key).slots = s.slots := rfl

@[simp] theorem slots_stopResolution (ticket : Option Nat) :
    (s.stopResolution ticket).slots = s.slots := by
  cases ticket <;> rfl

theorem get?_onAppeared (key k : PeerKey) :
    (s.onAppeared key).slots.get? k =
      if k = key then some (Slot.appear s.nextTicket (s.slots.get? key)) else s.slots.get? k := by
  unfold onAppeared
  split <;> rename_i h
  · rw [slots_startResolution, Association.get?_put, h, Slot.appear]
  · rw [slots_startResolution, Association.get?_put, h, Slot.appear]
  all_goals
    split
    · rename_i hk
      rw [hk, h, Slot.appear]
    · rfl

theorem get?_onRemoved (key k : PeerKey) :
    (s.onRemoved key).1.slots.get? k = if k = key then none else s.slots.get? k := by
  unfold onRemoved
  split
  · rename_i h
    split
    · rename_i hk
      rw [hk, h]
    · rfl
  · rw [slots_stopResolution, Association.get?_erase]

theorem get?_onResolved (key k : PeerKey) (ticket : Nat) (result : Option Endpoint) :
    (s.onResolved key ticket result).1.slots.get? k =
      if k = key then Slot.resolve key ticket result (s.slots.get? key) else s.slots.get? k := by
  have hself {slot : Option Slot} (h : s.slots.get? key = slot) :
      s.slots.get? k = if k = key then slot else s.slots.get? k := by
    split
    · rename_i hk
      rw [hk, h]
    · rfl
  unfold onResolved
  split
  · rename_i t h
    rw [h, Slot.resolve]
    by_cases ht : t ≠ ticket
    · rw [if_pos ht, if_pos ht]
      exact hself h
    · rw [if_neg ht, if_neg ht]
      cases result with
      | none => exact s.slots.get?_erase key k
      | some endpoint => exact s.slots.get?_put key k _
  · rename_i peer t h
    rw [h, Slot.resolve.eq_def]
    dsimp only
    by_cases ht : t ≠ ticket
    · simp only [if_pos ht]
      exact hself h
    · simp only [if_neg ht]
      cases result with
      | none => exact s.slots.get?_put key k _
      | some endpoint =>
        dsimp only
        split <;> exact s.slots.get?_put key k _
  · rename_i hp hl
    have hslot : Slot.resolve key ticket result (s.slots.get? key) = s.slots.get? key := by
      generalize s.slots.get? key = slot at hp hl
      rcases slot with _ | ⟨t⟩ | ⟨peer, _ | t⟩
      · rfl
      · exact absurd rfl (hp t)
      · rfl
      · exact absurd rfl (hl peer t)
    rw [hslot]
    exact hself rfl

/-! ## Announcements -/

theorem onRemoved_snd (key : PeerKey) :
    (s.onRemoved key).2 = Slot.removal key (s.slots.get? key) := by
  unfold onRemoved
  split <;> rename_i h <;> rw [h] <;> rfl

theorem onResolved_snd (key : PeerKey) (ticket : Nat) (result : Option Endpoint) :
    (s.onResolved key ticket result).2 = Slot.news key ticket result (s.slots.get? key) := by
  unfold onResolved
  split
  · rename_i t h
    rw [h, Slot.news]
    split
    · rfl
    · cases result <;> rfl
  · rename_i peer t h
    rw [h, Slot.news.eq_def]
    dsimp only
    split
    · rfl
    · cases result with
      | none => rfl
      | some endpoint =>
        dsimp only
        split <;> rfl
  · rename_i hp hl
    generalize s.slots.get? key = slot at hp hl
    rcases slot with _ | ⟨t⟩ | ⟨peer, _ | t⟩
    · rfl
    · exact absurd rfl (hp t)
    · rfl
    · exact absurd rfl (hl peer t)

/-! ## Resolutions -/

/-- A key that is waited for already is not resolved once more. -/
theorem get?_resolutions_onAppeared (key : PeerKey) (ticket : Nat) :
    (s.onAppeared key).resolutions.get? ticket =
      if ticket = s.nextTicket ∧ (s.slots.get? key).bind Slot.ticket? = none then
        some { key, backoff := s.settings.resolveBackoff }
      else s.resolutions.get? ticket := by
  unfold onAppeared
  split <;> rename_i h <;> rw [h]
  · simp [startResolution, Association.get?_put]
  · simp [startResolution, Association.get?_put, Slot.ticket?]
  · simp [Slot.ticket?]
  · simp [Slot.ticket?]

theorem nextTicket_onAppeared (key : PeerKey) :
    (s.onAppeared key).nextTicket =
      if (s.slots.get? key).bind Slot.ticket? = none then s.nextTicket + 1 else s.nextTicket := by
  unfold onAppeared
  split <;> rename_i h <;> rw [h] <;> rfl

theorem nextTicket_le_onAppeared (key : PeerKey) :
    s.nextTicket ≤ (s.onAppeared key).nextTicket := by
  rw [nextTicket_onAppeared]
  split
  · exact Nat.le_succ _
  · exact Nat.le_refl _

/-- A removal stops the resolution that the slot waits for. -/
theorem get?_resolutions_onRemoved (key : PeerKey) (ticket : Nat) :
    (s.onRemoved key).1.resolutions.get? ticket =
      if (s.slots.get? key).bind Slot.ticket? = some ticket then
        (s.resolutions.get? ticket).map fun r => { r with cancelled := true }
      else s.resolutions.get? ticket := by
  unfold onRemoved
  split <;> rename_i h <;> rw [h]
  · rfl
  · rename_i slot
    rw [Option.bind_some]
    cases slot.ticket? with
    | none => rfl
    | some t =>
      simp only [stopResolution, Association.get?_update, Option.some.injEq]
      simp only [eq_comm]

@[simp] theorem nextTicket_onRemoved (key : PeerKey) :
    (s.onRemoved key).1.nextTicket = s.nextTicket := by
  unfold onRemoved
  split
  · rfl
  · rename_i slot _
    cases slot.ticket? <;> rfl

/-! ## What handlers leave alone -/

/-- An appearance changes slots and resolutions only. -/
theorem onAppeared_frame (key : PeerKey) :
    s.onAppeared key =
      { s with
        slots := (s.onAppeared key).slots
        nextTicket := (s.onAppeared key).nextTicket
        resolutions := (s.onAppeared key).resolutions } := by
  unfold onAppeared
  split <;> rfl

/-- So does a removal. -/
theorem onRemoved_frame (key : PeerKey) :
    (s.onRemoved key).1 =
      { s with
        slots := (s.onRemoved key).1.slots
        resolutions := (s.onRemoved key).1.resolutions } := by
  unfold onRemoved
  split
  · rfl
  · rename_i slot _
    cases slot.ticket? <;> rfl

/-- The result of a resolution changes slots only. -/
theorem onResolved_frame (key : PeerKey) (ticket : Nat) (result : Option Endpoint) :
    (s.onResolved key ticket result).1 =
      { s with slots := (s.onResolved key ticket result).1.slots } := by
  unfold onResolved
  split
  · split
    · rfl
    · cases result <;> rfl
  · split
    · rfl
    · cases result with
      | none => rfl
      | some endpoint =>
        dsimp only
        split <;> rfl
  · rfl

theorem conclude_frame (ticket : Nat) (key : PeerKey) (result : Option Endpoint) :
    (s.conclude ticket key result).1 =
      { s with
        slots := (s.conclude ticket key result).1.slots
        resolutions := s.resolutions.erase ticket } := by
  rw [conclude, onResolved_frame, endResolution]

@[simp] theorem phase_onAppeared (key : PeerKey) : (s.onAppeared key).phase = s.phase := by
  rw [onAppeared_frame]

@[simp] theorem phase_onRemoved (key : PeerKey) : (s.onRemoved key).1.phase = s.phase := by
  rw [onRemoved_frame]

@[simp] theorem phase_conclude (ticket : Nat) (key : PeerKey) (result : Option Endpoint) :
    (s.conclude ticket key result).1.phase = s.phase := by
  rw [conclude_frame]

/-- A move changes neither the service type nor whether the subscription was
    told to stop. -/
theorem Move.same {now : Nat} {signal : SubscriptionSignal}
    {after : Subscription × List PeerEvent} (h : Move s now signal after) :
    after.1.serviceType = s.serviceType ∧ after.1.cancelled = s.cancelled := by
  cases h with
  | stop | progress | call | accepted => exact ⟨rfl, rfl⟩
  | appeared key =>
    rw [onAppeared_frame]
    exact ⟨rfl, rfl⟩
  | removed key =>
    rw [onRemoved_frame]
    exact ⟨rfl, rfl⟩
  | lose =>
    rw [lose_fst]
    exact ⟨serviceType_pause now, cancelled_pause now⟩
  | answered | stopped =>
    rw [conclude_frame]
    exact ⟨rfl, rfl⟩
  | refused => exact ⟨serviceType_pause now, cancelled_pause now⟩

theorem Run.serviceType_eq {settings : BrowserSettings} {serviceType : String}
    {events : List PeerEvent} (h : Run settings serviceType s events) :
    s.serviceType = serviceType := by
  induction h with
  | start => rfl
  | step _ hstep ih => exact (Move.of_step? hstep).same.1.trans ih
  | cancel _ ih => exact ih

theorem get?_conclude (ticket : Nat) (key k : PeerKey) (result : Option Endpoint) :
    (s.conclude ticket key result).1.slots.get? k =
      if k = key then Slot.resolve key ticket result (s.slots.get? key) else s.slots.get? k :=
  get?_onResolved (s := s.endResolution ticket) key k ticket result

/-! ## Waiting -/

/-- The ticket whose result is waited for under a key. -/
def waitsFor? (s : Subscription) (key : PeerKey) : Option Nat :=
  (s.slots.get? key).bind Slot.ticket?

theorem waitsFor?_onAppeared (key k : PeerKey) :
    (s.onAppeared key).waitsFor? k =
      if k = key then some ((s.waitsFor? key).getD s.nextTicket) else s.waitsFor? k := by
  rw [waitsFor?, get?_onAppeared]
  split
  · rw [Option.bind_some, Slot.ticket?_appear, waitsFor?]
  · rfl

theorem waitsFor?_onRemoved (key k : PeerKey) :
    (s.onRemoved key).1.waitsFor? k = if k = key then none else s.waitsFor? k := by
  rw [waitsFor?, get?_onRemoved]
  split <;> rfl

theorem waitsFor?_onResolved (key k : PeerKey) (ticket : Nat) (result : Option Endpoint) :
    (s.onResolved key ticket result).1.waitsFor? k =
      if k = key ∧ s.waitsFor? key = some ticket then none else s.waitsFor? k := by
  rw [waitsFor?, get?_onResolved]
  by_cases hk : k = key
  · subst hk
    rw [if_pos rfl, Slot.ticket?_resolve]
    simp only [waitsFor?, true_and]
  · rw [if_neg hk, if_neg fun h => hk h.1, waitsFor?]

/-- Slots and resolutions agree: what is waited for under a key is a resolution
    of that key, under way and not told to stop, and each of these is waited
    for. -/
structure Ticketed (s : Subscription) : Prop where
  running : ∀ {key : PeerKey} {ticket : Nat}, s.waitsFor? key = some ticket →
    ∃ r, s.resolutions.get? ticket = some r ∧ r.key = key ∧ r.cancelled = false
  awaited : ∀ {ticket : Nat} {r : Resolution}, s.resolutions.get? ticket = some r →
    r.cancelled = false → s.waitsFor? r.key = some ticket
  fresh : ∀ {ticket : Nat} {r : Resolution}, s.resolutions.get? ticket = some r →
    ticket < s.nextTicket

namespace Ticketed

theorem of_empty (hs : s.slots = .empty) (hr : s.resolutions = .empty) : Ticketed s where
  running {key ticket} h := by simp [waitsFor?, hs] at h
  awaited {ticket r} h := by simp [hr] at h
  fresh {ticket r} h := by simp [hr] at h

variable (h : Ticketed s)

include h

theorem congr {s' : Subscription} (hs : s'.slots = s.slots) (hr : s'.resolutions = s.resolutions)
    (hn : s'.nextTicket = s.nextTicket) : Ticketed s' where
  running {key ticket} hw := by
    rw [waitsFor?, hs] at hw
    rw [hr]
    exact h.running hw
  awaited {ticket r} hg hc := by
    rw [hr] at hg
    rw [waitsFor?, hs]
    exact h.awaited hg hc
  fresh {ticket r} hg := by
    rw [hr] at hg
    rw [hn]
    exact h.fresh hg

theorem onAppeared (key : PeerKey) : Ticketed (s.onAppeared key) := by
  cases hw : s.waitsFor? key with
  | some t =>
    -- The appearance is coalesced with the one that is waited for.
    have hb : (s.slots.get? key).bind Slot.ticket? ≠ none := by
      rw [← waitsFor?, hw]
      exact Option.some_ne_none t
    refine ⟨?_, ?_, ?_⟩
    · intro k ticket hk
      rw [get?_resolutions_onAppeared, if_neg fun h => hb h.2]
      rw [waitsFor?_onAppeared] at hk
      split at hk
      · rename_i hkey
        rw [hkey]
        exact h.running (by rw [hw, ← hk, hw, Option.getD_some])
      · exact h.running hk
    · intro ticket r hg hc
      rw [get?_resolutions_onAppeared, if_neg fun h => hb h.2] at hg
      rw [waitsFor?_onAppeared]
      split
      · rename_i hkey
        rw [← hkey, h.awaited hg hc, Option.getD_some]
      · exact h.awaited hg hc
    · intro ticket r hg
      rw [get?_resolutions_onAppeared, if_neg fun h => hb h.2] at hg
      rw [nextTicket_onAppeared, if_neg hb]
      exact h.fresh hg
  | none =>
    have hb : (s.slots.get? key).bind Slot.ticket? = none := hw
    refine ⟨?_, ?_, ?_⟩
    · intro k ticket hk
      rw [waitsFor?_onAppeared, hw, Option.getD_none] at hk
      rw [get?_resolutions_onAppeared]
      split at hk
      · -- The slot of the key waits for the resolution that was just started.
        rename_i hkey
        rw [if_pos ⟨(Option.some.inj hk).symm, hb⟩]
        exact ⟨_, rfl, hkey.symm, rfl⟩
      · obtain ⟨r, hr, hkey, hc⟩ := h.running hk
        have hne : ticket ≠ s.nextTicket := Nat.ne_of_lt (h.fresh hr)
        rw [if_neg fun h => hne h.1]
        exact ⟨r, hr, hkey, hc⟩
    · intro ticket r hg hc
      rw [get?_resolutions_onAppeared] at hg
      rw [waitsFor?_onAppeared, hw, Option.getD_none]
      split at hg
      · rename_i ht
        obtain rfl := Option.some.inj hg
        rw [if_pos rfl, ht.1]
      · have hkey : r.key ≠ key := by
          rintro rfl
          rw [h.awaited hg hc] at hw
          cases hw
        rw [if_neg hkey]
        exact h.awaited hg hc
    · intro ticket r hg
      rw [get?_resolutions_onAppeared] at hg
      rw [nextTicket_onAppeared, if_pos hb]
      split at hg
      · rename_i ht
        omega
      · exact Nat.lt_succ_of_lt (h.fresh hg)

theorem onRemoved (key : PeerKey) : Ticketed (s.onRemoved key).1 where
  running {k ticket} hk := by
    rw [waitsFor?_onRemoved] at hk
    split at hk
    · cases hk
    · rename_i hne
      obtain ⟨r, hr, hkey, hc⟩ := h.running hk
      -- The slot that is given up waited for a resolution of its own key.
      have hother : (s.slots.get? key).bind Slot.ticket? ≠ some ticket := by
        intro hw
        obtain ⟨r', hr', hkey', _⟩ := h.running hw
        rw [hr] at hr'
        obtain rfl := Option.some.inj hr'
        exact hne (hkey.symm.trans hkey')
      rw [get?_resolutions_onRemoved, if_neg hother]
      exact ⟨r, hr, hkey, hc⟩
  awaited {ticket r} hg hc := by
    rw [get?_resolutions_onRemoved] at hg
    split at hg
    · obtain ⟨r', _, rfl⟩ := Option.map_eq_some_iff.1 hg
      cases hc
    · rename_i hw
      have hwait := h.awaited hg hc
      have hkey : r.key ≠ key := by
        rintro rfl
        exact hw hwait
      rw [waitsFor?_onRemoved, if_neg hkey, hwait]
  fresh {ticket r} hg := by
    rw [get?_resolutions_onRemoved] at hg
    rw [nextTicket_onRemoved]
    split at hg
    · obtain ⟨r', hr', _⟩ := Option.map_eq_some_iff.1 hg
      exact h.fresh hr'
    · exact h.fresh hg

theorem setResolution {ticket : Nat} {r r' : Resolution} (hr : s.resolutions.get? ticket = some r)
    (hkey : r'.key = r.key) (hcancel : r'.cancelled = r.cancelled) :
    Ticketed (s.setResolution ticket r') where
  running {k t} hk := by
    obtain ⟨q, hq, hqk, hqc⟩ := h.running (show s.waitsFor? k = some t from hk)
    rw [Subscription.setResolution, Association.get?_put]
    split
    · rename_i ht
      rw [ht, hr] at hq
      obtain rfl := Option.some.inj hq
      exact ⟨r', rfl, hkey.trans hqk, hcancel.trans hqc⟩
    · exact ⟨q, hq, hqk, hqc⟩
  awaited {t q} hg hc := by
    rw [Subscription.setResolution, Association.get?_put] at hg
    show s.waitsFor? q.key = some t
    split at hg
    · rename_i ht
      obtain rfl := Option.some.inj hg
      rw [hkey, ht]
      exact h.awaited hr (hcancel ▸ hc)
    · exact h.awaited hg hc
  fresh {t q} hg := by
    rw [Subscription.setResolution, Association.get?_put] at hg
    split at hg
    · rename_i ht
      rw [ht]
      exact h.fresh hr
    · exact h.fresh hg

theorem conclude {ticket : Nat} {r : Resolution} (hr : s.resolutions.get? ticket = some r)
    (result : Option Endpoint) : Ticketed (s.conclude ticket r.key result).1 := by
  have hwaits (k : PeerKey) : (s.conclude ticket r.key result).1.waitsFor? k =
      if k = r.key ∧ s.waitsFor? r.key = some ticket then none else s.waitsFor? k :=
    waitsFor?_onResolved (s := s.endResolution ticket) r.key k ticket result
  have hget (t : Nat) : (s.conclude ticket r.key result).1.resolutions.get? t =
      if t = ticket then none else s.resolutions.get? t := by
    rw [conclude_frame]
    exact s.resolutions.get?_erase ticket t
  have hnext : (s.conclude ticket r.key result).1.nextTicket = s.nextTicket := by
    rw [conclude_frame]
  refine ⟨?_, ?_, ?_⟩
  · intro k t hk
    rw [hwaits] at hk
    split at hk
    · cases hk
    · rename_i hn
      obtain ⟨q, hq, hqk, hqc⟩ := h.running hk
      -- Only the slot of its own key could wait for the resolution that ended.
      have hne : t ≠ ticket := by
        rintro rfl
        rw [hr] at hq
        obtain rfl := Option.some.inj hq
        exact hn ⟨hqk.symm, hqk ▸ hk⟩
      rw [hget, if_neg hne]
      exact ⟨q, hq, hqk, hqc⟩
  · intro t q hg hc
    rw [hget] at hg
    split at hg
    · cases hg
    · rename_i hne
      have hw := h.awaited hg hc
      rw [hwaits, if_neg, hw]
      rintro ⟨hk, hw'⟩
      rw [← hk, hw] at hw'
      exact hne (Option.some.inj hw')
  · intro t q hg
    rw [hget] at hg
    rw [hnext]
    split at hg
    · cases hg
    · exact h.fresh hg

end Ticketed

/-- A move keeps slots and resolutions in agreement, unless it is the last. -/
theorem Move.ticketed {now : Nat} {signal : SubscriptionSignal}
    {after : Subscription × List PeerEvent} (h : Move s now signal after) (hs : Ticketed s)
    (hp : after.1.phase ≠ .ended) : Ticketed after.1 := by
  cases h with
  | stop => exact absurd rfl hp
  | appeared key => exact hs.onAppeared key
  | removed key => exact hs.onRemoved key
  | lose => exact .of_empty (by rw [lose_fst, slots_pause]) (by rw [lose_fst, resolutions_pause])
  | progress _ hr _ hk hc => exact hs.setResolution hr hk hc
  | answered _ hr => exact hs.conclude hr _
  | stopped _ hr => exact hs.conclude hr none
  | call | accepted => exact hs.congr rfl rfl rfl
  | refused =>
    exact hs.congr (slots_pause now) (resolutions_pause now) (nextTicket_pause now)

theorem step?_ended {now : Nat} {signal : SubscriptionSignal} (h : s.phase = .ended) :
    s.step? now signal = none := by
  rw [step?.eq_def, h]

/-- As long as a run goes on, slots and resolutions agree. -/
theorem Run.ticketed {settings : BrowserSettings} {serviceType : String}
    {events : List PeerEvent} (h : Run settings serviceType s events) (hp : s.phase ≠ .ended) :
    Ticketed s := by
  induction h with
  | start => exact .of_empty rfl rfl
  | @step s s' _ _ now signal _ hstep ih =>
    have hs : s.phase ≠ .ended := by
      intro he
      rw [step?_ended he] at hstep
      cases hstep
    exact (Move.of_step? hstep).ticketed (ih hs) hp
  | cancel _ ih => exact (ih hp).congr rfl rfl rfl

end Subscription

end ServiceDiscovery
