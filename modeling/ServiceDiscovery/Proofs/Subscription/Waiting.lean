import ServiceDiscovery.Proofs.Association
import ServiceDiscovery.Proofs.Subscription.Tickets

/-!
# Waiting slots and running resolutions

A slot waits for a result while it is pending or being refreshed
(`Subscription.awaited`), and a resolution runs until it ends, unless it is told to
stop (`Subscription.running`). As long as a subscription is not told to stop itself,
the two are matched one to one, key by key and ticket by ticket
(`Run.awaited_perm_running`): no slot waits without a resolution that runs for it,
and no key has two of them.
-/

namespace ServiceDiscovery

namespace Subscription

/-- The keys whose slots wait for a result, each with its ticket. -/
def awaited (s : Subscription) : List (PeerKey × Nat) :=
  s.slots.bindings.filterMap fun (key, slot) => slot.ticket?.map fun ticket => (key, ticket)

/-- The resolutions under way that were not told to stop: the key of each, and its
    ticket. -/
def running (s : Subscription) : List (PeerKey × Nat) :=
  s.resolutions.bindings.filterMap fun (ticket, r) =>
    if r.cancelled then none else some (r.key, ticket)

/-- The slots that wait and the resolutions that run are matched. -/
structure Matched (s : Subscription) : Prop where
  perm : s.awaited.Perm s.running
  /-- A slot that waits has a resolution running for it, and no other runs for its
      key. -/
  runs : ∀ {key slot ticket}, s.slots.get? key = some slot → slot.ticket? = some ticket →
    ∃ r, (ticket, r) ∈ s.resolutions.bindings ∧ r.key = key ∧ r.cancelled = false ∧
      ∀ task ∈ s.resolutions.bindings, task.2.key = key → task.2.cancelled = false →
        task = (ticket, r)
  /-- Whatever no slot waits for was told to stop. -/
  stopped : ∀ {ticket r}, (ticket, r) ∈ s.resolutions.bindings → (r.key, ticket) ∉ s.awaited →
    r.cancelled = true
  /-- No key has two resolutions running. -/
  single : (s.running.map Prod.fst).Nodup
  distinct : (s.awaited.map Prod.snd).Nodup ∧ s.resolutions.keys.Nodup
  fresh : ∀ ticket ∈ s.awaited.map Prod.snd ++ s.resolutions.keys, ticket < s.nextTicket

variable {s : Subscription}

theorem mem_awaited {key : PeerKey} {ticket : Nat} :
    (key, ticket) ∈ s.awaited ↔ s.waitsFor? key = some ticket := by
  rw [waitsFor?, Option.bind_eq_some_iff, awaited, List.mem_filterMap]
  constructor
  · rintro ⟨⟨k, slot⟩, hslot, hticket⟩
    obtain ⟨t, ht, he⟩ := Option.map_eq_some_iff.1 hticket
    obtain ⟨rfl, rfl⟩ := Prod.mk.inj he
    exact ⟨slot, s.slots.mem_bindings_iff.1 hslot, ht⟩
  · rintro ⟨slot, hslot, hticket⟩
    exact ⟨(key, slot), s.slots.mem_bindings_iff.2 hslot, by simp [hticket]⟩

theorem mem_running {key : PeerKey} {ticket : Nat} :
    (key, ticket) ∈ s.running ↔
      ∃ r, s.resolutions.get? ticket = some r ∧ r.key = key ∧ r.cancelled = false := by
  rw [running, List.mem_filterMap]
  constructor
  · rintro ⟨⟨t, r⟩, hr, hrunning⟩
    obtain ⟨hfree, he⟩ := Option.ite_none_left_eq_some.1 hrunning
    obtain ⟨rfl, rfl⟩ := Prod.mk.inj (Option.some.inj he)
    exact ⟨r, s.resolutions.mem_bindings_iff.1 hr, rfl, eq_false_of_ne_true hfree⟩
  · rintro ⟨r, hr, rfl, hfree⟩
    exact ⟨(ticket, r), s.resolutions.mem_bindings_iff.2 hr, by simp [hfree]⟩

theorem nodup_awaited : (s.awaited.map Prod.fst).Nodup :=
  Association.nodup_filterMap fun b c hc => by
    obtain ⟨t, -, rfl⟩ := Option.map_eq_some_iff.1 hc
    rfl

theorem nodup_running : (s.running.map Prod.snd).Nodup :=
  Association.nodup_filterMap fun b c hc => by
    obtain ⟨-, he⟩ := Option.ite_none_left_eq_some.1 hc
    obtain rfl := Option.some.inj he
    rfl

/-- Slots and resolutions that agree are matched. -/
theorem Ticketed.matched (h : Ticketed s) : Matched s := by
  have hperm : s.awaited.Perm s.running := by
    refine (List.perm_ext_iff_of_nodup (List.Nodup.of_map _ nodup_awaited)
      (List.Nodup.of_map _ nodup_running)).2 ?_
    rintro ⟨key, ticket⟩
    rw [mem_awaited, mem_running]
    refine ⟨h.running, ?_⟩
    rintro ⟨r, hr, rfl, hfree⟩
    exact h.awaited hr hfree
  have hticket {key : PeerKey} {ticket : Nat} (hw : s.waitsFor? key = some ticket) :
      ticket < s.nextTicket := by
    obtain ⟨r, hr, -⟩ := h.running hw
    exact h.fresh hr
  refine ⟨hperm, ?_, ?_, (hperm.map Prod.fst).nodup nodup_awaited,
    ⟨(hperm.map Prod.snd).symm.nodup nodup_running, s.resolutions.distinct⟩, ?_⟩
  · intro key slot ticket hslot hticket
    have hw : s.waitsFor? key = some ticket := by rw [waitsFor?, hslot]; exact hticket
    obtain ⟨r, hr, hkey, hfree⟩ := h.running hw
    refine ⟨r, s.resolutions.mem_bindings_iff.2 hr, hkey, hfree, ?_⟩
    -- Another one that ran for the key would be waited for in its slot too.
    rintro ⟨t, q⟩ hq rfl hfree'
    have hq' := s.resolutions.mem_bindings_iff.1 hq
    obtain rfl : t = ticket := Option.some.inj ((h.awaited hq' hfree').symm.trans hw)
    obtain rfl : q = r := Option.some.inj (hq'.symm.trans hr)
    rfl
  · intro ticket r hr hnot
    cases hcancelled : r.cancelled with
    | true => rfl
    | false =>
      exact absurd (mem_awaited.2 (h.awaited (s.resolutions.mem_bindings_iff.1 hr) hcancelled)) hnot
  · intro ticket hm
    rcases List.mem_append.1 hm with hm | hm
    · obtain ⟨⟨key, t⟩, hawaited, rfl⟩ := List.mem_map.1 hm
      exact hticket (mem_awaited.1 hawaited)
    · obtain ⟨r, hr⟩ := s.resolutions.mem_keys_iff.1 hm
      exact h.fresh hr

/-- A subscription ends only once it was told to stop. -/
theorem Move.cancelled_of_ended {now : Nat} {signal : SubscriptionSignal}
    {after : Subscription × List PeerEvent} (h : Move s now signal after)
    (hs : s.phase = .ended → s.cancelled = true) (hp : after.1.phase = .ended) :
    after.1.cancelled = true := by
  rw [h.same.2]
  cases h with
  | stop hcancelled => exact hcancelled
  | appeared key => exact hs ((phase_onAppeared key).symm.trans hp)
  | removed key => exact hs ((phase_onRemoved key).symm.trans hp)
  | progress => exact hs hp
  | answered | stopped => exact hs ((phase_conclude ..).symm.trans hp)
  | lose =>
    rw [lose_fst, phase_pause] at hp
    cases hp
  | refused =>
    rw [phase_pause] at hp
    cases hp
  | call | accepted => cases hp

theorem Run.cancelled_of_ended {settings : BrowserSettings} {serviceType : String}
    {events : List PeerEvent} (h : Run settings serviceType s events) (hp : s.phase = .ended) :
    s.cancelled = true := by
  induction h with
  | start => cases hp
  | step _ hstep ih => exact (Move.of_step? hstep).cancelled_of_ended ih hp
  | cancel => rfl

/-- At any point of a run, unless the subscription was told to stop, the slots that
    wait for a result are matched one to one with the resolutions that run. -/
theorem Run.awaited_perm_running {settings : BrowserSettings} {serviceType : String}
    {events : List PeerEvent} (h : Run settings serviceType s events)
    (hkept : s.cancelled = false) : Matched s := by
  refine (h.ticketed fun hp => ?_).matched
  cases (h.cancelled_of_ended hp).symm.trans hkept

/-- One key is being refreshed, another was removed and appeared again while it was
    looked for, so that its first resolution was told to stop. -/
theorem Run.awaited_perm_running_refreshing :
    let key : PeerKey := ⟨"eth0", .inet, "nas", "t", "local"⟩
    let other : PeerKey := ⟨"eth0", .inet, "tv", "t", "local"⟩
    let first : Endpoint := .v4 ⟨10, 0, 0, 5⟩ 9000
    let signals : List (Nat × SubscriptionSignal) :=
      [(0, .event (.appeared key)), (0, .answered 0 (some first)), (1, .event (.appeared other)),
        (2, .event (.removed other)), (3, .event (.appeared other)), (4, .event (.appeared key)),
        (5, .event (.appeared key))]
    ∃ s, (Subscription.start {} "t").react? signals = some (s, [.added (.located key first)]) ∧
      s.cancelled = false ∧ s.awaited = [(key, 3), (other, 2)] ∧
      s.resolutions.keys = [1, 2, 3] ∧ Matched s := by
  intro key other first signals
  have hreact : ∃ s, (Subscription.start {} "t").react? signals =
      some (s, [.added (.located key first)]) ∧ s.cancelled = false ∧
      s.awaited = [(key, 3), (other, 2)] ∧ s.resolutions.keys = [1, 2, 3] := ⟨_, rfl, rfl, rfl, rfl⟩
  obtain ⟨s, hs, hkept, hawaited, hkeys⟩ := hreact
  have hrun : Run {} "t" s [.added (.located key first)] := Run.start.react hs
  exact ⟨s, hs, hkept, hawaited, hkeys, hrun.awaited_perm_running hkept⟩

end Subscription

end ServiceDiscovery
