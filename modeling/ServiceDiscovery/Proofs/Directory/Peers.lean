import ServiceDiscovery.Directory.Registry

/-!
# The peers of a directory

What may happen to the peers of a directory (`PeerChange`), and what its
watchers hear of it. A directory is `Unscripted` if resolving a key gives the
address of the key, and every key with an address is present; the changes keep
that, as do the requests of watchers (`Unscripted.apply`, `Unscripted.watch`,
`Unscripted.receive`, `Unscripted.resolve`).
-/

namespace ServiceDiscovery

/-- A change made to a directory from outside. No outcome of a resolution is
    scripted, and no address changes without a notice. -/
inductive PeerChange
  | addPeer (key : PeerKey) (endpoint : Endpoint)
  | appear (key : PeerKey)
  | removePeer (key : PeerKey)
  | restart
  | disconnect
  | failWatches (times : Nat)

namespace Registry

/-- The directory after a change. -/
def apply (r : Registry) : PeerChange → Registry
  | .addPeer key endpoint => r.addPeer key endpoint
  | .appear key => r.appear key
  | .removePeer key => r.removePeer key
  | .restart => r.restart
  | .disconnect => r.disconnect
  | .failWatches times => { r with watchFailures := times }

/-- Resolving a key gives its address, and keys with an address are present. -/
structure Unscripted (r : Registry) : Prop where
  script : ∀ key, (r.script.get? key).getD [] = []
  present : ∀ {key : PeerKey} {endpoint : Endpoint},
    r.addresses.get? key = some endpoint → key ∈ r.present

variable {r : Registry}

theorem Unscripted.empty : Unscripted {} where
  script key := by rw [Association.get?_empty, Option.getD_none]
  present {key endpoint} h := by
    rw [Association.get?_empty] at h
    cases h

theorem Unscripted.congr {r' : Registry} (h : r.Unscripted) (hs : r'.script = r.script)
    (ha : r'.addresses = r.addresses) (hp : r'.present = r.present) : r'.Unscripted where
  script key := by
    rw [hs]
    exact h.script key
  present {key endpoint} he := by
    rw [ha] at he
    rw [hp]
    exact h.present he

theorem Unscripted.appear (h : r.Unscripted) (key : PeerKey) : (r.appear key).Unscripted where
  script := h.script
  present {k endpoint} he := by
    have hk : k ∈ r.present := h.present he
    show k ∈ if key ∈ r.present then r.present else r.present ++ [key]
    split
    · exact hk
    · exact List.mem_append_left _ hk

theorem mem_present_appear (key : PeerKey) : key ∈ (r.appear key).present := by
  show key ∈ if key ∈ r.present then r.present else r.present ++ [key]
  split
  · assumption
  · exact List.mem_append_right _ (List.mem_singleton_self key)

theorem Unscripted.addPeer (h : r.Unscripted) (key : PeerKey) (endpoint : Endpoint) :
    (r.addPeer key endpoint).Unscripted where
  script := h.script
  present {k e} he := by
    have he' : (r.addresses.put key endpoint).get? k = some e := he
    rw [Association.get?_put] at he'
    split at he'
    · rename_i hk
      rw [hk]
      exact mem_present_appear key
    · exact (h.appear key).present he'

theorem Unscripted.removePeer (h : r.Unscripted) (key : PeerKey) :
    (r.removePeer key).Unscripted where
  script := h.script
  present {k e} he := by
    have he' : (r.addresses.erase key).get? k = some e := he
    rw [Association.get?_erase] at he'
    split at he'
    · cases he'
    · rename_i hk
      exact List.mem_filter.2 ⟨h.present he', decide_eq_true hk⟩

/-- Changes leave a directory unscripted. -/
theorem Unscripted.apply (h : r.Unscripted) (change : PeerChange) :
    (r.apply change).Unscripted := by
  cases change with
  | addPeer key endpoint => exact h.addPeer key endpoint
  | appear key => exact h.appear key
  | removePeer key => exact h.removePeer key
  | restart | disconnect | failWatches => exact h.congr rfl rfl rfl

theorem Unscripted.applyAll {changes : List PeerChange} (h : r.Unscripted) :
    (changes.foldl Registry.apply r).Unscripted := by
  induction changes generalizing r with
  | nil => exact h
  | cons change changes ih => exact ih (h.apply change)

theorem Unscripted.dropStream (h : r.Unscripted) (stream : Nat) :
    (r.dropStream stream).Unscripted := h.congr rfl rfl rfl

/-! ## Requests -/

/-- Resolving a key of an unscripted directory gives the address of the key, and
    only counts the request. -/
theorem Unscripted.resolve_eq (h : r.Unscripted) (key : PeerKey) :
    r.resolve key =
      ({ r with resolveCalls := r.resolveCalls.put key ((r.resolveCalls.get? key).getD 0 + 1) },
        match r.addresses.get? key with
        | some endpoint => .found endpoint
        | none => .failed) := by
  unfold resolve
  simp only [h.script key]
  cases r.addresses.get? key <;> rfl

/-- What is read was unread, and nothing else changes. -/
theorem receive_event {stream : Nat} {event : DirectoryEvent} {r' : Registry}
    (h : r.receive stream = (r', .event event)) :
    ∃ s rest, r.streams.get? stream = some s ∧ s.unread = event :: rest ∧
      r' = { r with streams := r.streams.put stream { s with unread := rest } } := by
  unfold receive at h
  split at h
  · cases (Prod.mk.inj h).2
  · rename_i s hs
    split at h
    · rename_i e rest hu
      obtain ⟨hr, he⟩ := Prod.mk.inj h
      obtain rfl := Received.event.inj he
      exact ⟨s, rest, hs, hu, hr.symm⟩
    · have hne := (Prod.mk.inj h).2
      split at hne <;> cases hne

theorem receive_ended {stream : Nat} {r' : Registry} (h : r.receive stream = (r', .ended)) :
    r' = r := by
  unfold receive at h
  split at h
  · exact (Prod.mk.inj h).1.symm
  · split at h
    · cases (Prod.mk.inj h).2
    · exact (Prod.mk.inj h).1.symm

/-- There is nothing to read and the stream has not ended: it is still sent to,
    and everything sent was read. -/
theorem receive_waiting {stream : Nat} (h : (r.receive stream).2 = .waiting) :
    ∃ s, r.streams.get? stream = some s ∧ s.connected = true ∧ s.unread = [] := by
  unfold receive at h
  split at h
  · cases h
  · rename_i s hs
    split at h
    · cases h
    · rename_i hu
      by_cases hc : s.connected = true
      · exact ⟨s, hs, hc, hu⟩
      · simp only [if_neg hc] at h
        cases h

/-- A watcher that is let in has the present keys of its type to read. -/
theorem watch_ok {serviceType : String} {stream : Nat} {r' : Registry}
    (h : r.watch serviceType = (r', .ok stream)) :
    ∃ calls, r' =
      { r with
        watchCalls := calls
        streams := r.streams.put stream
          { serviceType
            unread := (r.present.filter (·.serviceType = serviceType)).map .appeared }
        nextStream := stream + 1 } := by
  unfold watch at h
  dsimp only at h
  split at h
  · obtain ⟨hr, hs⟩ := Prod.mk.inj h
    obtain rfl := Except.ok.inj hs
    exact ⟨_, hr.symm⟩
  · cases (Prod.mk.inj h).2

/-- A watcher that is refused changes counters only. -/
theorem watch_error {serviceType : String} {error : DiscoveryError} {r' : Registry}
    (h : r.watch serviceType = (r', .error error)) :
    ∃ calls failures, r' = { r with watchCalls := calls, watchFailures := failures } := by
  unfold watch at h
  dsimp only at h
  split at h
  · cases (Prod.mk.inj h).2
  · exact ⟨_, _, (Prod.mk.inj h).1.symm⟩

end Registry

end ServiceDiscovery
