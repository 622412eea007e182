import Mathlib.Data.List.Induction
import Mathlib.Data.List.Nodup
import ServiceDiscovery.Proofs.Association
import ServiceDiscovery.Proofs.Directory.Peers

/-!
# The watchers of a directory

A `Chronicle` is a directory together with what came of the requests to it: which watchers
were admitted, what each of them has read, and which numbers were given to registrations.
Anything may be done with the directory in any order (`RegistryAction`).

A watcher folds its stream: what was replayed to it when it was admitted, and every notice
since. Main statement: as long as it is connected, this gives the present keys of its type;
once the directory restarts or disconnects, what it was sent is final, with a reset at the
end only after a restart; and no number is given to two registrations
(`Chronicle.Becomes.streams_tell_present`).
-/

namespace ServiceDiscovery

/-! ## Folding a stream -/

namespace DirectoryEvent

variable {events : List DirectoryEvent} {event : DirectoryEvent} {keys : List PeerKey}
  {key : PeerKey} {serviceType : String}

/-- An event about a key of a service type. -/
def IsAbout (serviceType : String) (event : DirectoryEvent) : Prop :=
  ∃ key : PeerKey, key.serviceType = serviceType ∧ (event = .appeared key ∨ event = .removed key)

theorem keysAfter_concat : keysAfter (events ++ [event]) = event.apply (keysAfter events) := by
  rw [keysAfter, List.foldl_append]
  rfl

/-- Keys that are replayed are known, in their order. -/
theorem keysAfter_map_appeared (h : keys.Nodup) : keysAfter (keys.map .appeared) = keys := by
  induction keys using List.reverseRecOn with
  | nil => rfl
  | append_singleton keys key ih =>
    obtain ⟨hkey, hkeys⟩ := (List.nodup_concat ..).1 (List.concat_eq_append ▸ h)
    rw [List.map_append, List.map_singleton, keysAfter_concat, ih hkeys, apply, if_neg hkey]

end DirectoryEvent

/-! ## The present keys of a type -/

namespace Registry

variable {r : Registry} {key : PeerKey} {serviceType : String}

/-- The present keys of a type. -/
def presentOf (r : Registry) (serviceType : String) : List PeerKey :=
  r.present.filter (·.serviceType = serviceType)

theorem presentOf_appear (r : Registry) (key : PeerKey) (serviceType : String) :
    (r.appear key).presentOf serviceType =
      if key.serviceType = serviceType then
        DirectoryEvent.apply (r.presentOf serviceType) (.appeared key)
      else r.presentOf serviceType := by
  have hpresent : (r.appear key).present =
      if key ∈ r.present then r.present else r.present ++ [key] := rfl
  rw [presentOf, hpresent, DirectoryEvent.apply]
  by_cases htype : key.serviceType = serviceType
  · have hmem : key ∈ r.presentOf serviceType ↔ key ∈ r.present := by simp [presentOf, htype]
    rw [if_pos htype]
    by_cases hkey : key ∈ r.present
    · rw [if_pos hkey, if_pos (hmem.2 hkey), presentOf]
    · rw [if_neg hkey, if_neg fun h => hkey (hmem.1 h), presentOf]
      simp [List.filter_append, htype]
  · rw [if_neg htype]
    split
    · rfl
    · simp [presentOf, List.filter_append, htype]

theorem presentOf_removePeer (r : Registry) (key : PeerKey) (serviceType : String) :
    (r.removePeer key).presentOf serviceType =
      if key.serviceType = serviceType then
        DirectoryEvent.apply (r.presentOf serviceType) (.removed key)
      else r.presentOf serviceType := by
  have hpresent : (r.removePeer key).present = r.present.filter (· ≠ key) := rfl
  rw [presentOf, hpresent, DirectoryEvent.apply, presentOf, List.filter_filter, List.filter_filter]
  split
  · exact List.filter_congr fun k _ => Bool.and_comm ..
  · -- A key of another type is not among those of this type.
    rename_i htype
    refine List.filter_congr fun k _ => ?_
    by_cases hk : k.serviceType = serviceType
    · have hne : k ≠ key := fun he => htype (he ▸ hk)
      simp [hk, hne]
    · simp [hk]

theorem nodup_present_appear (key : PeerKey) (h : r.present.Nodup) :
    (r.appear key).present.Nodup := by
  change (if key ∈ r.present then r.present else r.present ++ [key]).Nodup
  split
  · exact h
  · rename_i hkey
    exact List.concat_eq_append ▸ (List.nodup_concat ..).2 ⟨hkey, h⟩

/-! ## What requests do -/

theorem streams_notify (r : Registry) (type : String) (event : DirectoryEvent) :
    (r.notify type event).streams = r.streams.mapValues fun _ s =>
      if s.connected ∧ s.serviceType = type then { s with unread := s.unread ++ [event] }
      else s := rfl

theorem streams_restart (r : Registry) : r.restart.streams = r.streams.mapValues fun _ s =>
    if s.connected then { s with connected := false, unread := s.unread ++ [.reset] }
    else s := rfl

theorem streams_disconnect (r : Registry) :
    r.disconnect.streams = r.streams.mapValues fun _ s => { s with connected := false } := rfl

theorem watch_number {stream : Nat} {r' : Registry}
    (h : r.watch serviceType = (r', .ok stream)) : stream = r.nextStream := by
  unfold watch at h
  dsimp only at h
  split at h
  · exact (Except.ok.inj (Prod.mk.inj h).2).symm
  · cases (Prod.mk.inj h).2

theorem commit_ok {record : ServiceRecord} {registration : Registration} {r' : Registry}
    (h : r.commit record = (r', .ok registration)) :
    registration.id = r.lastId + 1 ∧ r'.lastId = r.lastId + 1 ∧ r'.streams = r.streams ∧
      r'.nextStream = r.nextStream ∧ r'.present = r.present := by
  unfold commit at h
  dsimp only at h
  split at h
  · cases (Prod.mk.inj h).2
  · split at h
    · cases (Prod.mk.inj h).2
    · obtain ⟨rfl, hok⟩ := Prod.mk.inj h
      obtain rfl := Except.ok.inj hok
      exact ⟨rfl, rfl, rfl, rfl, rfl⟩

end Registry

/-! ## Requests that watchers see nothing of -/

/-- What may be done with a directory that its watchers see nothing of. -/
inductive UnseenAction
  | setAddress (key : PeerKey) (endpoint : Endpoint)
  | failResolution (key : PeerKey) (times : Nat)
  | holdResolution (key : PeerKey)
  | answerGate (gate : Nat) (answer : Option Endpoint)
  | abandonGate (gate : Nat)
  | resolve (key : PeerKey)
  | failRegistrations (times : Nat)
  | stallRegistrations (times : Nat)
  | collide (instanceName : String)
  | clearCollision (instanceName : String)
  | delayWithdrawals (span : Nat)
  /-- A request to register is taken in, and may stall. -/
  | accept
  | withdraw (id : Nat)

/-- What the watchers are still sent by a change that ends their streams. -/
def PeerChange.farewell? : PeerChange → Option (List DirectoryEvent)
  | restart => some [.reset]
  | disconnect => some []
  | addPeer .. | appear _ | removePeer _ | failWatches _ => none

namespace Registry

/-- The directory after something that watchers see nothing of. -/
def unseen (r : Registry) : UnseenAction → Registry
  | .setAddress key endpoint => r.setAddress key endpoint
  | .failResolution key times => r.failResolution key times
  | .holdResolution key => (r.holdResolution key).1
  | .answerGate gate answer => r.answerGate gate answer
  | .abandonGate gate => r.abandonGate gate
  | .resolve key => (r.resolve key).1
  | .failRegistrations times => { r with registerFailures := times }
  | .stallRegistrations times => { r with registerStalls := times }
  | .collide instanceName => r.collide instanceName
  | .clearCollision instanceName => r.clearCollision instanceName
  | .delayWithdrawals span => { r with withdrawDelay := some span }
  | .accept => r.accept.1
  | .withdraw id => r.unregister id

/-- Directories that watchers cannot tell apart, and that gave out the same numbers. -/
structure Alike (r r' : Registry) : Prop where
  streams : r'.streams = r.streams
  nextStream : r'.nextStream = r.nextStream
  present : r'.present = r.present
  lastId : r'.lastId = r.lastId

theorem alike_resolve (r : Registry) (key : PeerKey) : r.Alike (r.resolve key).1 := by
  rw [resolve]
  dsimp only
  split
  · split <;> exact ⟨rfl, rfl, rfl, rfl⟩
  · split <;> exact ⟨rfl, rfl, rfl, rfl⟩

theorem alike_accept (r : Registry) : r.Alike r.accept.1 := by
  rw [accept]
  dsimp only
  split <;> exact ⟨rfl, rfl, rfl, rfl⟩

theorem alike_unseen (r : Registry) (action : UnseenAction) : r.Alike (r.unseen action) := by
  cases action with
  | resolve key => exact r.alike_resolve key
  | accept => exact r.alike_accept
  | _ => exact ⟨rfl, rfl, rfl, rfl⟩

theorem alike_refused {record : ServiceRecord} {error : DiscoveryError} {r r' : Registry}
    (h : r.commit record = (r', .error error)) : r.Alike r' := by
  unfold commit at h
  dsimp only at h
  split at h
  · obtain ⟨rfl, -⟩ := Prod.mk.inj h
    exact ⟨rfl, rfl, rfl, rfl⟩
  · split at h
    · obtain ⟨rfl, -⟩ := Prod.mk.inj h
      exact ⟨rfl, rfl, rfl, rfl⟩
    · cases (Prod.mk.inj h).2

end Registry

/-! ## Chronicles -/

/-- What may be done with a directory. -/
inductive RegistryAction
  | change (change : PeerChange)
  | unseen (action : UnseenAction)
  | watch (serviceType : String)
  /-- A watcher reads the next event of its stream, if there is one. -/
  | read (stream : Nat)
  /-- A watcher goes away. -/
  | leave (stream : Nat)
  /-- A request to register is answered. -/
  | commit (record : ServiceRecord)

/-- A directory, and what came of the requests to it. -/
structure Chronicle where
  registry : Registry := {}
  /-- The watchers that were let in: the numbers of their streams, and their types. -/
  admitted : List (Nat × String) := []
  /-- What was read of each stream. -/
  heard : Nat → List DirectoryEvent := fun _ => []
  /-- The numbers that were given to registrations. -/
  issued : List Nat := []

namespace Chronicle

/-- The chronicle after an action. -/
def act (c : Chronicle) : RegistryAction → Chronicle
  | .change change => { c with registry := c.registry.apply change }
  | .unseen action => { c with registry := c.registry.unseen action }
  | .watch serviceType =>
    match c.registry.watch serviceType with
    | (registry, .ok stream) =>
      { c with registry, admitted := c.admitted ++ [(stream, serviceType)] }
    | (registry, .error _) => { c with registry }
  | .read stream =>
    match c.registry.receive stream with
    | (registry, .event event) =>
      { c with
        registry
        heard := fun n => if n = stream then c.heard n ++ [event] else c.heard n }
    | (_, .waiting) | (_, .ended) => c
  | .leave stream => { c with registry := c.registry.dropStream stream }
  | .commit record =>
    match c.registry.commit record with
    | (registry, .ok registration) => { c with registry, issued := c.issued ++ [registration.id] }
    | (registry, .error _) => { c with registry }

/-- The chronicle after a series of actions. -/
def actAll (c : Chronicle) (actions : List RegistryAction) : Chronicle := actions.foldl act c

/-- What a chronicle may become, whatever is done. -/
def Becomes (c c' : Chronicle) : Prop := ∃ actions, c.actAll actions = c'

/-! ## What holds of every chronicle -/

/-- What holds of a chronicle, whatever was done. -/
structure Right (c : Chronicle) : Prop where
  present : c.registry.present.Nodup
  /-- Numbers of streams are given out once. -/
  fresh : ∀ {n}, c.registry.nextStream ≤ n →
    c.registry.streams.get? n = none ∧ c.heard n = [] ∧ ∀ type, (n, type) ∉ c.admitted
  type : ∀ {n type}, (n, type) ∈ c.admitted →
    ∀ {s}, c.registry.streams.get? n = some s → s.serviceType = type
  knows : ∀ {n s}, c.registry.streams.get? n = some s → s.connected = true →
    DirectoryEvent.keysAfter (c.heard n ++ s.unread) = c.registry.presentOf s.serviceType
  notices : ∀ {n s}, c.registry.streams.get? n = some s → s.connected = true →
    ∀ event ∈ c.heard n ++ s.unread, event.IsAbout s.serviceType
  issued : c.issued.Nodup ∧ ∀ id ∈ c.issued, id ≤ c.registry.lastId

variable {c c' : Chronicle}

namespace Right

theorem start : Right {} where
  present := List.nodup_nil
  fresh _ := ⟨rfl, rfl, fun _ => List.not_mem_nil⟩
  type h := absurd h List.not_mem_nil
  knows h := by cases h
  notices h := by cases h
  issued := ⟨List.nodup_nil, fun _ h => absurd h List.not_mem_nil⟩

/-- Watchers that cannot tell the difference are told nothing. -/
theorem alike {registry : Registry} (h : Right c) (ha : c.registry.Alike registry) :
    Right { c with registry } where
  present := ha.present ▸ h.present
  fresh {n} hn := by
    change registry.nextStream ≤ n at hn
    change registry.streams.get? n = none ∧ _
    rw [ha.streams]
    exact h.fresh (ha.nextStream ▸ hn)
  type {n type} hm {s} hs := by
    change registry.streams.get? n = some s at hs
    exact h.type hm (ha.streams ▸ hs)
  knows {n s} hs hc := by
    change registry.streams.get? n = some s at hs
    change _ = registry.present.filter _
    rw [ha.present]
    exact h.knows (ha.streams ▸ hs) hc
  notices {n s} hs hc := by
    change registry.streams.get? n = some s at hs
    exact h.notices (ha.streams ▸ hs) hc
  issued := ha.lastId ▸ h.issued

/-- Every connected watcher of the type of a key is told of the key. -/
theorem notify {registry : Registry} {key : PeerKey} {event : DirectoryEvent} (h : Right c)
    (hevent : event.IsAbout key.serviceType)
    (hstreams : registry.streams = (c.registry.notify key.serviceType event).streams)
    (hnext : registry.nextStream = c.registry.nextStream)
    (hlast : registry.lastId = c.registry.lastId) (hpresent : registry.present.Nodup)
    (hof : ∀ type, registry.presentOf type =
      if key.serviceType = type then event.apply (c.registry.presentOf type)
      else c.registry.presentOf type) :
    Right { c with registry } := by
  have hget {n : Nat} : registry.streams.get? n = (c.registry.streams.get? n).map fun s =>
      if s.connected ∧ s.serviceType = key.serviceType then
        { s with unread := s.unread ++ [event] }
      else s := by
    rw [hstreams, Registry.streams_notify, Association.get?_mapValues]
  refine ⟨hpresent, ?_, ?_, ?_, ?_, hlast ▸ h.issued⟩
  · intro n hn
    obtain ⟨hnone, hrest⟩ := h.fresh (hnext ▸ hn)
    exact ⟨hget.trans (congrArg _ hnone), hrest⟩
  · intro n type hm s' hs'
    obtain ⟨s, hs, rfl⟩ := Option.map_eq_some_iff.1 (hget.symm.trans hs')
    have htype := h.type hm hs
    split <;> exact htype
  · intro n s' hs' hc
    obtain ⟨s, hs, rfl⟩ := Option.map_eq_some_iff.1 (hget.symm.trans hs')
    change _ = registry.presentOf _
    split at hc
    · rename_i hsent
      rw [if_pos hsent, ← List.append_assoc, DirectoryEvent.keysAfter_concat, h.knows hs hc, hof,
        if_pos hsent.2.symm]
    · rename_i hsent
      have hother : key.serviceType ≠ s.serviceType := fun he => hsent ⟨hc, he.symm⟩
      rw [if_neg hsent, h.knows hs hc, hof, if_neg hother]
  · intro n s' hs' hc e he
    obtain ⟨s, hs, rfl⟩ := Option.map_eq_some_iff.1 (hget.symm.trans hs')
    split at hc
    · rename_i hsent
      rw [if_pos hsent, ← List.append_assoc] at he
      rw [if_pos hsent]
      rcases List.mem_append.1 he with he | he
      · exact h.notices hs hc e he
      · obtain rfl := List.mem_singleton.1 he
        exact hsent.2 ▸ hevent
    · rename_i hsent
      rw [if_neg hsent] at he ⊢
      exact h.notices hs hc e he

theorem appear (h : Right c) (key : PeerKey) :
    Right { c with registry := c.registry.appear key } := by
  have habout : (DirectoryEvent.appeared key).IsAbout key.serviceType := ⟨key, rfl, .inl rfl⟩
  exact h.notify habout rfl rfl rfl (Registry.nodup_present_appear key h.present)
    (c.registry.presentOf_appear key)

theorem removePeer (h : Right c) (key : PeerKey) :
    Right { c with registry := c.registry.removePeer key } := by
  have habout : (DirectoryEvent.removed key).IsAbout key.serviceType := ⟨key, rfl, .inr rfl⟩
  exact h.notify habout rfl rfl rfl (h.present.filter _) (c.registry.presentOf_removePeer key)

/-- Nobody is connected any more. -/
theorem cut {registry : Registry} {f : Nat → WatchStream → WatchStream} (h : Right c)
    (hstreams : registry.streams = c.registry.streams.mapValues f)
    (hf : ∀ n s, (f n s).serviceType = s.serviceType ∧ (f n s).connected = false)
    (hnext : registry.nextStream = c.registry.nextStream)
    (hlast : registry.lastId = c.registry.lastId)
    (hpresent : registry.present = c.registry.present) : Right { c with registry } := by
  have hget {n : Nat} : registry.streams.get? n = (c.registry.streams.get? n).map (f n) := by
    rw [hstreams]
    exact Association.get?_mapValues ..
  have hover {n : Nat} {s : WatchStream} (hs : registry.streams.get? n = some s) :
      s.connected = false := by
    obtain ⟨s, -, rfl⟩ := Option.map_eq_some_iff.1 (hget.symm.trans hs)
    exact (hf n s).2
  refine ⟨hpresent ▸ h.present, ?_, ?_, ?_, ?_, hlast ▸ h.issued⟩
  · intro n hn
    obtain ⟨hnone, hrest⟩ := h.fresh (hnext ▸ hn)
    exact ⟨hget.trans (congrArg _ hnone), hrest⟩
  · intro n type hm s' hs'
    obtain ⟨s, hs, rfl⟩ := Option.map_eq_some_iff.1 (hget.symm.trans hs')
    exact (hf n s).1.trans (h.type hm hs)
  · intro n s hs hc
    cases (hover hs).symm.trans hc
  · intro n s hs hc
    cases (hover hs).symm.trans hc

theorem change (h : Right c) (change : PeerChange) : Right (c.act (.change change)) := by
  cases change with
  | addPeer key endpoint =>
    have hset : Right { c with registry := c.registry.setAddress key endpoint } :=
      h.alike ⟨rfl, rfl, rfl, rfl⟩
    exact hset.appear key
  | appear key => exact h.appear key
  | removePeer key => exact h.removePeer key
  | restart =>
    refine h.cut c.registry.streams_restart (fun n s => ?_) rfl rfl rfl
    split
    · exact ⟨rfl, rfl⟩
    · exact ⟨rfl, eq_false_of_ne_true ‹_›⟩
  | disconnect => exact h.cut c.registry.streams_disconnect (fun _ _ => ⟨rfl, rfl⟩) rfl rfl rfl
  | failWatches times => exact h.alike ⟨rfl, rfl, rfl, rfl⟩

/-- A watcher is let in: the present keys of its type are replayed to it. -/
theorem joined {registry : Registry} {type : String} {stream : Nat} (h : Right c)
    (hw : c.registry.watch type = (registry, .ok stream)) :
    Right { c with registry, admitted := c.admitted ++ [(stream, type)] } := by
  obtain rfl := Registry.watch_number hw
  obtain ⟨calls, rfl⟩ := Registry.watch_ok hw
  have hother {n : Nat} {s : WatchStream} (hn : n ≠ c.registry.nextStream) :
      (c.registry.streams.put c.registry.nextStream s).get? n = c.registry.streams.get? n :=
    Association.get?_put_of_ne _ _ hn
  have hself {s : WatchStream} :
      (c.registry.streams.put c.registry.nextStream s).get? c.registry.nextStream = some s :=
    Association.get?_put_self ..
  obtain ⟨hnone, hheard, hnot⟩ := h.fresh (Nat.le_refl c.registry.nextStream)
  refine ⟨h.present, ?_, ?_, ?_, ?_, h.issued⟩
  · intro n hn
    have hlt : c.registry.nextStream < n := hn
    obtain ⟨hnone, hheard, hnot⟩ := h.fresh (Nat.le_of_lt hlt)
    refine ⟨(hother (Nat.ne_of_gt hlt)).trans hnone, hheard, fun type hm => ?_⟩
    rcases List.mem_append.1 hm with hm | hm
    · exact hnot type hm
    · exact Nat.ne_of_gt hlt (Prod.mk.inj (List.mem_singleton.1 hm)).1
  · intro n type' hm s hs
    rcases List.mem_append.1 hm with hm | hm
    · have hn : n ≠ c.registry.nextStream := by
        rintro rfl
        exact hnot type' hm
      exact h.type hm ((hother hn).symm.trans hs)
    · obtain ⟨rfl, rfl⟩ := Prod.mk.inj (List.mem_singleton.1 hm)
      obtain rfl := Option.some.inj (hself.symm.trans hs)
      rfl
  · intro n s hs hc
    by_cases hn : n = c.registry.nextStream
    · subst hn
      obtain rfl := Option.some.inj (hself.symm.trans hs)
      change DirectoryEvent.keysAfter (c.heard _ ++ _) = _
      rw [hheard, List.nil_append]
      exact DirectoryEvent.keysAfter_map_appeared (h.present.filter _)
    · exact h.knows ((hother hn).symm.trans hs) hc
  · intro n s hs hc event he
    by_cases hn : n = c.registry.nextStream
    · subst hn
      obtain rfl := Option.some.inj (hself.symm.trans hs)
      change event ∈ c.heard _ ++ _ at he
      rw [hheard, List.nil_append] at he
      obtain ⟨key, hkey, rfl⟩ := List.mem_map.1 he
      exact ⟨key, of_decide_eq_true (List.mem_filter.1 hkey).2, .inl rfl⟩
    · exact h.notices ((hother hn).symm.trans hs) hc event he

/-- A watcher reads what it was sent. -/
theorem read {stream : Nat} {s : WatchStream} {event : DirectoryEvent}
    {unread : List DirectoryEvent} (h : Right c)
    (hs : c.registry.streams.get? stream = some s) (hu : s.unread = event :: unread) :
    Right { c with
      registry :=
        { c.registry with streams := c.registry.streams.put stream { s with unread } }
      heard := fun n => if n = stream then c.heard n ++ [event] else c.heard n } := by
  have hother {n : Nat} (hn : n ≠ stream) :
      (c.registry.streams.put stream { s with unread }).get? n = c.registry.streams.get? n :=
    Association.get?_put_of_ne _ _ hn
  have hself : (c.registry.streams.put stream { s with unread }).get? stream =
      some { s with unread } := Association.get?_put_self ..
  have hsent : (c.heard stream ++ [event]) ++ unread = c.heard stream ++ s.unread := by
    rw [hu, List.append_assoc, List.singleton_append]
  refine ⟨h.present, ?_, ?_, ?_, ?_, h.issued⟩
  · intro n hn
    obtain ⟨hnone, hheard, hnot⟩ := h.fresh hn
    have hne : n ≠ stream := by
      rintro rfl
      cases hs.symm.trans hnone
    exact ⟨(hother hne).trans hnone, (if_neg hne).trans hheard, hnot⟩
  · intro n type hm s' hs'
    by_cases hn : n = stream
    · subst hn
      obtain rfl := Option.some.inj (hself.symm.trans hs')
      have htype := h.type hm hs
      exact htype
    · exact h.type hm ((hother hn).symm.trans hs')
  · intro n s' hs' hc
    dsimp only
    by_cases hn : n = stream
    · subst hn
      obtain rfl := Option.some.inj (hself.symm.trans hs')
      rw [if_pos rfl, hsent]
      exact h.knows hs hc
    · rw [if_neg hn]
      exact h.knows ((hother hn).symm.trans hs') hc
  · intro n s' hs' hc e he
    dsimp only at he
    by_cases hn : n = stream
    · subst hn
      obtain rfl := Option.some.inj (hself.symm.trans hs')
      rw [if_pos rfl, hsent] at he
      exact h.notices hs hc e he
    · rw [if_neg hn] at he
      exact h.notices ((hother hn).symm.trans hs') hc e he

/-- A watcher goes away. -/
theorem leave (h : Right c) (stream : Nat) :
    Right { c with registry := c.registry.dropStream stream } := by
  have hkept {n : Nat} {s : WatchStream}
      (hs : (c.registry.streams.erase stream).get? n = some s) :
      c.registry.streams.get? n = some s := (Association.get?_erase_eq_some_iff.1 hs).2
  refine ⟨h.present, fun {n} hn => ?_, fun {n type} hm {s} hs => h.type hm (hkept hs),
    fun hs => h.knows (hkept hs), fun hs => h.notices (hkept hs), h.issued⟩
  obtain ⟨hnone, hrest⟩ := h.fresh hn
  refine ⟨?_, hrest⟩
  change (c.registry.streams.erase stream).get? n = none
  rw [Association.get?_erase, hnone, ite_self]

/-- A record is registered under a new number. -/
theorem register {record : ServiceRecord} {registration : Registration} {registry : Registry}
    (h : Right c) (hc : c.registry.commit record = (registry, .ok registration)) :
    Right { c with registry, issued := c.issued ++ [registration.id] } := by
  obtain ⟨hid, hlast, hstreams, hnext, hpresent⟩ := Registry.commit_ok hc
  obtain ⟨hnodup, hold⟩ := h.issued
  have hsame : Right { c with registry := { registry with lastId := c.registry.lastId } } :=
    h.alike ⟨hstreams, hnext, hpresent, rfl⟩
  refine ⟨hsame.present, hsame.fresh, hsame.type, hsame.knows, hsame.notices, ?_, ?_⟩
  · refine List.concat_eq_append ▸ (List.nodup_concat ..).2 ⟨fun hm => ?_, hnodup⟩
    have hle := hold _ hm
    omega
  · intro id hm
    change id ≤ registry.lastId
    rcases List.mem_append.1 hm with hm | hm
    · have hle := hold id hm
      omega
    · obtain rfl := List.mem_singleton.1 hm
      omega

/-- Whatever is done, the watchers are told right. -/
theorem act (h : Right c) (action : RegistryAction) : Right (c.act action) := by
  cases action with
  | change change => exact h.change change
  | unseen action => exact h.alike (c.registry.alike_unseen action)
  | watch type =>
    rw [Chronicle.act]
    split
    · exact h.joined ‹_›
    · rename_i hw
      obtain ⟨calls, failures, rfl⟩ := Registry.watch_error hw
      exact h.alike ⟨rfl, rfl, rfl, rfl⟩
  | read stream =>
    rw [Chronicle.act]
    split
    · rename_i hr
      obtain ⟨s, unread, hs, hu, rfl⟩ := Registry.receive_event hr
      exact h.read hs hu
    · exact h
    · exact h
  | leave stream => exact h.leave stream
  | commit record =>
    rw [Chronicle.act]
    split
    · exact h.register ‹_›
    · exact h.alike (Registry.alike_refused ‹_›)

theorem becomes (h : Right c) (hc : c.Becomes c') : Right c' := by
  obtain ⟨actions, rfl⟩ := hc
  induction actions generalizing c with
  | nil => exact h
  | cons action actions ih => exact ih (h.act action)

end Right

/-! ## Streams that have ended -/

/-- A watcher was sent so much, and is not sent any more. -/
structure Final (c : Chronicle) (n : Nat) (sent : List DirectoryEvent) : Prop where
  given : n < c.registry.nextStream
  rest : ∃ unread, c.heard n ++ unread = sent ∧
    ∀ {s}, c.registry.streams.get? n = some s → s.connected = false ∧ s.unread = unread

namespace Final

variable {n : Nat} {sent : List DirectoryEvent}

/-- Once all was heard that was sent, the stream has ended. -/
theorem receive_eq (h : c.Final n sent) (hheard : c.heard n = sent) :
    (c.registry.receive n).2 = .ended := by
  obtain ⟨unread, hsent, hover⟩ := h.rest
  obtain rfl : unread = [] := List.append_right_eq_self.1 (hsent.trans hheard.symm)
  rw [Registry.receive]
  cases hs : c.registry.streams.get? n with
  | none => rfl
  | some s =>
    obtain ⟨hc, hu⟩ := hover hs
    dsimp only
    rw [hu, hc]
    rfl

/-- What was sent stays final while the stream is left as it is. -/
theorem keep {registry : Registry} (h : c.Final n sent)
    (hnext : c.registry.nextStream ≤ registry.nextStream)
    (hkept : ∀ {s}, registry.streams.get? n = some s → c.registry.streams.get? n = some s) :
    Final { c with registry } n sent where
  given := Nat.lt_of_lt_of_le h.given hnext
  rest := by
    obtain ⟨unread, hsent, hover⟩ := h.rest
    exact ⟨unread, hsent, fun hs => hover (hkept hs)⟩

/-- A change of the connected streams only. -/
theorem map {registry : Registry} {f : Nat → WatchStream → WatchStream} (h : c.Final n sent)
    (hnext : registry.nextStream = c.registry.nextStream)
    (hstreams : registry.streams = c.registry.streams.mapValues f)
    (hf : ∀ s, s.connected = false → f n s = s) : Final { c with registry } n sent := by
  refine h.keep (Nat.le_of_eq hnext.symm) fun {s} hs => ?_
  rw [hstreams, Association.get?_mapValues] at hs
  obtain ⟨s₀, hs₀, rfl⟩ := Option.map_eq_some_iff.1 hs
  obtain ⟨unread, -, hover⟩ := h.rest
  rw [hf s₀ (hover hs₀).1, hs₀]

theorem notify {registry : Registry} {type : String} {event : DirectoryEvent}
    (h : c.Final n sent) (hnext : registry.nextStream = c.registry.nextStream)
    (hstreams : registry.streams = (c.registry.notify type event).streams) :
    Final { c with registry } n sent :=
  h.map hnext (hstreams.trans (c.registry.streams_notify type event)) fun s hs => by simp [hs]

theorem change (h : c.Final n sent) (change : PeerChange) :
    (c.act (.change change)).Final n sent := by
  cases change with
  | addPeer key endpoint => exact h.notify rfl rfl
  | appear key => exact h.notify rfl rfl
  | removePeer key => exact h.notify rfl rfl
  | restart => exact h.map rfl c.registry.streams_restart fun s hs => by simp [hs]
  | disconnect =>
    refine h.map rfl c.registry.streams_disconnect fun s hs => ?_
    rw [← hs]
  | failWatches times => exact h.keep (Nat.le_refl _) id

/-- Whatever is done, what was sent stays final. -/
theorem act (h : c.Final n sent) (action : RegistryAction) : (c.act action).Final n sent := by
  cases action with
  | change change => exact h.change change
  | unseen action =>
    have ha := c.registry.alike_unseen action
    exact h.keep (Nat.le_of_eq ha.nextStream.symm) fun hs => ha.streams ▸ hs
  | watch type =>
    rw [Chronicle.act]
    split
    · rename_i hw
      obtain rfl := Registry.watch_number hw
      obtain ⟨calls, rfl⟩ := Registry.watch_ok hw
      obtain ⟨unread, hsent, hover⟩ := h.rest
      exact ⟨Nat.lt_succ_of_lt h.given, unread, hsent, fun hs =>
        hover ((Association.get?_put_of_ne _ _ (Nat.ne_of_lt h.given)).symm.trans hs)⟩
    · rename_i hw
      obtain ⟨calls, failures, rfl⟩ := Registry.watch_error hw
      exact h.keep (Nat.le_refl _) id
  | read stream =>
    rw [Chronicle.act]
    split
    · rename_i hr
      obtain ⟨s, unread, hs, hu, rfl⟩ := Registry.receive_event hr
      obtain ⟨left, hsent, hover⟩ := h.rest
      refine ⟨h.given, ?_⟩
      dsimp only
      by_cases hn : n = stream
      · subst hn
        obtain ⟨hc, rfl⟩ := hover hs
        rw [if_pos rfl]
        refine ⟨unread, ?_, fun hs' => ?_⟩
        · rw [List.append_assoc, List.singleton_append, ← hu, hsent]
        · obtain rfl := Option.some.inj ((Association.get?_put_self ..).symm.trans hs')
          exact ⟨hc, rfl⟩
      · rw [if_neg hn]
        exact ⟨left, hsent, fun hs' =>
          hover ((Association.get?_put_of_ne _ _ hn).symm.trans hs')⟩
    · exact h
    · exact h
  | leave stream =>
    exact h.keep (Nat.le_refl _) fun hs => (Association.get?_erase_eq_some_iff.1 hs).2
  | commit record =>
    rw [Chronicle.act]
    split
    · rename_i hc
      obtain ⟨-, -, hstreams, hnext, -⟩ := Registry.commit_ok hc
      have hkept := h.keep (Nat.le_of_eq hnext.symm) fun hs => hstreams ▸ hs
      exact ⟨hkept.given, hkept.rest⟩
    · have ha := Registry.alike_refused ‹_›
      exact h.keep (Nat.le_of_eq ha.nextStream.symm) fun hs => ha.streams ▸ hs

theorem becomes (h : c.Final n sent) (hc : c.Becomes c') : c'.Final n sent := by
  obtain ⟨actions, rfl⟩ := hc
  induction actions generalizing c with
  | nil => exact h
  | cons action actions ih => exact ih (h.act action)

end Final

/-- A change that ends the streams takes leave of every watcher that is connected. -/
theorem Right.final {change : PeerChange} {farewell : List DirectoryEvent} {n : Nat}
    {s : WatchStream} (h : Right c) (hchange : change.farewell? = some farewell)
    (hs : c.registry.streams.get? n = some s) (hc : s.connected = true) :
    (c.act (.change change)).Final n (c.heard n ++ s.unread ++ farewell) := by
  have hgiven : n < c.registry.nextStream := by
    refine Nat.lt_of_not_le fun hle => ?_
    cases hs.symm.trans (h.fresh hle).1
  cases change with
  | restart =>
    obtain rfl := Option.some.inj hchange
    refine ⟨hgiven, s.unread ++ [.reset], (List.append_assoc ..).symm, fun {s'} hs' => ?_⟩
    change c.registry.restart.streams.get? n = some s' at hs'
    rw [Registry.streams_restart, Association.get?_mapValues, hs, Option.map_some, if_pos hc] at hs'
    obtain rfl := Option.some.inj hs'
    exact ⟨rfl, rfl⟩
  | disconnect =>
    obtain rfl := Option.some.inj hchange
    refine ⟨hgiven, s.unread, (List.append_nil _).symm, fun {s'} hs' => ?_⟩
    change c.registry.disconnect.streams.get? n = some s' at hs'
    rw [Registry.streams_disconnect, Association.get?_mapValues, hs, Option.map_some] at hs'
    obtain rfl := Option.some.inj hs'
    exact ⟨rfl, rfl⟩
  | addPeer | appear | removePeer | failWatches => cases hchange

/-- No key is present twice. Whoever was let in to watch a type and is still connected was
    sent notices about keys of this type only, and they fold to those of them that are
    present, in the order in which they appeared. Once the directory restarts or disconnects,
    a watcher that was connected is sent nothing more but the reset of a restart, whatever is
    done later, and its stream has ended when it has heard all that. No number is given to
    two registrations. -/
theorem Becomes.streams_tell_present (h : Becomes {} c) :
    c.registry.present.Nodup ∧
      (∀ {n type}, (n, type) ∈ c.admitted →
        ∀ {s}, c.registry.streams.get? n = some s → s.connected = true →
          DirectoryEvent.keysAfter (c.heard n ++ s.unread) = c.registry.presentOf type ∧
          (∀ event ∈ c.heard n ++ s.unread, event.IsAbout type) ∧
          ∀ {change farewell}, change.farewell? = some farewell →
            ∀ {c'}, (c.act (.change change)).Becomes c' →
              c'.Final n (c.heard n ++ s.unread ++ farewell) ∧
                (c'.heard n = c.heard n ++ s.unread ++ farewell →
                  (c'.registry.receive n).2 = .ended)) ∧
      c.issued.Nodup := by
  have hright := Right.start.becomes h
  refine ⟨hright.present, ?_, hright.issued.1⟩
  intro n type hm s hs hc
  obtain rfl := hright.type hm hs
  refine ⟨hright.knows hs hc, hright.notices hs hc, ?_⟩
  intro change farewell hchange c' hc'
  have hfinal := (hright.final hchange hs hc).becomes hc'
  exact ⟨hfinal, hfinal.receive_eq⟩

/-- Somebody watches again after a restart, and has read a part of its stream when there is
    another one; three records were registered, one of which was withdrawn. -/
theorem Becomes.streams_tell_present_restarted :
    let nas : PeerKey := ⟨"eth0", .inet, "nas", "t", "local"⟩
    let box : PeerKey := ⟨"eth0", .inet, "box", "t", "local"⟩
    let printer : PeerKey := ⟨"eth0", .inet, "printer", "u", "local"⟩
    let endpoint : Endpoint := .v4 ⟨10, 0, 0, 5⟩ 9000
    let record : ServiceRecord := { instanceName := "nas", serviceType := "t", port := 9000 }
    let actions : List RegistryAction :=
      [.change (.addPeer nas endpoint), .watch "t", .change (.addPeer printer endpoint), .read 0,
        .commit record, .change .restart, .watch "t", .change (.addPeer box endpoint),
        .change (.removePeer nas), .change (.appear nas), .commit record, .unseen (.withdraw 2),
        .commit record, .read 1]
    let later : List RegistryAction :=
      [.change (.removePeer box), .read 1, .read 1, .read 1, .read 1]
    let c := actAll {} actions
    let c' := (c.act (.change .restart)).actAll later
    ∃ s, Becomes {} c ∧ (1, "t") ∈ c.admitted ∧ c.registry.streams.get? 1 = some s ∧
      s.connected = true ∧
      c.registry.presentOf "t" = [box, nas] ∧
      DirectoryEvent.keysAfter (c.heard 1 ++ s.unread) = c.registry.presentOf "t" ∧
      c'.heard 1 = [.appeared nas, .appeared box, .removed nas, .appeared nas, .reset] ∧
      (c'.registry.receive 1).2 = .ended ∧ c.issued = [1, 2, 3] ∧ c.issued.Nodup := by
  intro nas box printer endpoint record actions later c c'
  have hrun : (c.registry.streams.get? 1).any fun s =>
      s.connected ∧ (1, "t") ∈ c.admitted ∧ c.registry.presentOf "t" = [box, nas] ∧
        c'.heard 1 = [.appeared nas, .appeared box, .removed nas, .appeared nas, .reset] ∧
        c'.heard 1 = c.heard 1 ++ s.unread ++ [.reset] ∧ c.issued = [1, 2, 3] := by
    decide +kernel
  obtain ⟨s, hs, hfacts⟩ := (Option.any_eq_true ..).1 hrun
  obtain ⟨hc, hm, hpresent, hheard, hall, hissued⟩ := of_decide_eq_true hfacts
  have hreset : PeerChange.restart.farewell? = some [.reset] := rfl
  have hbecomes : Becomes {} c := ⟨actions, rfl⟩
  have hlater : (c.act (.change .restart)).Becomes c' := ⟨later, rfl⟩
  obtain ⟨-, htold, hnodup⟩ := hbecomes.streams_tell_present
  obtain ⟨hknows, -, hfinal⟩ := htold hm hs hc
  obtain ⟨-, hended⟩ := hfinal hreset hlater
  exact ⟨s, hbecomes, hm, hs, hc, hpresent, hknows, hheard, hended hall, hissued, hnodup⟩

end Chronicle

end ServiceDiscovery
