import Mathlib.Data.List.Induction
import Mathlib.Order.Nat
import ServiceDiscovery.Proofs.Text.ByteOrder
import ServiceDiscovery.Proofs.View.Digest

/-!
# What a table tells of its history

A table that peers are put into and taken from is a map from keys to entries, and each entry
tells what became of its key since it was last taken out (`TableTurn.insertions`): where the
last insertion found the peer, when the first one was, and when the last one that changed
something was (`PeerEntry.Recounts`). What is answered depends on nothing else. How the
entries are listed does not matter: sorted by name they are the same entries in byte order,
and one with a name is found if there is one (`PeerTable.Used.tells_history`).
-/

namespace ServiceDiscovery

variable {τ : Type u}

/-! ## Histories -/

/-- A call that may change a table; an insertion is given the time. -/
inductive TableCall (τ : Type u)
  | insert (peer : Peer) (now : τ)
  | remove (key : PeerKey)
  deriving DecidableEq

/-- A call with its answer. -/
structure TableTurn (τ : Type u) where
  call : TableCall τ
  answer : Bool
  deriving DecidableEq

/-- What is known of one insertion of a key. -/
structure Insertion (τ : Type u) where
  place : IpAddress × UInt16
  moment : τ
  /-- Whether it was answered to have changed something. -/
  changed : Bool
  deriving DecidableEq

namespace TableTurn

/-- The time that was given. -/
def moment? (turn : TableTurn τ) : Option τ :=
  match turn.call with
  | .insert _ now => some now
  | .remove _ => none

/-- The insertions of a key since it was last removed, after one more turn. -/
def insertionsAfter (key : PeerKey) (before : List (Insertion τ)) (turn : TableTurn τ) :
    List (Insertion τ) :=
  match turn.call with
  | .insert peer now =>
    if peer.key = key then before ++ [⟨(peer.address, peer.port), now, turn.answer⟩] else before
  | .remove k => if k = key then [] else before

/-- The insertions of a key since it was last removed, the oldest first. -/
def insertions (log : List (TableTurn τ)) (key : PeerKey) : List (Insertion τ) :=
  log.foldl (insertionsAfter key) []

variable {log : List (TableTurn τ)} {key : PeerKey}

theorem insertions_concat (log : List (TableTurn τ)) (turn : TableTurn τ) (key : PeerKey) :
    insertions (log ++ [turn]) key = insertionsAfter key (insertions log key) turn := by
  rw [insertions, List.foldl_append]
  rfl

theorem insertions_insert_self (log : List (TableTurn τ)) (peer : Peer) (now : τ)
    (answer : Bool) : insertions (log ++ [⟨.insert peer now, answer⟩]) peer.key =
      insertions log peer.key ++ [⟨(peer.address, peer.port), now, answer⟩] := by
  rw [insertions_concat]
  exact if_pos rfl

theorem insertions_insert_of_ne {peer : Peer} (h : peer.key ≠ key) (now : τ) (answer : Bool) :
    insertions (log ++ [⟨.insert peer now, answer⟩]) key = insertions log key := by
  rw [insertions_concat]
  exact if_neg h

theorem insertions_remove (log : List (TableTurn τ)) (k key : PeerKey) (answer : Bool) :
    insertions (log ++ [⟨.remove k, answer⟩]) key =
      if k = key then [] else insertions log key := by
  rw [insertions_concat]
  rfl

/-- The insertions of one key were at some of the times that were given, in their order. -/
theorem sublist_moments (log : List (TableTurn τ)) (key : PeerKey) :
    ((insertions log key).map Insertion.moment).Sublist (log.filterMap moment?) := by
  induction log using List.reverseRecOn with
  | nil => exact .refl _
  | append_singleton log turn ih =>
    obtain ⟨call, answer⟩ := turn
    rw [List.filterMap_append]
    cases call with
    | insert peer now =>
      by_cases hkey : peer.key = key
      · subst hkey
        rw [insertions_insert_self, List.map_append]
        exact ih.append (.refl _)
      · rw [insertions_insert_of_ne hkey]
        exact ih.trans (List.sublist_append_left ..)
    | remove k =>
      rw [insertions_remove]
      split
      · exact List.nil_sublist _
      · exact ih.trans (List.sublist_append_left ..)

end TableTurn

/-! ## Entries -/

/-- An entry has the name and the type of its key, the place of the last insertion, and the
    times of the first one and of the last one that changed something. -/
structure PeerEntry.Recounts (entry : PeerEntry τ) (key : PeerKey)
    (insertions : List (Insertion τ)) : Prop where
  name : entry.instanceName = key.name
  type : entry.serviceType = key.serviceType
  place : insertions.getLast?.map Insertion.place = some (entry.address, entry.port)
  firstSeen : insertions.head?.map Insertion.moment = some entry.firstSeen
  lastChanged : (insertions.filter Insertion.changed).getLast?.map Insertion.moment =
    some entry.lastChanged

namespace PeerEntry.Recounts

variable {entry : PeerEntry τ} {key : PeerKey} {insertions : List (Insertion τ)}

theorem new (peer : Peer) (now : τ) : (PeerTable.newEntry peer now).Recounts peer.key
    [⟨(peer.address, peer.port), now, true⟩] := ⟨rfl, rfl, rfl, rfl, rfl⟩

/-- What was inserted first stays so. -/
theorem head?_concat (h : entry.Recounts key insertions) (insertion : Insertion τ) :
    (insertions ++ [insertion]).head?.map Insertion.moment = some entry.firstSeen := by
  obtain ⟨first, hfirst, hmoment⟩ := Option.map_eq_some_iff.1 h.firstSeen
  rw [List.head?_append, hfirst]
  exact congrArg some hmoment

/-- An insertion that changes nothing leaves the entry right. -/
theorem again (h : entry.Recounts key insertions) (now : τ) :
    entry.Recounts key (insertions ++ [⟨(entry.address, entry.port), now, false⟩]) where
  name := h.name
  type := h.type
  place := by
    rw [List.getLast?_concat]
    rfl
  firstSeen := h.head?_concat _
  lastChanged := by
    rw [List.filter_append, List.filter_cons_of_neg Bool.false_ne_true, List.filter_nil,
      List.append_nil]
    exact h.lastChanged

/-- An insertion at another place is recounted by the entry that it leaves. -/
theorem moved (h : entry.Recounts key insertions) (address : IpAddress) (port : UInt16)
    (now : τ) :
    Recounts { entry with address, port, lastChanged := now } key
      (insertions ++ [⟨(address, port), now, true⟩]) where
  name := h.name
  type := h.type
  place := by
    rw [List.getLast?_concat]
    rfl
  firstSeen := h.head?_concat _
  lastChanged := by
    rw [List.filter_append, List.filter_cons_of_pos rfl, List.filter_nil, List.getLast?_concat]
    rfl

theorem ne_nil (h : entry.Recounts key insertions) : insertions ≠ [] := by
  rintro rfl
  cases h.firstSeen

/-- If the clock does not go back, the last change was not before the first insertion. -/
theorem firstSeen_le [Preorder τ] (h : entry.Recounts key insertions)
    (hclock : (insertions.map Insertion.moment).Pairwise (· ≤ ·)) :
    entry.firstSeen ≤ entry.lastChanged := by
  obtain ⟨first, hfirst, hseen⟩ := Option.map_eq_some_iff.1 h.firstSeen
  obtain ⟨last, hlast, hchanged⟩ := Option.map_eq_some_iff.1 h.lastChanged
  obtain ⟨rest, rfl⟩ := List.head?_eq_some_iff.1 hfirst
  have hmem : last ∈ first :: rest := List.mem_of_mem_filter (List.mem_of_getLast? hlast)
  rw [← hseen, ← hchanged]
  rcases List.mem_cons.1 hmem with rfl | hmem
  · exact le_refl _
  · exact List.rel_of_pairwise_cons hclock (List.mem_map_of_mem hmem)

end PeerEntry.Recounts

/-! ## Tables -/

namespace PeerTable

/-- The table after a call, and the answer. -/
def call (t : PeerTable τ) : TableCall τ → PeerTable τ × Bool
  | .insert peer now => t.insert peer now
  | .remove key => t.remove key

/-- The tables that an empty one may become, with the calls until then and their answers. -/
inductive Used : PeerTable τ → List (TableTurn τ) → Prop
  | start : Used {} []
  | call {t : PeerTable τ} {log : List (TableTurn τ)} (c : TableCall τ) : Used t log →
      Used (t.call c).1 (log ++ [⟨c, (t.call c).2⟩])

/-- The table after a series of calls, and these calls with their answers. -/
def useAll (t : PeerTable τ) : List (TableCall τ) → PeerTable τ × List (TableTurn τ)
  | [] => (t, [])
  | c :: calls =>
    let rest := (t.call c).1.useAll calls
    (rest.1, ⟨c, (t.call c).2⟩ :: rest.2)

theorem Used.calls {t : PeerTable τ} {log : List (TableTurn τ)} (h : Used t log)
    (calls : List (TableCall τ)) : Used (t.useAll calls).1 (log ++ (t.useAll calls).2) := by
  induction calls generalizing t log with
  | nil =>
    rw [useAll, List.append_nil]
    exact h
  | cons c calls ih =>
    rw [useAll, List.append_cons]
    exact ih (h.call c)

/-- The keys with an entry are those inserted since they were last removed, and each entry
    recounts how. -/
structure Recorded (t : PeerTable τ) (log : List (TableTurn τ)) : Prop where
  free : ∀ {key}, t.entries.get? key = none → TableTurn.insertions log key = []
  bound : ∀ {key entry}, t.entries.get? key = some entry →
    entry.Recounts key (TableTurn.insertions log key)

variable {t : PeerTable τ} {log : List (TableTurn τ)}

/-- Of a key without an entry there are no insertions to tell of, and of one with an entry the
    last was at the place of the entry. -/
theorem Recorded.place (h : Recorded t log) (key : PeerKey) :
    (TableTurn.insertions log key).getLast?.map Insertion.place =
      (t.entries.get? key).map fun entry => (entry.address, entry.port) := by
  cases hentry : t.entries.get? key with
  | none =>
    rw [h.free hentry]
    rfl
  | some entry => exact (h.bound hentry).place

theorem Recorded.get?_eq_none_iff (h : Recorded t log) {key : PeerKey} :
    t.entries.get? key = none ↔ TableTurn.insertions log key = [] := by
  refine ⟨h.free, fun hnil => Option.eq_none_iff_forall_ne_some.2 fun entry hentry => ?_⟩
  exact (h.bound hentry).ne_nil hnil

/-- An insertion is recorded under the key of its peer, where it leaves an entry that recounts
    it, too. -/
theorem Recorded.put (h : Recorded t log) {peer : Peer} {entry : PeerEntry τ} {now : τ}
    {changed : Bool} (hentry : entry.Recounts peer.key
      (TableTurn.insertions log peer.key ++ [⟨(peer.address, peer.port), now, changed⟩])) :
    Recorded ⟨t.entries.put peer.key entry⟩ (log ++ [⟨.insert peer now, changed⟩]) where
  free {key} hfree := by
    dsimp only at hfree
    rw [Association.get?_put] at hfree
    split at hfree
    · cases hfree
    · rename_i hkey
      rw [TableTurn.insertions_insert_of_ne (Ne.symm hkey)]
      exact h.free hfree
  bound {key e} hbound := by
    dsimp only at hbound
    rw [Association.get?_put] at hbound
    split at hbound
    · rename_i hkey
      subst hkey
      obtain rfl := Option.some.inj hbound
      rw [TableTurn.insertions_insert_self]
      exact hentry
    · rename_i hkey
      rw [TableTurn.insertions_insert_of_ne (Ne.symm hkey)]
      exact h.bound hbound

theorem Recorded.insert (h : Recorded t log) (peer : Peer) (now : τ) :
    Recorded (t.insert peer now).1 (log ++ [⟨.insert peer now, (t.insert peer now).2⟩]) := by
  rw [PeerTable.insert]
  cases hentry : t.entries.get? peer.key with
  | none =>
    refine h.put ?_
    rw [h.free hentry]
    exact .new peer now
  | some entry =>
    have hrecounts := h.bound hentry
    dsimp only
    split
    · -- The table stays as it is; only the log has grown.
      rename_i hsame
      have hagain := hrecounts.again now
      rw [hsame.1, hsame.2] at hagain
      refine ⟨fun {key} hfree => ?_, fun {key e} hbound => ?_⟩
      · have hkey : peer.key ≠ key := by
          rintro rfl
          cases hentry.symm.trans hfree
        rw [TableTurn.insertions_insert_of_ne hkey]
        exact h.free hfree
      · by_cases hkey : peer.key = key
        · subst hkey
          obtain rfl := Option.some.inj (hentry.symm.trans hbound)
          rw [TableTurn.insertions_insert_self]
          exact hagain
        · rw [TableTurn.insertions_insert_of_ne hkey]
          exact h.bound hbound
    · exact h.put (hrecounts.moved peer.address peer.port now)

theorem Recorded.remove (h : Recorded t log) (k : PeerKey) :
    Recorded (t.remove k).1 (log ++ [⟨.remove k, (t.remove k).2⟩]) := by
  have hget (key : PeerKey) : (t.remove k).1.entries.get? key =
      if k = key then none else t.entries.get? key := by
    rw [PeerTable.remove]
    split
    · rw [Association.get?_erase]
      simp only [eq_comm]
    · rename_i hfree
      split
      · rename_i hkey
        subst hkey
        exact Option.not_isSome_iff_eq_none.1 hfree
      · rfl
  refine ⟨fun {key} hfree => ?_, fun {key entry} hbound => ?_⟩
  · rw [hget] at hfree
    rw [TableTurn.insertions_remove]
    split
    · rfl
    · rename_i hkey
      rw [if_neg hkey] at hfree
      exact h.free hfree
  · rw [hget] at hbound
    obtain ⟨hkey, hbound⟩ := Option.ite_none_left_eq_some.1 hbound
    rw [TableTurn.insertions_remove, if_neg hkey]
    exact h.bound hbound

theorem Used.recorded (h : Used t log) : Recorded t log := by
  induction h with
  | start => exact ⟨fun _ => rfl, nofun⟩
  | call c _ ih =>
    cases c with
    | insert peer now => exact ih.insert peer now
    | remove key => exact ih.remove key

/-! ## Answers -/

/-- Something is changed by an insertion unless the key is bound to the same place. -/
theorem insert_changed_iff {peer : Peer} {now : τ} : (t.insert peer now).2 = true ↔
    (t.entries.get? peer.key).map (fun entry => (entry.address, entry.port)) ≠
      some (peer.address, peer.port) := by
  rw [insert]
  cases t.entries.get? peer.key with
  | none =>
    rw [Option.map_none]
    exact iff_of_true rfl (Option.some_ne_none _).symm
  | some entry =>
    dsimp only
    split
    · rename_i hsame
      exact iff_of_false Bool.false_ne_true fun hne => hne (by rw [Option.map_some, hsame.1, hsame.2])
    · rename_i hmoved
      refine iff_of_true rfl fun he => hmoved ?_
      obtain ⟨haddress, hport⟩ := Prod.mk.inj (Option.some.inj he)
      exact ⟨haddress, hport⟩

theorem remove_changed_iff {key : PeerKey} :
    (t.remove key).2 = true ↔ t.entries.get? key ≠ none := by
  rw [remove, Association.contains, Option.ne_none_iff_isSome]
  split
  · rename_i hbound
    exact iff_of_true rfl hbound
  · rename_i hfree
    exact iff_of_false Bool.false_ne_true hfree

/-! ## Listings -/

theorem pairwise_all (t : PeerTable τ) :
    t.all.Pairwise fun x y => ¬ utf8 y.instanceName < utf8 x.instanceName := by
  have hsorted : t.all.Pairwise fun x y => decide (x.instanceName ≤ y.instanceName) = true := by
    refine List.pairwise_mergeSort (fun x y z hxy hyz => ?_) (fun x y => ?_) t.entries.values
    · exact decide_eq_true (String.le_trans (of_decide_eq_true hxy) (of_decide_eq_true hyz))
    · rw [Bool.or_eq_true, decide_eq_true_eq, decide_eq_true_eq]
      exact String.le_total ..
  refine hsorted.imp fun hxy => ?_
  rw [utf8_lt_utf8_iff, String.not_lt]
  exact of_decide_eq_true hxy

/-- Tables with the same entries list them in some order each. -/
theorem perm_values {t' : PeerTable τ} (h : ∀ key, t'.entries.get? key = t.entries.get? key) :
    t'.entries.values.Perm t.entries.values := by
  have hvalues (m : Association PeerKey (PeerEntry τ)) :
      m.values = (m.entries some).map Prod.snd := by
    simp [Association.values, Association.entries]
  rw [hvalues, hvalues]
  exact (Association.perm_entries fun key => by rw [h]).map Prod.snd

theorem byInstance?_isSome_iff {name : String} : (t.byInstance? name).isSome ↔
    ∃ key entry, t.entries.get? key = some entry ∧ entry.instanceName = name := by
  rw [byInstance?, List.find?_isSome]
  constructor
  · rintro ⟨entry, hm, hname⟩
    obtain ⟨key, hkey⟩ := Association.mem_values_iff.1 hm
    exact ⟨key, entry, hkey, of_decide_eq_true hname⟩
  · rintro ⟨key, entry, hkey, hname⟩
    exact ⟨entry, Association.mem_values_iff.2 ⟨key, hkey⟩, decide_eq_true hname⟩

theorem of_byInstance? {name : String} {entry : PeerEntry τ}
    (h : t.byInstance? name = some entry) :
    entry.instanceName = name ∧ ∃ key, t.entries.get? key = some entry := by
  rw [byInstance?] at h
  exact ⟨by simpa using List.find?_some h,
    Association.mem_values_iff.1 (List.mem_of_find?_eq_some h)⟩

/-- After any calls, given times that do not go back, a key has an entry if it was inserted since
    it was last removed, and the entry recounts these insertions. Another one is answered to
    change something if the key has none of them or the last was at another place, and changes
    nothing otherwise; a removal, if it has some. Whatever the order in which the entries are
    kept, all of them are listed, in byte order of their names, and one with a name is found
    exactly if there is one. -/
theorem Used.tells_history [Preorder τ] (h : Used t log)
    (hclock : (log.filterMap TableTurn.moment?).Pairwise (· ≤ ·)) :
    (∀ key entry, t.entries.get? key = some entry →
      entry.Recounts key (TableTurn.insertions log key) ∧
        entry.firstSeen ≤ entry.lastChanged) ∧
    (∀ key, t.entries.get? key = none ↔ TableTurn.insertions log key = []) ∧
    (∀ peer now,
      ((t.insert peer now).2 = true ↔
        (TableTurn.insertions log peer.key).getLast?.map Insertion.place ≠
          some (peer.address, peer.port)) ∧
      ((t.insert peer now).2 = false → (t.insert peer now).1 = t)) ∧
    (∀ key, ((t.remove key).2 = true ↔ TableTurn.insertions log key ≠ []) ∧
      ((t.remove key).2 = false → (t.remove key).1 = t)) ∧
    ∀ t' : PeerTable τ, (∀ key, t'.entries.get? key = t.entries.get? key) →
      t'.all.Perm t.entries.values ∧
      t'.all.Pairwise (fun x y => ¬ utf8 y.instanceName < utf8 x.instanceName) ∧
      ∀ name,
        ((t'.byInstance? name).isSome ↔
          ∃ key entry, t.entries.get? key = some entry ∧ entry.instanceName = name) ∧
        ∀ entry, t'.byInstance? name = some entry →
          entry.instanceName = name ∧ ∃ key, t.entries.get? key = some entry := by
  have hrecorded := h.recorded
  refine ⟨fun key entry hentry => ?_, fun key => hrecorded.get?_eq_none_iff, fun peer now => ?_,
    fun key => ?_, fun t' hsame => ?_⟩
  · have hrecounts := hrecorded.bound hentry
    exact ⟨hrecounts, hrecounts.firstSeen_le (hclock.sublist (TableTurn.sublist_moments log key))⟩
  · rw [hrecorded.place]
    exact ⟨insert_changed_iff, insert_of_unchanged⟩
  · rw [Ne, ← hrecorded.get?_eq_none_iff]
    exact ⟨remove_changed_iff, remove_of_unchanged⟩
  · refine ⟨(List.mergeSort_perm ..).trans (perm_values hsame), pairwise_all t', fun name => ?_⟩
    simp only [← hsame]
    exact ⟨byInstance?_isSome_iff, fun entry => of_byInstance?⟩

/-- A peer is inserted, removed and inserted again, once more at the same place and then at
    another; one of the same name is seen on another interface. -/
theorem Used.tells_history_returned :
    let nas (interface : String) (last : UInt8) : Peer :=
      ⟨⟨interface, .inet, "nas", "_files._tcp", "local."⟩, .v4 ⟨10, 0, 0, last⟩, 9000⟩
    let calls : List (TableCall Nat) :=
      [.insert (nas "eth0" 5) 1, .remove (nas "eth0" 5).key, .insert (nas "eth0" 5) 2,
        .insert (nas "wlan0" 7) 2, .insert (nas "eth0" 5) 3, .insert (nas "eth0" 6) 4,
        .insert (nas "eth0" 6) 5]
    let insertions : List (Insertion Nat) :=
      [⟨(.v4 ⟨10, 0, 0, 5⟩, 9000), 2, true⟩, ⟨(.v4 ⟨10, 0, 0, 5⟩, 9000), 3, false⟩,
        ⟨(.v4 ⟨10, 0, 0, 6⟩, 9000), 4, true⟩, ⟨(.v4 ⟨10, 0, 0, 6⟩, 9000), 5, false⟩]
    let entry : PeerEntry Nat := ⟨"nas", "_files._tcp", .v4 ⟨10, 0, 0, 6⟩, 9000, 2, 4⟩
    ∃ t log, useAll {} calls = (t, log) ∧
      (log.filterMap TableTurn.moment?).Pairwise (· ≤ ·) ∧
      TableTurn.insertions log (nas "eth0" 5).key = insertions ∧
      t.entries.get? (nas "eth0" 5).key = some entry ∧
      entry.Recounts (nas "eth0" 5).key insertions ∧ entry.firstSeen ≤ entry.lastChanged ∧
      (t.insert (nas "eth0" 6) 6).2 = false ∧ (t.byInstance? "nas").isSome := by
  intro nas calls insertions entry
  have hused := Used.start.calls calls
  rw [List.nil_append] at hused
  generalize hafter : useAll {} calls = after at hused
  have hfacts : (after.2.filterMap TableTurn.moment?).Pairwise (· ≤ ·) ∧
      TableTurn.insertions after.2 (nas "eth0" 5).key = insertions ∧
      after.1.entries.get? (nas "eth0" 5).key = some entry := by
    rw [← hafter]
    decide +kernel
  obtain ⟨hclock, hinsertions, hentry⟩ := hfacts
  obtain ⟨hentries, -, hinsert, -, hlisted⟩ := hused.tells_history hclock
  obtain ⟨hrecounts, hle⟩ := hentries _ _ hentry
  rw [hinsertions] at hrecounts
  refine ⟨_, _, rfl, hclock, hinsertions, hentry, hrecounts, hle, ?_,
    ((hlisted _ fun _ => rfl).2.2 "nas").1.2 ⟨_, _, hentry, rfl⟩⟩
  refine eq_false_of_ne_true fun hchanged => (hinsert _ _).1.1 hchanged ?_
  exact (congrArg (·.getLast?.map Insertion.place) hinsertions).trans rfl

end PeerTable

end ServiceDiscovery
