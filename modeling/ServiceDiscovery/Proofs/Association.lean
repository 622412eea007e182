import Mathlib.Data.List.Nodup
import ServiceDiscovery.Association

/-!
# What is listed of an association

A list made of the bindings of an association, with at most one entry for each, is
known up to order by what the keys are bound to (`perm_filterMap`): associations that
agree on that list the same entries.
-/

namespace ServiceDiscovery

namespace Association

variable {κ : Type u} {α : Type v} {β : Type w}

/-- What is listed of a map, each with its key, has distinct keys. -/
theorem nodup_filterMap {m : Association κ α} {f : κ × α → Option β} {key : β → κ}
    (h : ∀ b c, f b = some c → key c = b.1) : ((m.bindings.filterMap f).map key).Nodup := by
  rw [List.nodup_iff_pairwise_ne, List.pairwise_map, List.pairwise_filterMap]
  refine (List.pairwise_map.1 m.distinct).imp fun hne c hc c' hc' he => hne ?_
  rw [← h _ c hc, ← h _ c' hc', he]

/-- What `f` finds in the values, each with its key. -/
def entries (f : α → Option β) (m : Association κ α) : List (κ × β) :=
  m.bindings.filterMap fun b => (f b.2).map fun c => (b.1, c)

theorem nodup_entries {f : α → Option β} (m : Association κ α) :
    ((m.entries f).map Prod.fst).Nodup :=
  nodup_filterMap fun b c hc => by
    obtain ⟨c', -, rfl⟩ := Option.map_eq_some_iff.1 hc
    rfl

theorem eq_of_bindings {m m' : Association κ α} (h : m.bindings = m'.bindings) : m = m' := by
  cases m
  cases m'
  cases h
  rfl

variable [DecidableEq κ]

/-- A map in which nothing is found is empty. -/
theorem eq_empty_of_get? {m : Association κ α} (h : ∀ k, m.get? k = none) : m = .empty := by
  obtain ⟨bindings, distinct⟩ := m
  cases bindings with
  | nil => rfl
  | cons b bindings =>
    have hfirst := h b.1
    rw [get?, find, if_pos rfl] at hfirst
    cases hfirst

theorem putIn_of_notMem {bs : List (κ × α)} {k : κ} {a : α} (h : k ∉ bs.map Prod.fst) :
    putIn k a bs = bs ++ [(k, a)] := by
  induction bs with
  | nil => rfl
  | cons b bs ih =>
    rw [List.map_cons, List.mem_cons, not_or] at h
    rw [putIn, if_neg (Ne.symm h.1), ih h.2, List.cons_append]

/-- A map is what its bindings give, one after another. -/
theorem ofList_bindings (m : Association κ α) : ofList m.bindings = m := by
  have hput (bs : List (κ × α)) (m' : Association κ α)
      (hdistinct : ((m'.bindings ++ bs).map Prod.fst).Nodup) :
      (bs.foldl (fun m b => m.put b.1 b.2) m').bindings = m'.bindings ++ bs := by
    induction bs generalizing m' with
    | nil => exact (List.append_nil _).symm
    | cons b bs ih =>
      have hnew : b.1 ∉ m'.bindings.map Prod.fst := by
        rw [List.map_append, List.map_cons] at hdistinct
        exact fun hb => List.disjoint_of_nodup_append hdistinct hb List.mem_cons_self
      have hbindings : (m'.put b.1 b.2).bindings = m'.bindings ++ [b] := putIn_of_notMem hnew
      have hall : m'.bindings ++ [b] ++ bs = m'.bindings ++ b :: bs := by
        rw [List.append_assoc, List.singleton_append]
      rw [List.foldl_cons, ih _ (by rwa [hbindings, hall]), hbindings, hall]
  exact eq_of_bindings (hput m.bindings empty m.distinct)

/-- What is found in a map without a key is found in the map, under another key. -/
theorem get?_erase_eq_some_iff {m : Association κ α} {k j : κ} {a : α} :
    (m.erase k).get? j = some a ↔ j ≠ k ∧ m.get? j = some a := by
  rw [get?_erase, Option.ite_none_left_eq_some]

/-- The values listed are exactly those found. -/
theorem mem_values_iff {m : Association κ α} {a : α} : a ∈ m.values ↔ ∃ k, m.get? k = some a := by
  constructor
  · intro h
    obtain ⟨⟨k, a⟩, hb, rfl⟩ := List.mem_map.1 h
    exact ⟨k, m.mem_bindings_iff.1 hb⟩
  · rintro ⟨k, h⟩
    exact List.mem_map.2 ⟨_, m.mem_bindings_iff.2 h, rfl⟩

theorem mem_entries {f : α → Option β} {m : Association κ α} {k : κ} {c : β} :
    (k, c) ∈ m.entries f ↔ (m.get? k).bind f = some c := by
  rw [entries, List.mem_filterMap, Option.bind_eq_some_iff]
  constructor
  · rintro ⟨⟨j, a⟩, hb, hc⟩
    obtain ⟨c', hf, he⟩ := Option.map_eq_some_iff.1 hc
    obtain ⟨rfl, rfl⟩ := Prod.mk.inj he
    exact ⟨a, m.mem_bindings_iff.1 hb, hf⟩
  · rintro ⟨a, ha, hf⟩
    exact ⟨(k, a), m.mem_bindings_iff.2 ha, by simp [hf]⟩

/-- Maps in which `f` finds the same under every key have the same entries. -/
theorem perm_entries {f : α → Option β} {m m' : Association κ α}
    (h : ∀ k, (m.get? k).bind f = (m'.get? k).bind f) : (m.entries f).Perm (m'.entries f) := by
  refine (List.perm_ext_iff_of_nodup (List.Nodup.of_map _ m.nodup_entries)
    (List.Nodup.of_map _ m'.nodup_entries)).2 ?_
  rintro ⟨k, c⟩
  rw [mem_entries, mem_entries, h]

/-- What is listed of a map is what is found under one key, and what is listed of the
    map without it. -/
theorem perm_entries_erase {f : α → Option β} {m m' : Association κ α} {k : κ}
    (h : ∀ j, (m'.get? j).bind f = if j = k then none else (m.get? j).bind f) :
    ((m.entries f).map Prod.snd).Perm
      (((m.get? k).bind f).toList ++ (m'.entries f).map Prod.snd) := by
  cases hself : (m.get? k).bind f with
  | none =>
    refine (perm_entries fun j => ?_).map Prod.snd
    rw [h]
    split
    · rename_i hj
      rw [hj, hself]
    · rfl
  | some c =>
    have hnot : (k, c) ∉ m'.entries f := fun hm => by
      rw [mem_entries, h, if_pos rfl] at hm
      cases hm
    have hperm : (m.entries f).Perm ((k, c) :: m'.entries f) := by
      refine (List.perm_ext_iff_of_nodup (List.Nodup.of_map _ m.nodup_entries)
        (List.nodup_cons.2 ⟨hnot, List.Nodup.of_map _ m'.nodup_entries⟩)).2 ?_
      rintro ⟨j, d⟩
      rw [List.mem_cons, mem_entries, mem_entries, h, Prod.mk.injEq]
      by_cases hj : j = k
      · subst hj
        simp [hself, eq_comm]
      · simp [hj]
    exact hperm.map Prod.snd

/-- Maps that agree but under one key list the same, but for what is found there. -/
theorem perm_entries_swap {f : α → Option β} {m m' : Association κ α} {k : κ} {found : Option β}
    (h : ∀ j, (m'.get? j).bind f = if j = k then found else (m.get? j).bind f) :
    (((m.get? k).bind f).toList ++ (m'.entries f).map Prod.snd).Perm
      (found.toList ++ (m.entries f).map Prod.snd) := by
  have hrest (n : Association κ α) (j : κ) :
      ((n.erase k).get? j).bind f = if j = k then none else (n.get? j).bind f := by
    rw [get?_erase]
    split <;> rfl
  have hself : (m'.get? k).bind f = found := by rw [h, if_pos rfl]
  have hsame : (((m'.erase k).entries f).map Prod.snd).Perm
      (((m.erase k).entries f).map Prod.snd) := by
    refine (perm_entries fun j => ?_).map Prod.snd
    rw [hrest, hrest, h]
    split <;> rfl
  have hm' := perm_entries_erase (hrest m')
  rw [hself] at hm'
  calc ((m.get? k).bind f).toList ++ (m'.entries f).map Prod.snd
    _ |>.Perm (((m.get? k).bind f).toList ++
          (found.toList ++ ((m.erase k).entries f).map Prod.snd)) :=
        (hm'.trans (hsame.append_left _)).append_left _
    _ |>.Perm (found.toList ++
          (((m.get? k).bind f).toList ++ ((m.erase k).entries f).map Prod.snd)) := by
        rw [← List.append_assoc, ← List.append_assoc]
        exact List.perm_append_comm.append_right _
    _ |>.Perm (found.toList ++ (m.entries f).map Prod.snd) :=
        (perm_entries_erase (hrest m)).symm.append_left _

end Association

end ServiceDiscovery
