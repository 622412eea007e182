/-!
# Associations

Finite maps kept as lists of bindings, oldest first, with distinct keys: the
order of a listing is the order in which the keys were first bound. Every
operation is described through the view `get?`:

* binding a key changes what that key is bound to and nothing else
  (`get?_put_self`, `get?_put_of_ne`);
* so does unbinding it (`get?_erase_self`, `get?_erase_of_ne`);
* the bindings listed are exactly those found (`mem_bindings_iff`).
-/

namespace ServiceDiscovery

/-- A finite map from `κ` to `α`. -/
structure Association (κ : Type u) (α : Type v) where
  /-- The bindings, oldest first. -/
  bindings : List (κ × α)
  /-- No key is bound twice. -/
  distinct : (bindings.map Prod.fst).Nodup
  deriving DecidableEq

namespace Association

variable {κ : Type u} {α : Type v}

/-- The map without bindings. -/
def empty : Association κ α := ⟨[], .nil⟩

instance : EmptyCollection (Association κ α) := ⟨empty⟩
instance : Inhabited (Association κ α) := ⟨empty⟩

/-- The bound keys, oldest first. -/
def keys (m : Association κ α) : List κ := m.bindings.map Prod.fst

/-- What the keys are bound to, oldest key first. -/
def values (m : Association κ α) : List α := m.bindings.map Prod.snd

/-- The number of bound keys. -/
def size (m : Association κ α) : Nat := m.bindings.length

/-- The same keys, each bound to what `f` makes of its binding. -/
def mapValues {β : Type w} (f : κ → α → β) (m : Association κ α) : Association κ β where
  bindings := m.bindings.map fun b => (b.1, f b.1 b.2)
  distinct := by simpa [List.map_map, Function.comp_def] using m.distinct

/-- The bindings that satisfy `p`. -/
def filter (p : κ → α → Bool) (m : Association κ α) : Association κ α where
  bindings := m.bindings.filter fun b => p b.1 b.2
  distinct := m.distinct.sublist (List.filter_sublist.map _)

variable [DecidableEq κ]

/-- The value bound to `k` in a list of bindings. -/
def find : List (κ × α) → κ → Option α
  | [], _ => none
  | b :: bs, k => if b.1 = k then some b.2 else find bs k

/-- The value bound to `k`, if there is one. -/
def get? (m : Association κ α) (k : κ) : Option α := find m.bindings k

/-- Whether `k` is bound. -/
def contains (m : Association κ α) (k : κ) : Bool := (m.get? k).isSome

/-- The list of bindings with `k` bound to `a`: in place if `k` was bound, at
    the end otherwise. -/
def putIn (k : κ) (a : α) : List (κ × α) → List (κ × α)
  | [] => [(k, a)]
  | b :: bs => if b.1 = k then (k, a) :: bs else b :: putIn k a bs

theorem mem_keys_putIn {k : κ} {a : α} {bs : List (κ × α)} {j : κ} :
    j ∈ (putIn k a bs).map Prod.fst ↔ j = k ∨ j ∈ bs.map Prod.fst := by
  induction bs with
  | nil => simp [putIn]
  | cons b bs ih =>
    by_cases h : b.1 = k
    · simp [putIn, h]
    · simp only [putIn, h, if_false, List.map_cons, List.mem_cons, ih]
      exact or_left_comm

theorem nodup_putIn {k : κ} {a : α} {bs : List (κ × α)} (h : (bs.map Prod.fst).Nodup) :
    ((putIn k a bs).map Prod.fst).Nodup := by
  induction bs with
  | nil => simp [putIn]
  | cons b bs ih =>
    rw [List.map_cons, List.nodup_cons] at h
    by_cases hk : b.1 = k
    · subst hk
      simp only [putIn, if_true, List.map_cons, List.nodup_cons]
      exact h
    · simp only [putIn, hk, if_false, List.map_cons, List.nodup_cons]
      exact ⟨fun hm => (mem_keys_putIn.1 hm).elim hk h.1, ih h.2⟩

/-- The map with `k` bound to `a`: a key bound already keeps its place. -/
def put (m : Association κ α) (k : κ) (a : α) : Association κ α :=
  ⟨putIn k a m.bindings, nodup_putIn m.distinct⟩

/-- The map without a binding of `k`. -/
def erase (m : Association κ α) (k : κ) : Association κ α :=
  m.filter fun j _ => j ≠ k

/-- The map with `f` applied to what `k` is bound to. -/
def update (m : Association κ α) (k : κ) (f : α → α) : Association κ α :=
  m.mapValues fun j a => if j = k then f a else a

/-- The map of a list of bindings: of several for one key the last counts. -/
def ofList (bs : List (κ × α)) : Association κ α :=
  bs.foldl (fun m b => m.put b.1 b.2) empty

/-! ## The view `get?` -/

@[simp] theorem get?_empty (k : κ) : (empty : Association κ α).get? k = none := rfl

theorem find_putIn_self (k : κ) (a : α) (bs : List (κ × α)) : find (putIn k a bs) k = some a := by
  induction bs with
  | nil => simp [putIn, find]
  | cons b bs ih =>
    by_cases h : b.1 = k
    · simp [putIn, find, h]
    · simp [putIn, find, h, ih]

theorem find_putIn_of_ne {k j : κ} (a : α) (bs : List (κ × α)) (h : j ≠ k) :
    find (putIn k a bs) j = find bs j := by
  induction bs with
  | nil => simp [putIn, find, h.symm]
  | cons b bs ih =>
    by_cases hb : b.1 = k
    · simp [putIn, find, hb, h.symm]
    · simp only [putIn, hb, if_false, find, ih]

@[simp] theorem get?_put_self (m : Association κ α) (k : κ) (a : α) :
    (m.put k a).get? k = some a := find_putIn_self k a m.bindings

theorem get?_put_of_ne (m : Association κ α) {k j : κ} (a : α) (h : j ≠ k) :
    (m.put k a).get? j = m.get? j := find_putIn_of_ne a m.bindings h

theorem get?_put (m : Association κ α) (k j : κ) (a : α) :
    (m.put k a).get? j = if j = k then some a else m.get? j := by
  by_cases h : j = k
  · simp [h]
  · simp [h, get?_put_of_ne m a h]

theorem find_filter_ne (bs : List (κ × α)) (k j : κ) :
    find (bs.filter fun b => decide (b.1 ≠ k)) j = if j = k then none else find bs j := by
  induction bs with
  | nil => simp [find]
  | cons b bs ih =>
    by_cases hb : b.1 = k
    · subst hb
      by_cases hj : j = b.1
      · simpa [find, hj] using ih
      · simp only [List.filter_cons, ne_eq, not_true_eq_false, decide_false, Bool.false_eq_true,
          if_false, find, Ne.symm hj]
        exact ih
    · by_cases hj : j = k
      · subst hj
        simpa [find, hb] using ih
      · simp only [find, List.filter_cons, hb, ne_eq, not_false_eq_true, decide_true, if_true,
          hj, if_false] at ih ⊢
        rw [ih]

theorem get?_erase (m : Association κ α) (k j : κ) :
    (m.erase k).get? j = if j = k then none else m.get? j := find_filter_ne m.bindings k j

@[simp] theorem get?_erase_self (m : Association κ α) (k : κ) : (m.erase k).get? k = none := by
  simp [get?_erase]

theorem get?_erase_of_ne (m : Association κ α) {k j : κ} (h : j ≠ k) :
    (m.erase k).get? j = m.get? j := by
  simp [get?_erase, h]

theorem find_mapValues (bs : List (κ × α)) (f : κ → α → β) (k : κ) :
    find (bs.map fun b => (b.1, f b.1 b.2)) k = (find bs k).map (f k) := by
  induction bs with
  | nil => rfl
  | cons b bs ih =>
    by_cases h : b.1 = k
    · simp [find, h]
    · simp [find, h, ih]

theorem get?_mapValues (m : Association κ α) (f : κ → α → β) (k : κ) :
    (m.mapValues f).get? k = (m.get? k).map (f k) := find_mapValues m.bindings f k

theorem get?_update (m : Association κ α) (k j : κ) (f : α → α) :
    (m.update k f).get? j = if j = k then (m.get? j).map f else m.get? j := by
  rw [update, get?_mapValues]
  by_cases h : j = k <;> simp [h]

theorem find_eq_some_iff {bs : List (κ × α)} (h : (bs.map Prod.fst).Nodup) {k : κ} {a : α} :
    find bs k = some a ↔ (k, a) ∈ bs := by
  induction bs with
  | nil => simp [find]
  | cons b bs ih =>
    rw [List.map_cons, List.nodup_cons] at h
    obtain ⟨j, c⟩ := b
    by_cases hk : j = k
    · subst hk
      have hnot : (j, a) ∉ bs := fun hm => h.1 (List.mem_map.2 ⟨_, hm, rfl⟩)
      simp [find, hnot, eq_comm]
    · have hne : (k, a) ≠ (j, c) := fun e => hk (congrArg Prod.fst e).symm
      simp [find, hk, ih h.2, hne]

/-- Nothing is found of a key that is not listed. -/
theorem find_eq_none {bs : List (κ × α)} {k : κ} (h : k ∉ bs.map Prod.fst) : find bs k = none := by
  induction bs with
  | nil => rfl
  | cons b bs ih =>
    rw [List.map_cons, List.mem_cons, not_or] at h
    rw [find, if_neg (Ne.symm h.1), ih h.2]

/-- The bindings listed are exactly those found. -/
theorem mem_bindings_iff (m : Association κ α) {k : κ} {a : α} :
    (k, a) ∈ m.bindings ↔ m.get? k = some a := (find_eq_some_iff m.distinct).symm

theorem mem_keys_iff (m : Association κ α) {k : κ} : k ∈ m.keys ↔ ∃ a, m.get? k = some a := by
  constructor
  · intro h
    obtain ⟨⟨j, a⟩, hb, rfl⟩ := List.mem_map.1 h
    exact ⟨a, m.mem_bindings_iff.1 hb⟩
  · rintro ⟨a, h⟩
    exact List.mem_map.2 ⟨_, m.mem_bindings_iff.2 h, rfl⟩

end Association

end ServiceDiscovery
