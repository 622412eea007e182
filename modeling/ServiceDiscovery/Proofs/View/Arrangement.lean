import ServiceDiscovery.Proofs.Text.ByteOrder
import ServiceDiscovery.Proofs.View.Digest

/-!
# What the hashed text tells

Entries are *arranged* if they stand in byte order of instance name and service type, and
those that agree in both stand as they were listed (`Digest.Arranged`). There is exactly one
way to arrange a list. The text that is hashed tells what the arranged entries say, name,
type, address and port of each, and it tells nothing else (`Digest.text_eq_iff_arranged`):
no character of a name can be taken for the end of one, and no two addresses have the same
text.
-/

namespace ServiceDiscovery.Digest

variable {τ : Type u} {x y : PeerEntry τ} {entries arranged : List (PeerEntry τ)}

/-! ## Byte order -/

/-- The bytes of an entry's name come before those of another, or they are the same and the
    bytes of its type do. -/
def Before (x y : PeerEntry τ) : Prop :=
  utf8 x.instanceName < utf8 y.instanceName ∨
    x.instanceName = y.instanceName ∧ utf8 x.serviceType < utf8 y.serviceType

theorem not_before_iff : ¬ Before y x ↔ le x y := by
  rw [Before, utf8_lt_utf8_iff, utf8_lt_utf8_iff, le_iff, PlaceLe, not_or, not_and]
  simp only [PeerEntry.place, String.not_lt]
  constructor
  · rintro ⟨hname, htype⟩
    by_cases hlt : x.instanceName < y.instanceName
    · exact .inl hlt
    · have heq := String.le_antisymm hname (String.not_lt.1 hlt)
      exact .inr ⟨heq, htype heq.symm⟩
  · rintro (hlt | ⟨heq, htype⟩)
    · exact ⟨String.not_lt.1 (String.lt_asymm hlt),
        fun heq => absurd (heq ▸ hlt) (String.lt_irrefl _)⟩
    · exact ⟨heq ▸ String.le_refl _, fun _ => htype⟩

/-! ## Arranged entries -/

/-- The entries are put in byte order, those with the same name and type as they were
    listed. -/
structure Arranged (entries arranged : List (PeerEntry τ)) : Prop where
  perm : arranged.Perm entries
  ordered : arranged.Pairwise fun x y => ¬ Before y x
  stable : ∀ x, arranged.filter (tied x) = entries.filter (tied x)

theorem tied_self (x : PeerEntry τ) : tied x x := by simp [tied]

theorem tied_of_le_of_le (hxy : le x y) (hyx : le y x) : tied x y := by
  obtain ⟨hname, htype⟩ := eq_of_le_of_le hxy hyx
  simp [tied, hname, htype]

/-- The first of some ordered entries may stand before each of them. -/
theorem le_of_mem_cons (h : (x :: entries).Pairwise (le · ·)) (hy : y ∈ x :: entries) :
    le x y := by
  rcases List.mem_cons.1 hy with rfl | hy
  · exact le_of_tied (tied_self y) (tied_self y)
  · exact List.rel_of_pairwise_cons h hy

theorem mem_iff_of_filter {xs ys : List (PeerEntry τ)}
    (h : ∀ x, xs.filter (tied x) = ys.filter (tied x)) (x : PeerEntry τ) : x ∈ xs ↔ x ∈ ys := by
  have hfilter : x ∈ xs.filter (tied x) ↔ x ∈ ys.filter (tied x) := by rw [h]
  simpa [tied_self] using hfilter

/-- Ordered lists are the same if those that tie stand the same way in both. -/
theorem eq_of_ordered {xs ys : List (PeerEntry τ)} (hxs : xs.Pairwise (le · ·))
    (hys : ys.Pairwise (le · ·)) (hstable : ∀ x, xs.filter (tied x) = ys.filter (tied x)) :
    xs = ys := by
  induction xs generalizing ys with
  | nil =>
    cases ys with
    | nil => rfl
    | cons y ys => cases (mem_iff_of_filter hstable y).2 List.mem_cons_self
  | cons x xs ih =>
    cases ys with
    | nil => cases (mem_iff_of_filter hstable x).1 List.mem_cons_self
    | cons y ys =>
      -- Each of the first entries is in the other list, too, hence they tie.
      have htied : tied x y := tied_of_le_of_le
        (le_of_mem_cons hxs ((mem_iff_of_filter hstable y).2 List.mem_cons_self))
        (le_of_mem_cons hys ((mem_iff_of_filter hstable x).1 List.mem_cons_self))
      have hfirst := hstable x
      rw [List.filter_cons_of_pos (tied_self x), List.filter_cons_of_pos htied] at hfirst
      obtain ⟨rfl, -⟩ := List.cons.inj hfirst
      have hrest (z : PeerEntry τ) : xs.filter (tied z) = ys.filter (tied z) := by
        have hz := hstable z
        rw [List.filter_cons, List.filter_cons] at hz
        split at hz
        · exact (List.cons.inj hz).2
        · exact hz
      rw [ih hxs.of_cons hys.of_cons hrest]

/-- Merge sort arranges entries, and there is no other way. -/
theorem arranged_iff : Arranged entries arranged ↔ arranged = entries.mergeSort le := by
  have hsorted : (entries.mergeSort le).Pairwise (le · ·) :=
    List.pairwise_mergeSort (fun x y z (hxy : le x y) => le_trans hxy) le_total entries
  have hstable (x : PeerEntry τ) :
      (entries.mergeSort le).filter (tied x) = entries.filter (tied x) :=
    filter_mergeSort (fun y z u (hyz : le y z) => le_trans hyz) le_total
      (fun y z => le_of_tied) entries
  constructor
  · intro h
    refine eq_of_ordered (h.ordered.imp not_before_iff.1) hsorted fun x => ?_
    rw [h.stable, hstable]
  · rintro rfl
    exact ⟨List.mergeSort_perm .., hsorted.imp not_before_iff.2, hstable⟩

/-! ## The text -/

/-- The sorted entries, but for their times, depend on what the entries say. -/
theorem map_place_mergeSort (entries : List (PeerEntry τ)) :
    (entries.mergeSort le).map PeerEntry.place =
      (entries.map PeerEntry.place).mergeSort fun a b =>
        a.1 < b.1 || (a.1 = b.1 && a.2.1 ≤ b.2.1) :=
  List.map_mergeSort fun _ _ _ _ => rfl

/-- The texts of two lists are the same if and only if both say the same once they are
    arranged, the one way there is. The times do not matter: entries that say the same but for
    these, listed the same way, have the same text. -/
theorem text_eq_iff_arranged {σ : Type v} (entries : List (PeerEntry τ))
    (other : List (PeerEntry σ)) :
    ∃ arranged arranged',
      (∀ list, Arranged entries list ↔ list = arranged) ∧
      (∀ list, Arranged other list ↔ list = arranged') ∧
      (text entries = text other ↔
        arranged.map PeerEntry.place = arranged'.map PeerEntry.place) ∧
      (entries.map PeerEntry.place = other.map PeerEntry.place → text entries = text other) := by
  refine ⟨_, _, fun _ => arranged_iff, fun _ => arranged_iff, text_eq_text_iff, fun h => ?_⟩
  rw [text_eq_text_iff, map_place_mergeSort, map_place_mergeSort, h]

end ServiceDiscovery.Digest
