/-!
# Series of steps

A step that may be impossible is a function into `Option`, and a series of such steps is
their fold.
-/

namespace ServiceDiscovery

/-- What every step keeps, a series of steps keeps. -/
theorem of_foldlM_eq_some {α : Type u} {β : Type v} {step? : α → β → Option α} {P : α → Prop}
    (hstep : ∀ {a b a'}, P a → step? a b = some a' → P a') {bs : List β} {a a' : α} (ha : P a)
    (h : bs.foldlM step? a = some a') : P a' := by
  induction bs generalizing a with
  | nil => exact Option.some.inj h ▸ ha
  | cons b bs ih =>
    rw [List.foldlM_cons] at h
    obtain ⟨a₁, hfirst, hrest⟩ := Option.bind_eq_some_iff.1 h
    exact ih (hstep ha hfirst) hrest

end ServiceDiscovery
