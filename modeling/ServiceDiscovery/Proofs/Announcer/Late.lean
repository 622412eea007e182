import ServiceDiscovery.Proofs.Announcer.Rest

/-!
# Registrations that come late

A supervisor that notices a restart forgets the registration of its announcement,
as the directory has lost it. But the directory may have restarted before the
registration was made, if only the task that asked for it had not noticed yet. The
registration comes *late* then (`Scene.late?`): the directory still has it when it
is forgotten, and nobody will ever withdraw it.

In a prompt step nothing else gets lost. `Scene.Accounted` says so, given the
registrations that came late so far:

* what the directory holds and nobody keeps came late;
* what it holds and what is in the care of somebody who is yet to notice a restart
  came late, and so did what is about to be forgotten.
-/

namespace ServiceDiscovery

namespace Scene

/-- Whether a task is yet to notice a restart of the directory. -/
def missed (s : Scene) (t : Nat) : Bool :=
  ((s.announcer.tasks.get? t).bind AnnouncerTask.seen?).any (· < s.registry.generation)

/-- The registration that is made in a step at the request of a task, if this is
    yet to notice a restart. -/
def late? (s s' : Scene) (t : Nat) : Option Nat :=
  if (s.keeps? (.answer t)).isNone && s.missed t then s'.keeps? (.answer t) else none

/-- The registrations that came late, before a step and after it: those that did
    before or are made in the step, as far as the directory has them then. -/
def LateMove (s s' : Scene) (late late' : List Nat) : Prop :=
  ∀ id, id ∈ late' ↔ (id ∈ late ∨ ∃ t, s.late? s' t = some id) ∧
    s'.registry.registrations.get? id ≠ none

/-- What the directory holds is kept by somebody who will know of the next
    restart, or came late. -/
structure Accounted (s : Scene) (late : List Nat) : Prop where
  held : ∀ {id}, s.registry.registrations.get? id ≠ none →
    id ∈ late ∨ ∃ k, s.keeps? k = some id
  noticed : ∀ {k id seen record}, s.Meant k id seen record →
    s.registry.registrations.get? id ≠ none → seen = some s.registry.generation ∨ id ∈ late
  behind : ∀ {k id seen record}, s.Meant k id (some seen) record → id ∈ late →
    seen < s.registry.generation
  standing : ∀ {id}, id ∈ late → s.registry.registrations.get? id ≠ none
  old : ∀ {id}, id ∈ late → id ≤ s.registry.lastId

variable {s s' : Scene} {late late' : List Nat} {t id : Nat}

theorem late?_eq_some : s.late? s' t = some id ↔ ∃ seen,
    (s.announcer.tasks.get? t).bind AnnouncerTask.seen? = some seen ∧
      seen < s.registry.generation ∧ s.keeps? (.answer t) = none ∧
      s'.keeps? (.answer t) = some id := by
  rw [late?, missed, Option.ite_none_right_eq_some, Bool.and_eq_true, Option.isNone_iff_eq_none,
    Option.any_eq_true]
  constructor
  · rintro ⟨⟨hbefore, seen, hseen, hmissed⟩, hafter⟩
    exact ⟨seen, hseen, of_decide_eq_true hmissed, hbefore, hafter⟩
  · rintro ⟨seen, hseen, hmissed, hbefore, hafter⟩
    exact ⟨⟨hbefore, seen, hseen, decide_eq_true hmissed⟩, hafter⟩

/-! ## Steps -/

/-- A restart takes every registration away. -/
theorem Step.generation_eq {prompt : Prop} (hs : s.Step prompt s')
    (hheld : s'.registry.registrations.get? id ≠ none) :
    s'.registry.generation = s.registry.generation := by
  cases hs with
  | script hsame | progress _ _ _ _ hsame => exact hsame.2.2
  | restart => exact absurd rfl hheld
  | _ => rfl

/-- A request that is answered with a registration gets a new one. -/
theorem Step.answer {prompt : Prop} (hs : s.Step prompt s') (hbefore : s.keeps? (.answer t) = none)
    (hafter : s'.keeps? (.answer t) = some id) :
    id = s.registry.lastId + 1 ∧ s'.registry.lastId = s.registry.lastId + 1 := by
  have hkept {P : Prop} (h : s.keeps? (.answer t) = some id) : P := by
    cases hbefore.symm.trans h
  -- Requests that changed, but are not answered with a registration.
  have hassign {P : Prop} {t' : Nat} {value : Option RegisterCall}
      (hvalue : ∀ call, value = some call → call.gained? = none)
      (h : ((assign s.registers t' value t).bind RegisterCall.gained?).map (·.id) = some id) :
      P := by
    rw [bind_assign_eq] at h
    split at h
    · cases value with
      | none => cases h
      | some call =>
        rw [Option.bind_some, hvalue call rfl] at h
        cases h
    · exact hkept h
  cases hs with
  | commit =>
    rw [keeps?, bind_assign_eq] at hafter
    split at hafter
    · exact ⟨(Option.some.inj hafter).symm, rfl⟩
    · exact hkept hafter
  | ask _ _ hcall => exact hassign (fun _ he => by cases he; exact gained?_of_record? hcall) hafter
  | progress _ _ hgained => exact hassign (fun _ he => by cases he; exact hgained) hafter
  | leave | gain | fail | refuse | released | abandon | letGo =>
    exact hassign (fun _ he => by cases he) hafter
  | _ => exact hkept hafter

namespace Accounted

theorem held_step (h : Accounted s late) (hsound : Sound s) (hs : s.Step True s')
    (hlate : LateMove s s' late late') (hheld : s'.registry.registrations.get? id ≠ none) :
    id ∈ late' ∨ ∃ k, s'.keeps? k = some id := by
  have hh := hs.hands hsound.order hsound.status hsound.supervision
  rcases hs.stock hheld with hwas | ⟨rfl, hnew⟩
  · rcases h.held hwas with hold | ⟨k, hk⟩
    · exact .inl ((hlate id).2 ⟨.inl hold, hheld⟩)
    · rcases hh.target trivial hk with hkept | ⟨announcement, registration, hdoomed, rfl⟩ | hgone
      · exact .inr hkept
      · -- What is forgotten, and held all the same, came late.
        rcases h.noticed (.forgetting hdoomed) hwas with he | hold
        · cases he
        · exact .inl ((hlate _).2 ⟨.inl hold, hheld⟩)
      · exact absurd hgone hheld
  · -- A new registration is kept by the request that made it.
    rcases hh.lastId with hl | ⟨-, hkept⟩
    · exact absurd (hl.symm.trans hnew) (Nat.ne_of_lt (Nat.lt_succ_self _))
    · exact .inr hkept

theorem noticed_step (h : Accounted s late) (hsound : Sound s) (hs : s.Step True s')
    (hlate : LateMove s s' late late') {k : Keeper} {seen : Option Nat} {record : ServiceRecord}
    (hmeant : s'.Meant k id seen record) (hheld : s'.registry.registrations.get? id ≠ none) :
    seen = some s'.registry.generation ∨ id ∈ late' := by
  rw [hs.generation_eq hheld]
  cases hs.meant hsound.order hsound.supervision hmeant with
  | kept hmeant₀ =>
    have hwas := hsound.ownership.held_of_step hs hmeant₀.keeps?.1 hheld
    exact (h.noticed hmeant₀ hwas).imp_right fun hold => (hlate id).2 ⟨.inl hold, hheld⟩
  | noticed hmeant₀ hne =>
    have hwas := hsound.ownership.held_of_step hs hmeant₀.keeps?.1 hheld
    rcases h.noticed hmeant₀ hwas with he | hold
    · exact absurd (Option.some.inj he).symm hne
    · exact .inr ((hlate id).2 ⟨.inl hold, hheld⟩)
  | @made t seen _ hmade =>
    rcases Nat.lt_or_eq_of_le (hsound.freshness.noticed_le hmade) with hmissed | rfl
    · have hnew := late?_eq_some.2 ⟨seen, hmade.task, hmissed, hmade.before, hmade.after⟩
      exact .inr ((hlate id).2 ⟨.inr ⟨t, hnew⟩, hheld⟩)
    · exact .inl rfl

theorem behind_step (h : Accounted s late) (hsound : Sound s) (hs : s.Step True s')
    (hlate : LateMove s s' late late') {k : Keeper} {seen : Nat} {record : ServiceRecord}
    (hmeant : s'.Meant k id (some seen) record) (hid : id ∈ late') :
    seen < s'.registry.generation := by
  refine Nat.lt_of_lt_of_le ?_ hs.generation_le
  -- What came late before is old, and what does in this step is new.
  cases hs.meant hsound.order hsound.supervision hmeant with
  | kept hmeant₀ =>
    rcases ((hlate id).1 hid).1 with hold | ⟨t, ht⟩
    · exact h.behind hmeant₀ hold
    · obtain ⟨-, -, -, hbefore, hafter⟩ := late?_eq_some.1 ht
      obtain ⟨rfl, -⟩ := hs.answer hbefore hafter
      exact absurd (hsound.ownership.old hmeant₀.keeps?.1) (Nat.not_succ_le_self _)
  | made hmade =>
    rcases ((hlate id).1 hid).1 with hold | ⟨t, ht⟩
    · obtain ⟨rfl, -⟩ := hs.answer hmade.before hmade.after
      exact absurd (h.old hold) (Nat.not_succ_le_self _)
    · obtain ⟨seen', htask, hmissed, -, hafter⟩ := late?_eq_some.1 ht
      -- It was made for one task only.
      cases (hsound.step hs).ownership.single hmade.after hafter
      obtain rfl := Option.some.inj (hmade.task.symm.trans htask)
      exact hmissed

theorem old_step (h : Accounted s late) (hsound : Sound s) (hs : s.Step True s')
    (hlate : LateMove s s' late late') (hid : id ∈ late') : id ≤ s'.registry.lastId := by
  rcases ((hlate id).1 hid).1 with hold | ⟨t, ht⟩
  · refine Nat.le_trans (h.old hold) ?_
    rcases (hs.hands hsound.order hsound.status hsound.supervision).lastId with hl | ⟨hl, -⟩
    · exact Nat.le_of_eq hl.symm
    · exact hl ▸ Nat.le_succ _
  · obtain ⟨-, -, -, hbefore, hafter⟩ := late?_eq_some.1 ht
    obtain ⟨rfl, hl⟩ := hs.answer hbefore hafter
    exact Nat.le_of_eq hl.symm

/-- A prompt step leaves everything accounted for. -/
theorem step (h : Accounted s late) (hsound : Sound s) (hs : s.Step True s')
    (hlate : LateMove s s' late late') : Accounted s' late' where
  held := h.held_step hsound hs hlate
  noticed := h.noticed_step hsound hs hlate
  behind := h.behind_step hsound hs hlate
  standing {id} hid := ((hlate id).1 hid).2
  old := h.old_step hsound hs hlate

end Accounted

end Scene

end ServiceDiscovery
