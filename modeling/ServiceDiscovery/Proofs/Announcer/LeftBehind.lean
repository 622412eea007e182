import ServiceDiscovery.Proofs.Announcer.Whereabouts

/-!
# Registrations that are left behind

A `Ledger` follows a run of an announcer: it has the registrations of every
announcement, as they show, and those that were lost since the directory last
restarted. A registration is lost while the directory has it

* if it is forgotten (`Scene.forgotten?`), or
* if the supervisor of an announcement ends with the answer to its request
  (`Scene.unheard?`), as it notices the order to stop in the moment between the
  commit and the answer.

If every request to withdraw is waited for (`World.Patient`), nothing else is left
behind: at rest, what the directory has of an announcement that was released is
what was lost of it (`World.Patient.held_iff_left`).
-/

namespace ServiceDiscovery

/-- What has become of the registrations of an announcer. -/
structure Ledger where
  /-- The registrations that showed, each with its announcement. -/
  made : List (Nat × Nat)
  /-- The registrations that were lost since the directory last restarted. -/
  left : List Nat
  deriving DecidableEq

namespace Scene

/-- The registration behind what is announced. -/
def announced? (s : Scene) : Option (Nat × Nat) :=
  s.announcer.current.bind fun a => a.registration.map fun r => (a.id, r.id)

/-- The registration that the supervisor of an announcement is about to hear of. -/
def unread? (s : Scene) (t : Nat) : Option (Nat × Nat) :=
  ((s.announcer.tasks.get? t).bind AnnouncerTask.supervises?).bind fun i =>
    (s.keeps? (.answer t)).map fun id => (i, id)

/-- The registration that is forgotten in a step. -/
def forgotten? (s s' : Scene) : Option Nat :=
  s.announcer.current.bind fun a => s'.announcer.current.bind fun a' =>
    if a'.id = a.id ∧ a'.registration = none then a.registration.map (·.id) else none

/-- The registration that the supervisor of an announcement does not hear of any
    more, as it ends in a step. -/
def unheard? (s s' : Scene) (t : Nat) : Option Nat :=
  if (s'.announcer.tasks.get? t).isNone then (s.unread? t).map Prod.snd else none

/-- A registration of an announcement shows. -/
def Shows (s : Scene) (i id : Nat) : Prop :=
  s.announced? = some (i, id) ∨ ∃ t, s.unread? t = some (i, id)

/-- A registration is lost in a step. -/
def Loses (s s' : Scene) (id : Nat) : Prop :=
  s.forgotten? s' = some id ∨ ∃ t, s.unheard? s' t = some id

/-- Every request to withdraw what is held is waited for in a step. -/
def Waits (s s' : Scene) : Prop :=
  ∀ t id, s.keeps? (.withdrawal t) = some id → s'.registry.registrations.get? id ≠ none →
    s'.keeps? (.withdrawal t) = some id

/-- The ledgers before a step and after it. -/
structure LedgerMove (s s' : Scene) (l l' : Ledger) : Prop where
  made : ∀ i id, (i, id) ∈ l'.made ↔ (i, id) ∈ l.made ∨ s'.Shows i id
  left : ∀ id, id ∈ l'.left ↔
    (id ∈ l.left ∧ s'.registry.generation = s.registry.generation) ∨
      (s.Loses s' id ∧ s'.registry.registrations.get? id ≠ none)

/-- Who keeps a registration of an announcement works for it. -/
def Tends (s : Scene) : Keeper → Nat → Prop
  | .announcement, i => s.announcer.isCurrent i = true
  | .hand t, i | .answer t, i => (s.announcer.tasks.get? t).bind AnnouncerTask.supervises? = some i
  | .withdrawal _, _ => True

/-- What the directory has of an announcement is kept for it, or was lost. -/
structure Recorded (s : Scene) (l : Ledger) : Prop where
  old : ∀ {i id}, (i, id) ∈ l.made → id ≤ s.registry.lastId
  tended : ∀ {i id k}, (i, id) ∈ l.made → s.keeps? k = some id → s.Tends k i
  traced : ∀ {i id}, (i, id) ∈ l.made → s.registry.registrations.get? id ≠ none →
    id ∈ l.left ∨ ∃ k, s.keeps? k = some id
  standing : ∀ {id}, id ∈ l.left → s.registry.registrations.get? id ≠ none
  unkept : ∀ {id}, id ∈ l.left → ∀ k, s.keeps? k ≠ some id
  gone : ∀ {id}, id ∈ l.left → id ≤ s.registry.lastId

variable {s s' : Scene} {l l' : Ledger} {i id t : Nat}

theorem announced?_eq_some : s.announced? = some (i, id) ↔
    ∃ a r, s.announcer.current = some a ∧ a.id = i ∧ a.registration = some r ∧ r.id = id := by
  simp only [announced?, Option.bind_eq_some_iff, Option.map_eq_some_iff, Prod.mk.injEq]
  constructor
  · rintro ⟨a, hc, r, hr, hi, hid⟩
    exact ⟨a, r, hc, hi, hr, hid⟩
  · rintro ⟨a, r, hc, hi, hr, hid⟩
    exact ⟨a, hc, r, hr, hi, hid⟩

theorem unread?_eq_some : s.unread? t = some (i, id) ↔
    (s.announcer.tasks.get? t).bind AnnouncerTask.supervises? = some i ∧
      s.keeps? (.answer t) = some id := by
  rw [unread?, Option.bind_eq_some_iff]
  constructor
  · rintro ⟨i', hi', hunread⟩
    obtain ⟨id', hid', he⟩ := Option.map_eq_some_iff.1 hunread
    cases he
    exact ⟨hi', hid'⟩
  · rintro ⟨hi, hid⟩
    exact ⟨i, hi, by rw [hid]; rfl⟩

theorem unheard?_eq_some : s.unheard? s' t = some id ↔
    s'.announcer.tasks.get? t = none ∧ ∃ i, s.unread? t = some (i, id) := by
  rw [unheard?, Option.ite_none_right_eq_some, Option.isNone_iff_eq_none, Option.map_eq_some_iff]
  constructor
  · rintro ⟨hgone, ⟨i, id'⟩, hunread, rfl⟩
    exact ⟨hgone, i, hunread⟩
  · rintro ⟨hgone, i, hunread⟩
    exact ⟨hgone, (i, id), hunread, rfl⟩

theorem forgotten?_eq_some : s.forgotten? s' = some id ↔ s.Forgets s' id := by
  simp only [forgotten?, Forgets, Option.bind_eq_some_iff, Option.ite_none_right_eq_some,
    Option.map_eq_some_iff]
  constructor
  · rintro ⟨a, hc, a', hc', ⟨hsame, hnone⟩, r, hr, rfl⟩
    exact ⟨a, a', r, hc, hr, rfl, hc', hsame, hnone⟩
  · rintro ⟨a, a', r, hc, hr, rfl, hc', hsame, hnone⟩
    exact ⟨a, hc, a', hc', ⟨hsame, hnone⟩, r, hr, rfl⟩

/-- What shows is kept, by somebody who works for its announcement. -/
theorem Shows.tends (h : s.Shows i id) : ∃ k, s.keeps? k = some id ∧ s.Tends k i := by
  rcases h with h | ⟨t, h⟩
  · obtain ⟨a, r, hc, rfl, hr, rfl⟩ := announced?_eq_some.1 h
    exact ⟨.announcement, keeps?_announcement hc hr, Announcer.Tended.isCurrent_eq_true hc⟩
  · obtain ⟨hi, hid⟩ := unread?_eq_some.1 h
    exact ⟨.answer t, hid, hi⟩

/-- A task that works for an announcement goes on doing so. -/
theorem Whereabouts.supervises_kept (hw : Whereabouts s s') {z : AnnouncerTask}
    (hi : (s.announcer.tasks.get? t).bind AnnouncerTask.supervises? = some i)
    (hz : s'.announcer.tasks.get? t = some z) :
    (s'.announcer.tasks.get? t).bind AnnouncerTask.supervises? = some i := by
  obtain ⟨x, hx, hxi⟩ := Option.bind_eq_some_iff.1 hi
  rw [hz, Option.bind_some, hw.supervises hx hz, hxi]

theorem task_of_hand (h : s.keeps? (.hand t) = some id) :
    ∃ x, s.announcer.tasks.get? t = some x := by
  obtain ⟨r, hr, -⟩ := Option.map_eq_some_iff.1 h
  obtain ⟨x, hx, -⟩ := Option.bind_eq_some_iff.1 hr
  exact ⟨x, hx⟩

theorem task_of_answer (ho : Orderly s) (h : s.keeps? (.answer t) = some id) :
    ∃ x, s.announcer.tasks.get? t = some x := by
  obtain ⟨r, hr, -⟩ := Option.map_eq_some_iff.1 h
  obtain ⟨call, hcall, -⟩ := Option.bind_eq_some_iff.1 hr
  obtain ⟨x, -, hx, -⟩ := ho.registers hcall
  exact ⟨x, hx⟩

namespace Recorded

/-- Who keeps a registration that showed before works for its announcement still. -/
theorem tended_step (h : Recorded s l) (hw : Whereabouts s s') (ho' : Orderly s') {k : Keeper}
    (hmade : (i, id) ∈ l.made) (hk : s'.keeps? k = some id) : s'.Tends k i := by
  cases k with
  | withdrawal => exact trivial
  | answer t =>
    rcases hw.answer hk with hwas | hnew
    · obtain ⟨z, hz⟩ := task_of_answer ho' hk
      exact hw.supervises_kept (h.tended hmade hwas) hz
    · exact absurd (h.old hmade) (Nat.not_le_of_lt hnew)
  | hand t =>
    obtain ⟨z, hz⟩ := task_of_hand hk
    rcases hw.hand hk with hwas | hwas
    · exact hw.supervises_kept (h.tended hmade hwas) hz
    · exact hw.supervises_kept (h.tended hmade hwas) hz
  | announcement =>
    obtain ⟨r, hr, rfl⟩ := Option.map_eq_some_iff.1 hk
    obtain ⟨a', hc', hr'⟩ := Option.bind_eq_some_iff.1 hr
    have hcurrent (hi : i = a'.id) : s'.Tends .announcement i :=
      hi ▸ Announcer.Tended.isCurrent_eq_true hc'
    rcases hw.announcement hc' hr' with ⟨a, hc, hid, hra⟩ | ⟨t, x, hx, hhand, hsupervises⟩
    · -- It was behind the announcement before.
      have hwas := keeps?_announcement hc hra
      obtain ⟨b, hb, rfl⟩ := Announcer.current_of_isCurrent (h.tended hmade hwas)
      obtain rfl := Option.some.inj (hc.symm.trans hb)
      exact hcurrent hid
    · have hi := h.tended hmade (keeps?_hand hx hhand)
      rw [Tends, hx] at hi
      exact hcurrent (hsupervises i hi)

/-- What is lost in a step was kept before it, and is kept nowhere after it. -/
theorem unkept_of_loses (hw : Whereabouts s s') (ho' : Orderly s') (howned : Owned s)
    (h : s.Loses s' id) : (∃ k, s.keeps? k = some id) ∧ ∀ k, s'.keeps? k ≠ some id := by
  rcases h with h | ⟨t, h⟩
  · -- What is forgotten was the announcement's, and is so no more.
    obtain ⟨a, a', r, hc, hr, rfl, hc', -, hnone⟩ := forgotten?_eq_some.1 h
    have hwas := keeps?_announcement hc hr
    refine ⟨⟨_, hwas⟩, fun k hk => ?_⟩
    rcases hw.passes howned hwas hk with rfl | hpasses
    · rw [keeps?, registration?_of_current hc', hnone] at hk
      cases hk
    · cases hpasses with
      | taken hgone => cases hc'.symm.trans hgone
  · -- What is not heard of was in the answer to a task that ended.
    obtain ⟨hgone, i, hunread⟩ := unheard?_eq_some.1 h
    have hwas := (unread?_eq_some.1 hunread).2
    refine ⟨⟨_, hwas⟩, fun k hk => ?_⟩
    rcases hw.passes howned hwas hk with rfl | hpasses
    · obtain ⟨z, hz⟩ := task_of_answer ho' hk
      cases hgone.symm.trans hz
    · cases hpasses with
      | heard =>
        obtain ⟨z, hz⟩ := task_of_hand hk
        cases hgone.symm.trans hz

/-- What is held of an announcement is kept, or was lost. -/
theorem traced_step (h : Recorded s l) (hw : Whereabouts s s') (hwaits : s.Waits s')
    (hl : LedgerMove s s' l l') (hmade : (i, id) ∈ l.made)
    (hheld : s'.registry.registrations.get? id ≠ none) :
    id ∈ l'.left ∨ ∃ k, s'.keeps? k = some id := by
  have hwas : s.registry.registrations.get? id ≠ none := by
    rcases hw.held hheld with hwas | hnew
    · exact hwas
    · exact absurd (h.old hmade) (Nat.not_le_of_lt hnew)
  have hlost (hloses : s.Loses s' id) : id ∈ l'.left := (hl.left id).2 (.inr ⟨hloses, hheld⟩)
  rcases h.traced hmade hwas with hleft | ⟨k, hk⟩
  · exact .inl ((hl.left id).2 (.inl ⟨hleft, hw.generation hheld⟩))
  · rcases hw.fate hk with hkept | hgone | hforgets | ⟨t, x, hx, hended, hk'⟩
    · exact .inr hkept
    · exact absurd hgone hheld
    · exact .inl (hlost (.inl (forgotten?_eq_some.2 hforgets)))
    · -- The task that ended with it worked for its announcement.
      rcases hk' with rfl | rfl | ⟨rfl, hnone⟩
      · have hunread := unread?_eq_some.2 ⟨h.tended hmade hk, hk⟩
        exact .inl (hlost (.inr ⟨t, unheard?_eq_some.2 ⟨hended, i, hunread⟩⟩))
      · exact .inr ⟨_, hwaits t id hk hheld⟩
      · have hi := h.tended hmade hk
        rw [Tends, hx, Option.bind_some, hnone] at hi
        cases hi

/-- A step in which every request to withdraw is waited for keeps the ledger right. -/
theorem step (h : Recorded s l) (hsound : Sound s) (hsound' : Sound s') (hw : Whereabouts s s')
    (hwaits : s.Waits s') (hl : LedgerMove s s' l l') : Recorded s' l' where
  old {i id} hmade := by
    rcases (hl.made i id).1 hmade with hold | hshows
    · exact Nat.le_trans (h.old hold) hw.lastId
    · obtain ⟨k, hk, -⟩ := hshows.tends
      exact hsound'.ownership.old hk
  tended {i id k} hmade hk := by
    rcases (hl.made i id).1 hmade with hold | hshows
    · exact h.tended_step hw hsound'.order hold hk
    · obtain ⟨k', hk', htends⟩ := hshows.tends
      exact hsound'.ownership.single hk hk' ▸ htends
  traced {i id} hmade hheld := by
    rcases (hl.made i id).1 hmade with hold | hshows
    · exact h.traced_step hw hwaits hl hold hheld
    · obtain ⟨k, hk, -⟩ := hshows.tends
      exact .inr ⟨k, hk⟩
  standing {id} hid := by
    rcases (hl.left id).1 hid with ⟨hold, hsame⟩ | ⟨-, hheld⟩
    · rcases hw.stands (h.standing hold) fun t => h.unkept hold (.withdrawal t) with hheld | hne
      · exact hheld
      · exact absurd hsame hne
    · exact hheld
  unkept {id} hid k hk := by
    rcases (hl.left id).1 hid with ⟨hold, -⟩ | ⟨hloses, -⟩
    · rcases hw.source hk with ⟨k₀, hk₀⟩ | hnew
      · exact h.unkept hold k₀ hk₀
      · exact absurd (h.gone hold) (Nat.not_le_of_lt hnew)
    · exact (unkept_of_loses hw hsound'.order hsound.ownership hloses).2 k hk
  gone {id} hid := by
    refine Nat.le_trans ?_ hw.lastId
    rcases (hl.left id).1 hid with ⟨hold, -⟩ | ⟨hloses, -⟩
    · exact h.gone hold
    · obtain ⟨k, hk⟩ := (unkept_of_loses hw hsound'.order hsound.ownership hloses).1
      exact hsound.ownership.old hk

end Recorded

end Scene

/-! ## Patient runs -/

namespace World

open Scene

/-- Whether no request to withdraw was given up as one network became another. The
    directory has worked on it, or it is under way still. -/
def patient (w w' : World) (name : String) : Bool :=
  w.withdrawCalls.bindings.all fun (p, call) =>
    match call.pending? with
    | none => true
    | some id => p.announcer != name || !w'.registry.registrations.contains id ||
        (w'.withdrawCalls.get? p).bind WithdrawCall.pending? == some id

/-- The tasks of an announcer with a request to register under way. -/
def askers (w : World) (name : String) : List Nat :=
  w.registerCalls.keys.filterMap fun p => if p.announcer = name then some p.task else none

/-- The ledger after one network became another. -/
def ledgerAfter (l : Ledger) (w w' : World) (name : String) : Ledger where
  made := (l.made ++ (w'.scene name).announced?.toList ++
    (w'.askers name).filterMap (w'.scene name).unread?).eraseDups
  left := (if w'.registry.generation = w.registry.generation then l.left else []) ++
    (((w.scene name).forgotten? (w'.scene name)).toList ++
      (w.askers name).filterMap ((w.scene name).unheard? (w'.scene name))).filter
        (w'.registry.registrations.contains ·)

/-- The networks in which an announcer may find itself if every request to withdraw
    is waited for, each with the ledger of the run. -/
inductive Patient (settings : AnnouncerSettings) (name : String) : World → Ledger → Prop
  | start : Patient settings name (withAnnouncer settings name) ⟨[], []⟩
  | step {w w' : World} {l : Ledger} {action : AnnouncerAction} :
      Patient settings name w l → w.act? name action = some w' → w.patient w' name = true →
      Patient settings name w' (ledgerAfter l w w' name)

/-- The network after a series of actions, with the ledger, if every request to
    withdraw is waited for. -/
def actPatiently? (w : World) (name : String) (l : Ledger) :
    List AnnouncerAction → Option (World × Ledger)
  | [] => some (w, l)
  | action :: actions => (w.act? name action).bind fun w' =>
    if w.patient w' name then w'.actPatiently? name (ledgerAfter l w w' name) actions else none

variable {settings : AnnouncerSettings} {name : String} {w w' : World} {l : Ledger}
  {action : AnnouncerAction}

theorem Patient.actPatiently {l' : Ledger} {actions : List AnnouncerAction}
    (h : Patient settings name w l) (hw : w.actPatiently? name l actions = some (w', l')) :
    Patient settings name w' l' := by
  induction actions generalizing w l with
  | nil =>
    obtain ⟨rfl, rfl⟩ := Prod.mk.inj (Option.some.inj hw)
    exact h
  | cons action actions ih =>
    obtain ⟨w₁, hfirst, hw⟩ := Option.bind_eq_some_iff.1 hw
    obtain ⟨hpatient, hrest⟩ := Option.ite_none_right_eq_some.1 hw
    exact ih (h.step hfirst hpatient) hrest

/-- A patient run is a run. -/
theorem Patient.announcing (h : Patient settings name w l) : Announcing settings name w := by
  induction h with
  | start => exact .start
  | step _ hw _ ih => exact ih.step hw

theorem waits_of_patient (h : w.patient w' name = true) :
    (w.scene name).Waits (w'.scene name) := by
  intro t id hid hheld
  obtain ⟨call, hcall, hpending⟩ := Option.bind_eq_some_iff.1 hid
  have hbinding := (Association.mem_bindings_iff _).2 hcall
  have hkept := List.all_eq_true.1 h _ hbinding
  have hcontains : w'.registry.registrations.contains id = true :=
    Option.isSome_iff_ne_none.2 hheld
  simp only [hpending, hcontains, bne_self_eq_false, Bool.not_true, Bool.or_self, Bool.false_or,
    beq_iff_eq] at hkept
  exact hkept

/-- Who has an answer to hear has a request under way. -/
theorem mem_askers {i id t : Nat} (h : (w.scene name).unread? t = some (i, id)) :
    t ∈ w.askers name := by
  obtain ⟨registration, hgained, -⟩ := Option.map_eq_some_iff.1 (unread?_eq_some.1 h).2
  obtain ⟨call, hcall, -⟩ := Option.bind_eq_some_iff.1 hgained
  exact List.mem_filterMap.2 ⟨⟨name, t⟩, (Association.mem_keys_iff _).2 ⟨call, hcall⟩, if_pos rfl⟩

theorem ledgerMove_ledgerAfter :
    LedgerMove (w.scene name) (w'.scene name) l (ledgerAfter l w w' name) where
  made i id := by
    rw [ledgerAfter, List.mem_eraseDups, List.mem_append, List.mem_append, Option.mem_toList,
      List.mem_filterMap, or_assoc]
    refine or_congr_right (or_congr_right ⟨?_, ?_⟩)
    · rintro ⟨t, -, ht⟩
      exact ⟨t, ht⟩
    · rintro ⟨t, ht⟩
      exact ⟨t, mem_askers ht, ht⟩
  left id := by
    have hloses : (w.scene name).Loses (w'.scene name) id ↔
        id ∈ ((w.scene name).forgotten? (w'.scene name)).toList ++
          (w.askers name).filterMap ((w.scene name).unheard? (w'.scene name)) := by
      rw [List.mem_append, Option.mem_toList, List.mem_filterMap]
      refine or_congr_right ⟨?_, ?_⟩
      · rintro ⟨t, ht⟩
        obtain ⟨-, i, hunread⟩ := unheard?_eq_some.1 ht
        exact ⟨t, mem_askers hunread, ht⟩
      · rintro ⟨t, -, ht⟩
        exact ⟨t, ht⟩
    rw [ledgerAfter, List.mem_append, List.mem_filter, hloses, Association.contains,
      Option.isSome_iff_ne_none]
    refine or_congr_left ?_
    show id ∈ (if w'.registry.generation = w.registry.generation then l.left else []) ↔
      id ∈ l.left ∧ w'.registry.generation = w.registry.generation
    split
    · exact (and_iff_left ‹_›).symm
    · exact ⟨fun hm => absurd hm List.not_mem_nil, fun hm => absurd hm.2 ‹_›⟩

/-- Whatever happens tells of every registration where it is and where it comes from. -/
theorem Announcing.whereabouts (h : Announcing settings name w)
    (hw : w.act? name action = some w') : Whereabouts (w.scene name) (w'.scene name) := by
  have hsound := h.sound
  by_cases habort : ∃ t, action = .abort t
  · obtain ⟨t, rfl⟩ := habort
    obtain rfl := Option.some.inj hw
    obtain ⟨s, hgives, he | ⟨id, he⟩⟩ := Step.of_abort w name t
    · rw [he]
      exact hgives.step.whereabouts hsound
    · rw [he]
      refine (hgives.step.whereabouts hsound).spawn (hsound.step hgives.step).order .taking ?_
      rw [hgives.nextTask]
      exact hsound.order.next
  · have hnot (t : Nat) : action ≠ .abort t := fun he => habort ⟨t, he⟩
    exact (Step.of_act hw hnot False.elim False.elim).whereabouts hsound

namespace Patient

/-- In a patient run what the directory has of an announcement is kept, or was lost. -/
theorem recorded (h : Patient settings name w l) : (w.scene name).Recorded l := by
  induction h with
  | start =>
    refine ⟨fun hid => ?_, fun hid => ?_, fun hid => ?_, fun hid => ?_, fun hid => ?_,
      fun hid => ?_⟩
    all_goals cases hid
  | step hrun hw hpatient ih =>
    have hannouncing := hrun.announcing
    exact ih.step hannouncing.sound (hannouncing.step hw).sound (hannouncing.whereabouts hw)
      (waits_of_patient hpatient) ledgerMove_ledgerAfter

/-- At rest, what the directory has of an announcement that was released is what was
    lost of it. Hence nothing is left behind exactly if nothing was lost. -/
theorem held_iff_left (h : Patient settings name w l) (hrest : w.AtRest name) {i : Nat}
    (hreleased : (w.announcer name).isCurrent i = false) :
    (∀ id, (i, id) ∈ l.made → (w.registry.registrations.get? id ≠ none ↔ id ∈ l.left)) ∧
    ((∀ id, (i, id) ∈ l.made → w.registry.registrations.get? id = none) ↔
      ∀ id, (i, id) ∈ l.made → id ∉ l.left) := by
  have hrecorded := h.recorded
  have hheld (id : Nat) (hmade : (i, id) ∈ l.made) :
      w.registry.registrations.get? id ≠ none ↔ id ∈ l.left := by
    refine ⟨fun hid => ?_, fun hleft => hrecorded.standing hleft⟩
    rcases hrecorded.traced hmade hid with hleft | ⟨k, hk⟩
    · exact hleft
    · -- At rest only what is announced keeps a registration.
      obtain rfl := hrest.eq_announcement h.announcing.sound.order hk
      have hcurrent : (w.announcer name).isCurrent i = true := hrecorded.tended hmade hk
      cases hreleased.symm.trans hcurrent
  refine ⟨hheld, forall_congr' fun id => forall_congr' fun hmade => ?_⟩
  rw [← hheld id hmade, ne_eq, Decidable.not_not]

/-- A handle is dropped between the commit of a registration and the answer. The
    supervisor takes the answer and gives the registration back. -/
theorem held_iff_left_returned :
    let record : ServiceRecord := { instanceName := "nas", serviceType := "t", port := 5000 }
    let actions : List AnnouncerAction :=
      [.announce record, .proceed 0, .proceed 0, .register 0, .register 0, .register 0, .proceed 0,
        .change .restart, .proceed 1, .proceed 1, .lag (.after 5), .proceed 1, .register 1,
        .register 1, .dropHandle 0, .proceed 2, .wait 5, .register 1, .proceed 1, .unregister 1,
        .unregister 1]
    ∃ w, (withAnnouncer {} "a").actPatiently? "a" ⟨[], []⟩ actions =
        some (w, ⟨[(0, 1), (0, 2)], []⟩) ∧ w.AtRest "a" ∧
      (w.announcer "a").isCurrent 0 = false ∧
      (∀ id, (0, id) ∈ [(0, 1), (0, 2)] →
        (w.registry.registrations.get? id ≠ none ↔ id ∈ ([] : List Nat))) ∧
      ((∀ id, (0, id) ∈ [(0, 1), (0, 2)] → w.registry.registrations.get? id = none) ↔
        ∀ id, (0, id) ∈ [(0, 1), (0, 2)] → id ∉ ([] : List Nat)) := by
  intro record actions
  have hrun : ∃ w, (withAnnouncer {} "a").actPatiently? "a" ⟨[], []⟩ actions =
        some (w, ⟨[(0, 1), (0, 2)], []⟩) ∧ w.AtRest "a" ∧
      (w.announcer "a").isCurrent 0 = false := by
    revert record actions
    exact ⟨_, rfl, .of_keys rfl (fun _ => rfl) (fun _ => rfl) (fun _ ht => by cases ht), rfl⟩
  obtain ⟨w, hw, hrest, hreleased⟩ := hrun
  exact ⟨w, hw, hrest, hreleased, (Patient.start.actPatiently hw).held_iff_left hrest hreleased⟩

/-- A handle is dropped between the commit of a registration and the answer. The
    supervisor notices the order to stop first, and the directory has the registration
    for good. -/
theorem held_after_release :
    let record : ServiceRecord := { instanceName := "nas", serviceType := "t", port := 5000 }
    let actions : List AnnouncerAction :=
      [.announce record, .proceed 0, .proceed 0, .register 0, .register 0, .register 0, .proceed 0,
        .change .restart, .proceed 1, .proceed 1, .lag (.after 5), .proceed 1, .register 1,
        .register 1, .dropHandle 0, .proceed 2, .stop 1]
    ∃ w, (withAnnouncer {} "a").actPatiently? "a" ⟨[], []⟩ actions =
        some (w, ⟨[(0, 1), (0, 2)], [2]⟩) ∧
      Patient {} "a" w ⟨[(0, 1), (0, 2)], [2]⟩ ∧ w.AtRest "a" ∧
      (w.announcer "a").status = .unregistered ∧ (w.announcer "a").current = none ∧
      w.registry.registrations.get? 2 = some record := by
  intro record actions
  have hrun : ∃ w, (withAnnouncer {} "a").actPatiently? "a" ⟨[], []⟩ actions =
        some (w, ⟨[(0, 1), (0, 2)], [2]⟩) ∧ w.AtRest "a" ∧
      (w.announcer "a").status = .unregistered ∧ (w.announcer "a").current = none ∧
      w.registry.registrations.get? 2 = some record := by
    revert record actions
    exact ⟨_, rfl, .of_keys rfl (fun _ => rfl) (fun _ => rfl) (fun _ ht => by cases ht), rfl, rfl,
      rfl⟩
  obtain ⟨w, hw, hfacts⟩ := hrun
  exact ⟨w, hw, Patient.start.actPatiently hw, hfacts⟩

end Patient

end World

end ServiceDiscovery
