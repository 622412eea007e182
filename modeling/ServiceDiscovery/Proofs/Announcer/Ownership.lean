import ServiceDiscovery.Proofs.Announcer.Supervision

/-!
# Who has which registration

A registration that an announcer made is kept in one place (`Scene.Keeper`): by
the announcement, in the hand of a task, in an answer that was not taken yet, or
in a request to withdraw it. A step hands at most one of them from one place to
another (`Scene.Hands`); so no registration is ever kept in two places
(`Scene.Owned`), and what a request withdraws is nobody else's.
-/

namespace ServiceDiscovery

namespace Scene

/-- Where the number of a registration may be kept. -/
inductive Keeper
  | announcement
  | hand (task : Nat)
  | answer (task : Nat)
  | withdrawal (task : Nat)
  deriving DecidableEq

/-- The registration that a task has in hand. -/
def inHand? (s : Scene) (t : Nat) : Option Registration :=
  (s.announcer.tasks.get? t).bind AnnouncerTask.inHand?

/-- The number that is kept in a place. -/
def keeps? (s : Scene) : Keeper → Option Nat
  | .announcement => s.announcer.registration?.map (·.id)
  | .hand t => (s.inHand? t).map (·.id)
  | .answer t => ((s.registers t).bind RegisterCall.gained?).map (·.id)
  | .withdrawal t => (s.withdrawals t).bind WithdrawCall.pending?

/-- The registration of what is announced is about to be forgotten. -/
structure Doomed (s : Scene) (announcement : Announcement) (registration : Registration) :
    Prop where
  current : s.announcer.current = some announcement
  registration : announcement.registration = some registration
  supervisor : ∃ t seen cancelled,
    s.announcer.tasks.get? t = some (.supervise announcement.id seen cancelled .forgetting)

/-- What a step does to the registrations that are kept. -/
inductive Hands (prompt : Prop) (s s' : Scene) : Prop
  /-- They stay where they are, or are given up: in a prompt step because they were
      about to be forgotten, or are gone from the directory. -/
  | stay : s'.registry.lastId = s.registry.lastId →
      (∀ k, s'.keeps? k = s.keeps? k ∨ s'.keeps? k = none ∧
        (prompt → ∀ id, s.keeps? k = some id →
          (∃ announcement registration, s.Doomed announcement registration ∧
            registration.id = id) ∨
          s'.registry.registrations.get? id = none)) →
      Hands prompt s s'
  /-- One is handed over to where none was. -/
  | passed (src dst : Keeper) : s'.registry.lastId = s.registry.lastId → s.keeps? dst = none →
      (∀ k, s'.keeps? k = if k = dst then s.keeps? src else if k = src then none else s.keeps? k) →
      Hands prompt s s'
  /-- A new one is made where none was. -/
  | fresh (dst : Keeper) : s'.registry.lastId = s.registry.lastId + 1 → s.keeps? dst = none →
      (∀ k, s'.keeps? k = if k = dst then some (s.registry.lastId + 1) else s.keeps? k) →
      Hands prompt s s'

/-- No registration is kept in two places, and all of them were given out. -/
structure Owned (s : Scene) : Prop where
  single : ∀ {k k' id}, s.keeps? k = some id → s.keeps? k' = some id → k = k'
  old : ∀ {k id}, s.keeps? k = some id → id ≤ s.registry.lastId

variable {s s' : Scene} {prompt : Prop}

theorem passed_source {src dst k : Keeper} {id : Nat}
    (h : ∀ k, s'.keeps? k =
      if k = dst then s.keeps? src else if k = src then none else s.keeps? k)
    (hid : s'.keeps? k = some id) :
    (k = dst ∧ s.keeps? src = some id) ∨ (k ≠ src ∧ s.keeps? k = some id) := by
  rw [h] at hid
  split at hid
  · exact .inl ⟨‹_›, hid⟩
  · split at hid
    · cases hid
    · exact .inr ⟨‹_›, hid⟩

theorem fresh_source {dst k : Keeper} {id new : Nat}
    (h : ∀ k, s'.keeps? k = if k = dst then some new else s.keeps? k)
    (hid : s'.keeps? k = some id) : (k = dst ∧ id = new) ∨ s.keeps? k = some id := by
  rw [h] at hid
  split at hid
  · exact .inl ⟨‹_›, (Option.some.inj hid).symm⟩
  · exact .inr hid

namespace Hands

/-- What is kept was kept before, or is new. -/
theorem source (h : Hands prompt s s') {k : Keeper} {id : Nat}
    (hid : s'.keeps? k = some id) :
    (∃ k₀, s.keeps? k₀ = some id) ∨
      (id = s.registry.lastId + 1 ∧ s'.registry.lastId = s.registry.lastId + 1) := by
  cases h with
  | stay _ hk =>
    rcases hk k with he | ⟨he, -⟩ <;> rw [he] at hid
    · exact .inl ⟨k, hid⟩
    · cases hid
  | passed _ _ _ _ hk =>
    rcases passed_source hk hid with ⟨-, hid⟩ | ⟨-, hid⟩
    · exact .inl ⟨_, hid⟩
    · exact .inl ⟨_, hid⟩
  | fresh _ hl _ hk =>
    rcases fresh_source hk hid with ⟨-, rfl⟩ | hid
    · exact .inr ⟨rfl, hl⟩
    · exact .inl ⟨_, hid⟩

/-- In a prompt step what was kept is kept, unless it was about to be forgotten,
    or is gone from the directory. -/
theorem target (h : Hands prompt s s') (hp : prompt) {k : Keeper} {id : Nat}
    (hid : s.keeps? k = some id) :
    (∃ k', s'.keeps? k' = some id) ∨
      (∃ announcement registration, s.Doomed announcement registration ∧ registration.id = id) ∨
      s'.registry.registrations.get? id = none := by
  cases h with
  | stay _ hk =>
    rcases hk k with he | ⟨-, hlost⟩
    · exact .inl ⟨k, he.trans hid⟩
    · exact .inr (hlost hp id hid)
  | passed src dst _ hnone hk =>
    have hne : k ≠ dst := by
      rintro rfl
      cases hnone.symm.trans hid
    -- What is handed over goes on being kept, where it is handed to.
    by_cases hsrc : k = src
    · subst hsrc
      exact .inl ⟨dst, (hk dst).trans ((if_pos rfl).trans hid)⟩
    · exact .inl ⟨k, (hk k).trans ((if_neg hne).trans ((if_neg hsrc).trans hid))⟩
  | fresh dst _ hnone hk =>
    have hne : k ≠ dst := by
      rintro rfl
      cases hnone.symm.trans hid
    exact .inl ⟨k, (hk k).trans ((if_neg hne).trans hid)⟩

/-- A new number is kept. -/
theorem lastId (h : Hands prompt s s') :
    s'.registry.lastId = s.registry.lastId ∨
      (s'.registry.lastId = s.registry.lastId + 1 ∧
        ∃ k, s'.keeps? k = some (s.registry.lastId + 1)) := by
  cases h with
  | stay hl | passed _ _ hl => exact .inl hl
  | fresh dst hl _ hk => exact .inr ⟨hl, dst, (hk dst).trans (if_pos rfl)⟩

end Hands

theorem Owned.hands (h : Owned s) (hh : Hands prompt s s') : Owned s' := by
  refine ⟨?_, ?_⟩
  · intro k k' id h₁ h₂
    cases hh with
    | stay _ hk =>
      have hold {k : Keeper} (hid : s'.keeps? k = some id) : s.keeps? k = some id := by
        rcases hk k with he | ⟨he, -⟩ <;> rw [he] at hid
        · exact hid
        · cases hid
      exact h.single (hold h₁) (hold h₂)
    | passed _ _ _ _ hk =>
      rcases passed_source hk h₁ with ⟨rfl, h₁⟩ | ⟨hne₁, h₁⟩ <;>
        rcases passed_source hk h₂ with ⟨rfl, h₂⟩ | ⟨hne₂, h₂⟩
      · rfl
      · exact absurd (h.single h₂ h₁) hne₂
      · exact absurd (h.single h₁ h₂) hne₁
      · exact h.single h₁ h₂
    | fresh _ _ _ hk =>
      -- The new number was not kept anywhere.
      have hnew (k : Keeper) : s.keeps? k ≠ some (s.registry.lastId + 1) :=
        fun he => Nat.not_succ_le_self _ (h.old he)
      rcases fresh_source hk h₁ with ⟨rfl, rfl⟩ | h₁ <;>
        rcases fresh_source hk h₂ with ⟨rfl, he⟩ | h₂
      · rfl
      · exact absurd h₂ (hnew k')
      · exact absurd (he ▸ h₁) (hnew k)
      · exact h.single h₁ h₂
  · intro k id hid
    rcases hh.source hid with ⟨k₀, hid⟩ | ⟨rfl, hl⟩
    · rcases hh.lastId with hl | ⟨hl, -⟩
      · exact hl ▸ h.old hid
      · exact hl ▸ Nat.le_succ_of_le (h.old hid)
    · exact Nat.le_of_eq hl.symm

/-! ## Steps -/

theorem inHand?_of_moved {t : Nat} {x : AnnouncerTask} {y : Option AnnouncerTask}
    {stopped : Option Nat} (hm : s.announcer.Moved s'.announcer t x y stopped) (t' : Nat) :
    s'.inHand? t' = if t' = t then y.bind AnnouncerTask.inHand? else s.inHand? t' := by
  rw [inHand?, hm.tasks]
  split
  · rfl
  · rw [inHand?]
    cases s.announcer.tasks.get? t' with
    | none => rfl
    | some z => exact z.inHand?_told stopped

theorem inHand?_of_get? {t : Nat} {x : AnnouncerTask}
    (hx : s.announcer.tasks.get? t = some x) : s.inHand? t = x.inHand? := by
  rw [inHand?, hx, Option.bind_some]

/-- The hand of the task that moves is empty then. -/
theorem inHand?_gone {t : Nat} {x : AnnouncerTask} {y : Option AnnouncerTask}
    {stopped : Option Nat} (hm : s.announcer.Moved s'.announcer t x y stopped)
    (hy : y.bind AnnouncerTask.inHand? = none) (t' : Nat) :
    s'.inHand? t' = if t' = t then none else s.inHand? t' := by
  rw [inHand?_of_moved hm, hy]

/-- The hands are as before if the task that moves had nothing in hand and gets
    nothing. -/
theorem inHand?_eq_of_moved {t : Nat} {x : AnnouncerTask} {y : Option AnnouncerTask}
    {stopped : Option Nat} (hm : s.announcer.Moved s'.announcer t x y stopped)
    (hx : x.inHand? = none) (hy : y.bind AnnouncerTask.inHand? = none) (t' : Nat) :
    s'.inHand? t' = s.inHand? t' := by
  rw [inHand?_of_moved hm]
  split
  · rename_i ht
    rw [hy, ht, inHand?_of_get? hm.was, hx]
  · rfl

/-- An entry of one task is replaced by one that counts the same. -/
theorem bind_assign {α β : Type} {f : Nat → Option α} {t : Nat} {value : Option α}
    {g : α → Option β} (h : value.bind g = (f t).bind g) (t' : Nat) :
    (assign f t value t').bind g = (f t').bind g := by
  unfold assign
  split
  · rename_i ht
    rw [ht, h]
  · rfl

theorem bind_assign_eq {α β : Type} (f : Nat → Option α) (t : Nat) (value : Option α)
    (g : α → Option β) (t' : Nat) :
    (assign f t value t').bind g = if t' = t then value.bind g else (f t').bind g := by
  unfold assign
  split <;> rfl

namespace Hands

theorem same (hl : s'.registry.lastId = s.registry.lastId)
    (hc : s'.announcer.registration? = s.announcer.registration?)
    (hh : ∀ t, s'.inHand? t = s.inHand? t)
    (hr : ∀ t, (s'.registers t).bind RegisterCall.gained? =
      (s.registers t).bind RegisterCall.gained?)
    (hw : ∀ t, (s'.withdrawals t).bind WithdrawCall.pending? =
      (s.withdrawals t).bind WithdrawCall.pending?) : Hands prompt s s' := by
  refine .stay hl fun k => .inl ?_
  cases k with
  | announcement => rw [keeps?, keeps?, hc]
  | hand t => rw [keeps?, keeps?, hh]
  | answer t => rw [keeps?, keeps?, hr]
  | withdrawal t => rw [keeps?, keeps?, hw]

/-- A task goes on that had nothing in hand and gets nothing, and asks for
    nothing. -/
theorem moved {t : Nat} {x : AnnouncerTask} {y : Option AnnouncerTask} {stopped : Option Nat}
    (hm : s.announcer.Moved s'.announcer t x y stopped) (hx : x.inHand? = none)
    (hy : y.bind AnnouncerTask.inHand? = none) (hl : s'.registry.lastId = s.registry.lastId)
    (hc : s'.announcer.registration? = s.announcer.registration?)
    (hr : ∀ t, (s'.registers t).bind RegisterCall.gained? =
      (s.registers t).bind RegisterCall.gained?)
    (hw : s'.withdrawals = s.withdrawals) : Hands prompt s s' :=
  .same hl hc (inHand?_eq_of_moved hm hx hy) hr fun _ => by rw [hw]

/-- Whatever a task had is given up with the task. -/
theorem ended {t : Nat} {x : AnnouncerTask} {stopped : Option Nat}
    (hm : s.announcer.Moved s'.announcer t x none stopped)
    (hl : s'.registry.lastId = s.registry.lastId)
    (hc : s'.announcer.registration? = s.announcer.registration?)
    (hr : s'.registers = assign s.registers t none)
    (hw : s'.withdrawals = assign s.withdrawals t none)
    (hprompt : prompt → x.inHand? = none ∧ s.Settles t) : Hands prompt s s' := by
  refine .stay hl fun k => ?_
  cases k with
  | announcement =>
    left
    rw [keeps?, keeps?, hc]
  | hand t' =>
    simp only [keeps?, inHand?_of_moved hm]
    by_cases ht : t' = t
    · subst ht
      refine .inr ⟨by simp, fun hp id hid => ?_⟩
      rw [inHand?_of_get? hm.was, (hprompt hp).1] at hid
      cases hid
    · exact .inl (by rw [if_neg ht])
  | answer t' =>
    simp only [keeps?, hr, bind_assign_eq]
    by_cases ht : t' = t
    · subst ht
      refine .inr ⟨by simp, fun hp id hid => ?_⟩
      rw [(hprompt hp).2.1] at hid
      cases hid
    · exact .inl (by rw [if_neg ht])
  | withdrawal t' =>
    simp only [keeps?, hw, bind_assign_eq]
    by_cases ht : t' = t
    · subst ht
      refine .inr ⟨by simp, fun hp id hid => ?_⟩
      rw [(hprompt hp).2.2] at hid
      cases hid
    · exact .inl (by rw [if_neg ht])

/-- A task gets the registration that it asked for. -/
theorem gained {t due : Nat} {x y : AnnouncerTask} {registration : Registration}
    (hm : s.announcer.Moved s'.announcer t x (some y) none) (hx : x.inHand? = none)
    (hy : y.inHand? = some registration) (hl : s'.registry.lastId = s.registry.lastId)
    (hc : s'.announcer.registration? = s.announcer.registration?)
    (hcall : s.registers t = some (.answered (.ok registration) due))
    (hr : s'.registers = assign s.registers t none) (hw : s'.withdrawals = s.withdrawals) :
    Hands prompt s s' := by
  refine .passed (.answer t) (.hand t) hl ?_ fun k => ?_
  · rw [keeps?, inHand?_of_get? hm.was, hx, Option.map_none]
  · cases k with
    | announcement => simp [keeps?, hc]
    | hand t' =>
      simp only [keeps?, inHand?_of_moved hm, Keeper.hand.injEq, reduceCtorEq, if_false, hcall]
      split
      · rw [Option.bind_some, hy]
        rfl
      · rfl
    | answer t' =>
      simp only [keeps?, hr, bind_assign_eq, Keeper.answer.injEq, reduceCtorEq, if_false]
      split <;> rfl
    | withdrawal t' => simp [keeps?, hw]

/-- A task makes the registration that it has in hand the announcement's. -/
theorem attached {t : Nat} {registration : Registration}
    (hh : s.inHand? t = some registration)
    (hh' : ∀ t', s'.inHand? t' = if t' = t then none else s.inHand? t')
    (hl : s'.registry.lastId = s.registry.lastId) (hc : s.announcer.registration? = none)
    (hc' : s'.announcer.registration? = some registration) (hr : s'.registers = s.registers)
    (hw : s'.withdrawals = s.withdrawals) : Hands prompt s s' := by
  refine .passed (.hand t) .announcement hl ?_ fun k => ?_
  · rw [keeps?, hc, Option.map_none]
  · cases k with
    | announcement => simp [keeps?, hc', hh]
    | hand t' =>
      simp only [keeps?, hh', Keeper.hand.injEq, reduceCtorEq, if_false]
      split <;> rfl
    | answer t' => simp [keeps?, hr]
    | withdrawal t' => simp [keeps?, hw]

/-- A task has the announcement's registration withdrawn. -/
theorem taken {t : Nat} {registration : Registration}
    (hh : ∀ t, s'.inHand? t = s.inHand? t) (hl : s'.registry.lastId = s.registry.lastId)
    (hc : s.announcer.registration? = some registration)
    (hc' : s'.announcer.registration? = none) (hr : s'.registers = s.registers)
    (hnone : s.withdrawals t = none)
    (hw : s'.withdrawals = assign s.withdrawals t (some (.requested registration.id))) :
    Hands prompt s s' := by
  refine .passed .announcement (.withdrawal t) hl ?_ fun k => ?_
  · rw [keeps?, hnone, Option.bind_none]
  · cases k with
    | announcement => simp [keeps?, hc']
    | hand t' => simp [keeps?, hh]
    | answer t' => simp [keeps?, hr]
    | withdrawal t' =>
      simp only [keeps?, hw, bind_assign_eq, Keeper.withdrawal.injEq, reduceCtorEq, if_false, hc]
      split <;> rfl

/-- A task has the registration withdrawn that it has in hand. -/
theorem givenBack {t : Nat} {registration : Registration}
    (hh : s.inHand? t = some registration)
    (hh' : ∀ t', s'.inHand? t' = if t' = t then none else s.inHand? t')
    (hl : s'.registry.lastId = s.registry.lastId)
    (hc : s'.announcer.registration? = s.announcer.registration?)
    (hr : s'.registers = s.registers) (hnone : s.withdrawals t = none)
    (hw : s'.withdrawals = assign s.withdrawals t (some (.requested registration.id))) :
    Hands prompt s s' := by
  refine .passed (.hand t) (.withdrawal t) hl ?_ fun k => ?_
  · rw [keeps?, hnone, Option.bind_none]
  · cases k with
    | announcement => simp [keeps?, hc]
    | hand t' =>
      simp only [keeps?, hh', Keeper.hand.injEq, reduceCtorEq, if_false]
      split <;> rfl
    | answer t' => simp [keeps?, hr]
    | withdrawal t' =>
      simp only [keeps?, hw, bind_assign_eq, Keeper.withdrawal.injEq, reduceCtorEq, if_false, hh]
      split <;> rfl

/-- The announcement's registration is forgotten. -/
theorem forgot (hh : ∀ t, s'.inHand? t = s.inHand? t)
    (hl : s'.registry.lastId = s.registry.lastId)
    (hc : ∀ registration, s.announcer.registration? = some registration →
      ∃ announcement, s.Doomed announcement registration)
    (hc' : s'.announcer.registration? = none) (hr : s'.registers = s.registers)
    (hw : s'.withdrawals = s.withdrawals) : Hands prompt s s' := by
  refine .stay hl fun k => ?_
  cases k with
  | announcement =>
    refine .inr ⟨by rw [keeps?, hc', Option.map_none], fun _ id hid => .inl ?_⟩
    obtain ⟨registration, hsome, rfl⟩ := Option.map_eq_some_iff.1 hid
    obtain ⟨announcement, hdoomed⟩ := hc registration hsome
    exact ⟨announcement, registration, hdoomed, rfl⟩
  | hand t' => exact .inl (by rw [keeps?, keeps?, hh])
  | answer t' => exact .inl (by rw [keeps?, keeps?, hr])
  | withdrawal t' => exact .inl (by rw [keeps?, keeps?, hw])

end Hands

open Announcer

theorem gained?_of_record? {call : RegisterCall} {record : ServiceRecord}
    (h : call.record? = some record) : call.gained? = none := by
  cases call with
  | answered => cases h
  | delayed | requested | stalled | admitted => rfl

theorem registration?_of_current {a : Announcer} {announcement : Announcement}
    (h : a.current = some announcement) : a.registration? = announcement.registration := by
  rw [Announcer.registration?, h, Option.bind_some]

/-- A task that is started has nothing in hand. -/
theorem inHand?_spawn (ho : Orderly s) {x : AnnouncerTask} (hx : x.inHand? = none) (t : Nat) :
    ((s.announcer.spawn x).1.tasks.get? t).bind AnnouncerTask.inHand? = s.inHand? t := by
  have hget : (s.announcer.spawn x).1.tasks.get? t = _ := s.announcer.tasks.get?_put _ t x
  rw [hget]
  split
  · rename_i ht
    rw [ht, inHand?, ho.next, Option.bind_some, hx, Option.bind_none]
  · rfl

/-- A step hands at most one registration over. -/
theorem Step.hands (ho : Orderly s) (hcoh : Coherent s.announcer) (htended : Tended s.announcer)
    (h : s.Step prompt s') : Hands prompt s s' := by
  cases h with
  -- Nothing changes hands.
  | script hsame => exact .same hsame.2.1 rfl (fun _ => rfl) (fun _ => rfl) fun _ => rfl
  | restart | join => exact .same rfl rfl (fun _ => rfl) (fun _ => rfl) fun _ => rfl
  | start hx =>
    exact .same rfl rfl (inHand?_spawn ho (by cases hx <;> rfl)) (fun _ => rfl) fun _ => rfl
  | advance hx ha =>
    cases ha with
    | handed | noticed | rested =>
      exact .moved (.outside hx rfl get?_setTask rfl rfl) rfl rfl rfl rfl (fun _ => rfl) rfl
  | @quit t x a hx hq ha =>
    have hempty : x.inHand? = none := by cases hq <;> rfl
    rcases ha with rfl | ⟨hw, rfl⟩
    · exact .moved (.inside hx get?_endTask rfl rfl) hempty rfl rfl rfl (fun _ => rfl) rfl
    · exact .moved (.outside hx hw get?_endTask rfl rfl) hempty rfl rfl rfl (fun _ => rfl) rfl
  -- A task ends, and with it whatever it still had.
  | leave hx hl hsettles =>
    cases hl with
    | registering | returning =>
      exact .ended (.outside hx rfl get?_endTask rfl rfl) rfl rfl rfl rfl
        fun hp => ⟨rfl, hsettles hp⟩
  -- Requests that tell of no registration, before the step or after it.
  | ask hx ha hcall =>
    have hnone : (some _ : Option RegisterCall).bind RegisterCall.gained? = none :=
      gained?_of_record? hcall
    cases ha with
    | announce | supervise =>
      refine .moved (.outside hx rfl get?_setTask rfl rfl) rfl rfl rfl rfl
        (bind_assign (hnone.trans ?_)) rfl
      rw [ho.registers_eq_none hx rfl, Option.bind_none]
  | progress hcall hgained hgained' _ hsame =>
    refine .same hsame.2.1 rfl (fun _ => rfl) (bind_assign ?_) fun _ => rfl
    rw [hcall, Option.bind_some, Option.bind_some, hgained, hgained']
  | @commit t due lag record fullName hcall =>
    refine .fresh (.answer t) rfl ?_ fun k => ?_
    · rw [keeps?, hcall]
      rfl
    · cases k with
      | announcement | hand | withdrawal => rfl
      | answer t' =>
        simp only [keeps?, bind_assign_eq, Keeper.answer.injEq]
        split <;> rfl
  | fail hx hcall hf =>
    cases hf with
    | collision | again =>
      refine .moved (.outside hx rfl get?_setTask rfl rfl) rfl rfl rfl rfl (bind_assign ?_) rfl
      rw [hcall]
      rfl
  | refuse hx hcall =>
    refine .moved (.outside hx rfl get?_endTask rfl rfl) rfl rfl rfl rfl (bind_assign ?_) rfl
    rw [hcall]
    rfl
  | claim hx =>
    exact .moved (.inside hx get?_setTask rfl rfl) rfl rfl rfl rfl (fun _ => rfl) rfl
  -- What is announced has no registration.
  | takeLost hx _ hc hlost =>
    refine .moved (.inside hx (get?_stopSupervisor_endTask (a := s.announcer) _) rfl rfl)
      rfl rfl rfl ?_ (fun _ => rfl) rfl
    rw [registration?_of_current hc, hlost]
    rfl
  | drop hx hc hid =>
    refine .moved (.inside hx (get?_stopSupervisor_endTask (a := s.announcer) _) rfl rfl)
      rfl rfl rfl ?_ (fun _ => rfl) rfl
    rw [registration?_of_current hc, (htended.fits ho hx hc hid).2]
    rfl
  | delay hcall =>
    refine .same rfl rfl (fun _ => rfl) (fun _ => rfl) (bind_assign ?_)
    rw [hcall]
    rfl
  | released hx hsettles =>
    exact .ended (.outside hx rfl get?_endTask rfl rfl) rfl rfl rfl rfl
      fun hp => ⟨rfl, hsettles hp⟩
  | abandon hprompt hx =>
    exact .ended (.inside hx get?_endTask rfl rfl) rfl rfl rfl rfl fun hp => absurd hp hprompt
  | letGo hprompt hx hholds =>
    exact .ended (.outside hx (AnnouncerTask.awaitsLock_of_holdsLock hholds) get?_endTask rfl rfl)
      rfl rfl rfl rfl fun hp => absurd hp hprompt
  -- A registration is handed over.
  | gain hx hcall hg =>
    cases hg with
    | announce | supervise =>
      exact .gained (.outside hx rfl get?_setTask rfl rfl) rfl rfl rfl rfl hcall rfl rfl
  | @store t seen record registration hx =>
    have hhand : s.inHand? t = some registration := inHand?_of_get? hx
    refine .attached hhand (fun t' => ?_) rfl ?_ rfl rfl rfl
    · rw [inHand?, endTask, Association.get?_erase]
      split
      · rfl
      · exact inHand?_spawn ho rfl t'
    · rw [Announcer.registration?, (hcoh.claimed hx rfl).1, Option.bind_none]
  | adopt hx hc hid =>
    refine .attached (inHand?_of_get? hx) (inHand?_gone (.inside hx get?_setTask rfl rfl) rfl) rfl
      ?_ rfl rfl rfl
    rw [registration?_of_current hc]
    exact (htended.fits ho hx hc hid).2
  | take hx _ hc hregistration =>
    refine .taken (inHand?_eq_of_moved
      (.inside hx (get?_stopSupervisor_setTask (a := s.announcer) _) rfl rfl) rfl rfl) rfl ?_ rfl
      rfl (ho.withdrawals_eq_none hx rfl) rfl
    rw [registration?_of_current hc, hregistration]
  | giveBack hx =>
    exact .givenBack (inHand?_of_get? hx) (inHand?_gone (.inside hx get?_setTask rfl rfl) rfl) rfl
      rfl rfl (ho.withdrawals_eq_none hx rfl) rfl
  | forget hx hc hid =>
    refine .forgot (inHand?_eq_of_moved (.inside hx get?_setTask rfl rfl) rfl rfl) rfl
      (fun registration hsome => ?_) rfl rfl rfl
    rw [registration?_of_current hc] at hsome
    exact ⟨_, hc, hsome, _, _, _, hid ▸ hx⟩
  | @unregister t id call hcall hpending =>
    -- The request is done with, as the directory has lost the registration.
    refine .stay rfl fun k => ?_
    cases k with
    | announcement | hand | answer => exact .inl rfl
    | withdrawal t' =>
      simp only [keeps?, bind_assign_eq]
      by_cases ht : t' = t
      · subst ht
        refine .inr ⟨by simp [WithdrawCall.pending?], fun _ id' hid => .inr ?_⟩
        rw [hcall, Option.bind_some, hpending] at hid
        obtain rfl := Option.some.inj hid
        exact s.registry.registrations.get?_erase_self id
      · exact .inl (if_neg ht)

/-- The directory gets at most one registration, under a new number. -/
theorem Step.stock {id : Nat} (hs : s.Step prompt s')
    (h : s'.registry.registrations.get? id ≠ none) :
    s.registry.registrations.get? id ≠ none ∨
      (id = s.registry.lastId + 1 ∧ s'.registry.lastId = s.registry.lastId + 1) := by
  cases hs with
  | script hsame | progress _ _ _ _ hsame => exact .inl (hsame.1 ▸ h)
  | restart => exact absurd rfl h
  | commit =>
    by_cases hid : id = s.registry.lastId + 1
    · exact .inr ⟨hid, rfl⟩
    · exact .inl (s.registry.registrations.get?_put_of_ne _ hid ▸ h)
  | unregister =>
    refine .inl fun hnone => h ?_
    rw [Registry.unregister, Association.get?_erase, hnone, ite_self]
  | _ => exact .inl h

/-- What was kept before a step and is held after it was held before. -/
theorem Owned.held_of_step {k : Keeper} {id : Nat} (h : Owned s) (hs : s.Step prompt s')
    (hk : s.keeps? k = some id) (hheld : s'.registry.registrations.get? id ≠ none) :
    s.registry.registrations.get? id ≠ none := by
  rcases hs.stock hheld with hwas | ⟨rfl, -⟩
  · exact hwas
  · exact absurd (h.old hk) (Nat.not_succ_le_self _)

theorem Owned.step (h : Owned s) (ho : Orderly s) (hcoh : Coherent s.announcer)
    (htended : Tended s.announcer) (hs : s.Step prompt s') : Owned s' :=
  h.hands (hs.hands ho hcoh htended)

end Scene

end ServiceDiscovery
