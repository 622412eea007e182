import ServiceDiscovery.Proofs.Announcer.Attempt

/-!
# What failed announces leave behind

Beside announcers that share a directory stands a `World.Journal`: at the request of which
task each registration was made, and which announces were refused.

An announce makes one request at most, and is refused only if nothing was made at it
(`Scene.Unanswered`). So no registration is that of an announce that was refused, then or
later (`World.Journal.Right`). Main statement: an announce that ends with an error, or is
given up, is as if it had not been made (`failed_announce_leaves_nothing`), up to a
registration that the directory may have made for one that was given up.
-/

namespace ServiceDiscovery

/-- The announce that is refused. -/
def AnnouncerEffect.refused? : AnnouncerEffect → Option Nat
  | ended t (.refused _) => some t
  | _ => none

namespace Scene

/-- An announce that the directory has made no registration for. -/
structure Unanswered (s : Scene) (t : Nat) : Prop where
  task : ∃ record stage, s.announcer.tasks.get? t = some (.announce record stage) ∧
    (AnnouncerTask.announce record stage).inHand? = none
  answer : (s.registers t).bind RegisterCall.gained? = none

/-- What becomes of the tasks of a scene: those that ended do not come back, and an announce
    that has no registration had none before. -/
structure Onward (s s' : Scene) : Prop where
  nextTask : s.announcer.nextTask ≤ s'.announcer.nextTask
  gone : ∀ {t}, t < s.announcer.nextTask → s.announcer.tasks.get? t = none →
    s'.announcer.tasks.get? t = none
  unanswered : ∀ {t}, t < s.announcer.nextTask → s'.Unanswered t → s.Unanswered t

open Announcer AnnouncerTask

variable {s s' s'' : Scene} {prompt : Prop} {t : Nat}

namespace Unanswered

/-- Another task goes on or ends, or the announce itself, which had no registration either. -/
theorem moved (h : s'.Unanswered t) {t₀ : Nat} {x : AnnouncerTask} {y : Option AnnouncerTask}
    {stopped : Option Nat} (hx : s.announcer.tasks.get? t₀ = some x)
    (htasks : ∀ t', s'.announcer.tasks.get? t' =
      if t' = t₀ then y else (s.announcer.tasks.get? t').map (AnnouncerTask.told stopped))
    (hregisters : ∀ t', t' ≠ t₀ → s'.registers t' = s.registers t')
    (hself : ∀ record stage, y = some (.announce record stage) →
      (AnnouncerTask.announce record stage).inHand? = none →
      (∃ record stage, x = .announce record stage) ∧ x.asked? = none ∧ x.inHand? = none)
    (ho : Orderly s) : s.Unanswered t := by
  obtain ⟨record, stage, hz, hhand⟩ := h.task
  rw [htasks] at hz
  split at hz
  · rename_i ht
    subst ht
    obtain ⟨⟨record₀, stage₀, rfl⟩, hasked, hhand₀⟩ := hself record stage hz hhand
    refine ⟨⟨record₀, stage₀, hx, hhand₀⟩, ?_⟩
    rw [ho.registers_eq_none hx hasked]
    rfl
  · rename_i hne
    obtain ⟨z, hz₀, htold⟩ := Option.map_eq_some_iff.1 hz
    exact ⟨⟨record, stage, eq_announce_of_told htold ▸ hz₀, hhand⟩, hregisters t hne ▸ h.answer⟩

/-- The task that goes on or ends is no announce, or goes on as none. -/
theorem aside (h : s'.Unanswered t) {t₀ : Nat} {x : AnnouncerTask} {y : Option AnnouncerTask}
    {stopped : Option Nat} (hx : s.announcer.tasks.get? t₀ = some x)
    (htasks : ∀ t', s'.announcer.tasks.get? t' =
      if t' = t₀ then y else (s.announcer.tasks.get? t').map (AnnouncerTask.told stopped))
    (hregisters : ∀ t', t' ≠ t₀ → s'.registers t' = s.registers t')
    (hy : ∀ record stage, y ≠ some (.announce record stage)) (ho : Orderly s) :
    s.Unanswered t :=
  h.moved hx htasks hregisters (fun record stage he => absurd he (hy record stage)) ho

end Unanswered

/-- An announce that has no registration after a step had none before. -/
theorem Step.unanswered (hs : s.Step prompt s') (ho : Orderly s) (ht : t < s.announcer.nextTask)
    (h : s'.Unanswered t) : s.Unanswered t := by
  have hassign {α : Type} (f : Nat → Option α) (t₀ : Nat) (value : Option α) (t' : Nat)
      (hne : t' ≠ t₀) : assign f t₀ value t' = f t' := if_neg hne
  have hsame {α : Type} (f : Nat → Option α) (t₀ t' : Nat) (_ : t' ≠ t₀) : f t' = f t' := rfl
  cases hs with
  | script | restart | delay | unregister | join => exact ⟨h.task, h.answer⟩
  | start =>
    obtain ⟨record, stage, hz, hhand⟩ := h.task
    have hne : t ≠ s.announcer.nextTask := Nat.ne_of_lt ht
    exact ⟨⟨record, stage, (Association.get?_put_of_ne _ _ hne).symm.trans hz, hhand⟩, h.answer⟩
  | @progress t₀ call call' registry hcall hgained =>
    refine ⟨h.task, ?_⟩
    by_cases hself : t = t₀
    · rw [hself, hcall]
      exact hgained
    · exact hassign s.registers t₀ (some call') t hself ▸ h.answer
  | @commit t₀ =>
    refine ⟨h.task, ?_⟩
    by_cases hself : t = t₀
    · -- The announce has its answer now.
      have hanswer := h.answer
      rw [hself] at hanswer
      simp [assign, RegisterCall.gained?] at hanswer
    · exact hassign s.registers t₀ _ t hself ▸ h.answer
  | advance hx ha =>
    cases ha <;> exact h.aside hx get?_setTask (hsame _ _) (by simp) ho
  | quit hx _ ha =>
    rcases ha with rfl | ⟨-, rfl⟩ <;> exact h.aside hx get?_endTask (hsame _ _) (by simp) ho
  | leave hx | refuse hx | released hx | abandon _ hx | letGo _ hx =>
    exact h.aside hx get?_endTask (hassign _ _ _) (by simp) ho
  | ask hx ha =>
    refine h.moved hx get?_setTask (hassign _ _ _) (fun record stage he _ => ?_) ho
    cases ha with
    | announce => exact ⟨⟨_, _, rfl⟩, rfl, rfl⟩
    | supervise => cases he
  | gain hx _ ha =>
    refine h.moved hx get?_setTask (hassign _ _ _) (fun record stage he hhand => ?_) ho
    cases ha with
    | announce =>
      cases he
      cases hhand
    | supervise => cases he
  | fail hx _ ha =>
    cases ha <;> exact h.aside hx get?_setTask (hassign _ _ _) (by simp) ho
  | claim hx =>
    exact h.moved hx get?_setTask (hsame _ _) (fun _ _ _ _ => ⟨⟨_, _, rfl⟩, rfl, rfl⟩) ho
  | @store t₀ =>
    obtain ⟨record, stage, hz, hhand⟩ := h.task
    replace hz : ((s.announcer.tasks.put s.announcer.nextTask _).erase t₀).get? t =
      some (.announce record stage) := hz
    rw [Association.get?_erase, Association.get?_put_of_ne _ _ (Nat.ne_of_lt ht)] at hz
    split at hz
    · cases hz
    · exact ⟨⟨record, stage, hz, hhand⟩, h.answer⟩
  | takeLost hx | drop hx =>
    exact h.aside hx (get?_stopSupervisor_endTask (a := s.announcer) _) (hsame _ _) (by simp) ho
  | take hx =>
    exact h.aside hx (get?_stopSupervisor_setTask (a := s.announcer) _) (hsame _ _) (by simp) ho
  | forget hx | adopt hx | giveBack hx =>
    exact h.aside hx get?_setTask (hsame _ _) (by simp) ho

namespace Onward

theorem refl (s : Scene) : Onward s s :=
  ⟨Nat.le_refl _, fun _ h => h, fun _ h => h⟩

theorem step (h : Onward s s') (ho : Orderly s') (hs : s'.Step prompt s'') : Onward s s'' := by
  have hshape := hs.shape
  have hnext : s'.announcer.nextTask ≤ s''.announcer.nextTask := by
    cases hshape with
    | still ha => exact ha ▸ Nat.le_refl _
    | join _ _ he => exact he ▸ Nat.le_refl _
    | start _ he => exact he ▸ Nat.le_succ _
    | moved hm => exact Nat.le_of_eq hm.nextTask.symm
    | stored _ _ _ hn => exact hn ▸ Nat.le_succ _
  refine ⟨Nat.le_trans h.nextTask hnext, fun {t} ht hnone => ?_, fun {t} ht hu => ?_⟩
  · have hgone := h.gone ht hnone
    have hold := Nat.lt_of_lt_of_le ht h.nextTask
    cases hshape with
    | still ha => exact ha ▸ hgone
    | join _ _ he => exact he ▸ hgone
    | start _ he =>
      subst he
      exact (Association.get?_put_of_ne _ _ (Nat.ne_of_lt hold)).trans hgone
    | @moved t₀ x y stopped hm =>
      have hne : t ≠ t₀ := by
        rintro rfl
        cases hgone.symm.trans hm.was
      rw [hm.get?_of_ne hne, hgone]
      rfl
    | stored _ htasks =>
      rw [htasks, if_neg (Nat.ne_of_lt hold), hgone, ite_self]
  · exact h.unanswered ht (hs.unanswered ho (Nat.lt_of_lt_of_le ht h.nextTask) hu)

/-- Nothing else matters than the announcer and its requests. -/
theorem congr (h : Onward s s') (ha : s''.announcer = s'.announcer)
    (hr : s''.registers = s'.registers) : Onward s s'' where
  nextTask := ha ▸ h.nextTask
  gone ht hnone := ha ▸ h.gone ht hnone
  unanswered ht hu := h.unanswered ht ⟨ha ▸ hu.task, hr ▸ hu.answer⟩

end Onward

end Scene

namespace World

/-- The signal that a task takes in an action. -/
def signalled? (w : World) (name : String) : AnnouncerAction → Option (Nat × AnnouncerSignal)
  | .proceed t => some (t, .proceed)
  | .stop t => some (t, .stopped)
  | .expire t => some (t, .expired)
  | .register t =>
    ((w.registerCalls.get? ⟨name, t⟩).bind (·.result? w.now)).map fun result =>
      (t, .registered result)
  | .unregister t =>
    if w.withdrawCalls.get? ⟨name, t⟩ = some .answered then some (t, .withdrawn) else none
  | _ => none

/-- What an announcer does outside as one of its tasks takes a signal. -/
def does (w : World) (name : String) (action : AnnouncerAction) : List AnnouncerEffect :=
  match w.signalled? name action with
  | some (t, signal) =>
    (((w.announcer name).step? w.announcerView t signal).map Prod.snd).getD []
  | none => []

/-- What is noted of announcers that share a directory. -/
structure Journal where
  /-- The tasks at whose requests the registrations were made. -/
  maker : Association Nat TaskRef := .empty
  /-- The announces that were refused. -/
  refused : List TaskRef := []

/-- The journal after one more action. -/
def Journal.after (j : Journal) (w w' : World) (name : String) (action : AnnouncerAction) :
    Journal where
  maker :=
    match action with
    | .register t =>
      if w.registry.lastId < w'.registry.lastId then j.maker.put w'.registry.lastId ⟨name, t⟩
      else j.maker
    | _ => j.maker
  refused :=
    j.refused ++ ((w.does name action).filterMap AnnouncerEffect.refused?).map (TaskRef.mk name)

/-- The networks in which announcers that share a directory may find themselves, with the
    journal. -/
inductive Journaled (settings : Association String AnnouncerSettings) : World → Journal → Prop
  | start : Journaled settings (withAnnouncers settings) {}
  | step {w w' : World} {j : Journal} {name : String} {action : AnnouncerAction} :
      Journaled settings w j → w.act? name action = some w' →
      Journaled settings w' (j.after w w' name action)

/-- The network and the journal after a series of actions, each of an announcer, if they could
    happen. -/
def journalAll? (w : World) (j : Journal) :
    List (String × AnnouncerAction) → Option (World × Journal)
  | [] => some (w, j)
  | (name, action) :: actions =>
    (w.act? name action).bind fun w' => w'.journalAll? (j.after w w' name action) actions

variable {settings : Association String AnnouncerSettings} {w w' : World} {j j' : Journal}
  {name : String} {action : AnnouncerAction} {t : Nat} {record : ServiceRecord}
  {stage : AnnounceStage}

theorem Journaled.journalAll {actions : List (String × AnnouncerAction)}
    (h : Journaled settings w j) (hw : w.journalAll? j actions = some (w', j')) :
    Journaled settings w' j' := by
  induction actions generalizing w j with
  | nil =>
    obtain ⟨rfl, rfl⟩ := Prod.mk.inj (Option.some.inj hw)
    exact h
  | cons head actions ih =>
    obtain ⟨w₁, hfirst, hrest⟩ := Option.bind_eq_some_iff.1 hw
    exact ih (h.step hfirst) hrest

theorem Journaled.sharing (h : Journaled settings w j) : Sharing settings w := by
  induction h with
  | start => exact .start
  | step _ hw ih => exact ih.step hw

open Scene

/-! ## Tasks -/

/-- What an action makes of the tasks of any announcer. -/
theorem onward_of_act (h : Sharing settings w) (hw : w.act? name action = some w') (n : String) :
    Onward (w.scene n) (w'.scene n) := by
  by_cases hn : n = name
  · subst hn
    exact (@Scene.Step.act w w' n action (fun s => Upright s ∧ Onward (w.scene n) s)
      (fun _ _ h hs => ⟨h.1.step hs, h.2.step h.1.order hs⟩) ⟨h.upright n, .refl _⟩ hw).2
  · have haside := aside_of_act hn hw
    have hr : (w'.scene n).registers = (w.scene n).registers := funext haside.registers
    rcases haside.announcer with ha | ⟨id, ha⟩
    · exact (Onward.refl (w.scene n)).congr ha hr
    · have hstart : (w.scene n).Step False
          { w.scene n with
            announcer := ((w.announcer n).spawn (.release (some id) .taking)).1 } :=
        .start .taking
      exact ((Onward.refl (w.scene n)).step (h.upright n).order hstart).congr ha hr

/-! ## Registrations -/

/-- The directory makes a registration at the request of a task. -/
structure Commits (w w' : World) (ref : TaskRef) : Prop where
  admitted : ∃ record lag, w.registerCalls.get? ref = some (.admitted record lag)
  answered : ∃ registration due, w'.registerCalls.get? ref = some (.answered (.ok registration) due)
  lastId : w'.registry.lastId = w.registry.lastId + 1
  registrations : ∀ {id}, id ≠ w'.registry.lastId →
    w'.registry.registrations.get? id = w.registry.registrations.get? id

theorem registry_applyEffect (name : String) (w : World) (effect : AnnouncerEffect) :
    (applyEffect name w effect).registry = w.registry := by
  cases effect with
  | register | withdraw | forgo => rfl
  | drop id => rw [applyEffect, dropHandle_frame]
  | ended t result =>
    cases result with
    | announced | refused | released | unattended =>
      simp only [applyEffect]
      rw [conclude_frame]

theorem registry_afterAnnouncer (name : String) (w : World) (stepped : Announcer.Stepped) :
    (w.afterAnnouncer name stepped).registry = w.registry := by
  obtain ⟨a, effects⟩ := stepped
  have heffects (w : World) : (effects.foldl (applyEffect name) w).registry = w.registry := by
    induction effects generalizing w with
    | nil => rfl
    | cons effect effects ih => exact (ih _).trans (registry_applyEffect name w effect)
  exact heffects _

theorem registry_signal {signal : AnnouncerSignal} (h : w.signal? ⟨name, t⟩ signal = some w') :
    w'.registry = w.registry := by
  obtain ⟨stepped, -, rfl⟩ := signal?_eq_some h
  exact registry_afterAnnouncer ..

theorem registry_abortTask (w : World) (ref : TaskRef) :
    (w.abortTask ref).registry = w.registry := by
  rw [abortTask, conclude_frame]
  exact registry_afterAnnouncer ..

/-- The request of a task leaves the stock of the directory, or a registration is made at it. -/
theorem commits_of_register (h : w.stepRegisterCall? ⟨name, t⟩ = some w') :
    SameStock w.registry w'.registry ∨ w.Commits w' ⟨name, t⟩ := by
  obtain ⟨call, hcall, h⟩ := Option.bind_eq_some_iff.1 h
  split at h
  · rw [registry_signal h]
    exact .inl ⟨rfl, rfl, rfl⟩
  · obtain ⟨⟨registry, call'⟩, hadvance, rfl⟩ := Option.map_eq_some_iff.1 h
    cases call with
    | stalled | answered => cases hadvance
    | delayed record moment =>
      obtain ⟨-, hmoved⟩ := Option.ite_none_right_eq_some.1 hadvance
      obtain ⟨rfl, rfl⟩ := Prod.mk.inj (Option.some.inj hmoved)
      exact .inl ⟨rfl, rfl, rfl⟩
    | requested record lag =>
      obtain ⟨rfl, rfl⟩ := Prod.mk.inj (Option.some.inj hadvance)
      exact .inl w.registry.sameStock_accept
    | admitted record lag =>
      rw [RegisterCall.advance?] at hadvance
      rcases w.registry.commit_cases record with ⟨r, error, hcommit, hsame⟩ | ⟨fullName, hcommit⟩
      · rw [hcommit] at hadvance
        obtain ⟨rfl, rfl⟩ := Prod.mk.inj (Option.some.inj hadvance)
        exact .inl hsame
      · rw [hcommit] at hadvance
        obtain ⟨rfl, rfl⟩ := Prod.mk.inj (Option.some.inj hadvance)
        exact .inr ⟨⟨record, lag, hcall⟩, ⟨_, _, Association.get?_put_self ..⟩, rfl,
          fun hne => Association.get?_put_of_ne _ _ hne⟩

/-- In an action the directory makes a registration at the request of a task, or none. -/
theorem commits_of_act (hw : w.act? name action = some w') :
    (w'.registry.lastId = w.registry.lastId ∧
      ∀ {id}, w'.registry.registrations.get? id ≠ none →
        w.registry.registrations.get? id ≠ none) ∨
    ∃ t, action = .register t ∧ w.Commits w' ⟨name, t⟩ := by
  have hsame (he : w'.registry = w.registry) :
      w'.registry.lastId = w.registry.lastId ∧
        ∀ {id}, w'.registry.registrations.get? id ≠ none →
          w.registry.registrations.get? id ≠ none :=
    he ▸ ⟨rfl, fun h => h⟩
  have herased (id : Nat) {id' : Nat}
      (hheld : (w.registry.unregister id).registrations.get? id' ≠ none) :
      w.registry.registrations.get? id' ≠ none := fun hnone => hheld <| by
    rw [Registry.unregister, Association.get?_erase, hnone, ite_self]
  cases action with
  | announce | withdraw | shutdown | lag | wait =>
    obtain rfl := Option.some.inj hw
    exact .inl (hsame rfl)
  | dropHandle id =>
    obtain rfl := Option.some.inj hw
    exact .inl (hsame (by rw [dropHandle_frame]))
  | proceed | stop | expire => exact .inl (hsame (registry_signal hw))
  | register t =>
    rcases commits_of_register hw with ⟨hregistrations, hlast, -⟩ | hcommits
    · exact .inl ⟨hlast, fun h => hregistrations ▸ h⟩
    · exact .inr ⟨t, rfl, hcommits⟩
  | unregister t =>
    obtain ⟨call, -, hw⟩ := Option.bind_eq_some_iff.1 hw
    split at hw
    · have he := registry_signal hw
      exact .inl (hsame he)
    · obtain ⟨⟨registry, call'⟩, hadvance, rfl⟩ := Option.map_eq_some_iff.1 hw
      cases call with
      | answered => cases hadvance
      | requested id =>
        rw [WithdrawCall.advance?] at hadvance
        split at hadvance
        · obtain ⟨rfl, rfl⟩ := Prod.mk.inj (Option.some.inj hadvance)
          exact .inl ⟨rfl, fun h => h⟩
        · obtain ⟨rfl, rfl⟩ := Prod.mk.inj (Option.some.inj hadvance)
          exact .inl ⟨rfl, herased id⟩
      | delayed id moment =>
        obtain ⟨-, hmoved⟩ := Option.ite_none_right_eq_some.1 hadvance
        obtain ⟨rfl, rfl⟩ := Prod.mk.inj (Option.some.inj hmoved)
        exact .inl ⟨rfl, herased id⟩
  | abort t =>
    obtain rfl := Option.some.inj hw
    exact .inl (hsame (registry_abortTask ..))
  | change change =>
    obtain rfl := Option.some.inj hw
    cases change with
    | restart => exact .inl ⟨rfl, fun h => absurd rfl h⟩
    | failRegisters | stallRegisters | collide | clearCollision | delayWithdraw =>
      exact .inl ⟨rfl, fun h => h⟩

/-! ## Refusals -/

end World

namespace Announcer

variable {a : Announcer} {view : AnnouncerView} {t : Nat} {signal : AnnouncerSignal}
  {stepped : Stepped}

/-- What is refused is an announce, which ends. It has nothing in hand, and either asked for
    nothing yet or was answered with an error. -/
structure Refuses (a : Announcer) (t : Nat) (signal : AnnouncerSignal) (stepped : Stepped) :
    Prop where
  task : ∃ record stage, a.tasks.get? t = some (.announce record stage) ∧
    (AnnouncerTask.announce record stage).inHand? = none ∧
    ((AnnouncerTask.announce record stage).asked? = none ∨
      ∃ error, signal = .registered (.error error))
  ended : stepped.1.tasks.get? t = none

theorem refused?_of_guarded {act : Announcer → Stepped} (h : a.guarded t act = some stepped)
    (hact : ∀ a, ∀ effect ∈ (act a).2, effect.refused? = none) :
    ∀ effect ∈ stepped.2, effect.refused? = none := by
  rcases guarded_eq_some h with ⟨-, rfl⟩ | ⟨-, rfl⟩
  · exact hact _
  · exact fun _ hm => absurd hm List.not_mem_nil

theorem refused?_of_stepRelease {target : Option Nat} {stage : ReleaseStage}
    (h : a.stepRelease view t target stage signal = some stepped) :
    ∀ effect ∈ stepped.2, effect.refused? = none := by
  unfold stepRelease at h
  split at h
  case h_2 =>
    refine refused?_of_guarded h fun a => ?_
    rw [take]
    split
    · simp [finish, AnnouncerEffect.refused?]
    · dsimp only
      split <;> simp [finish, AnnouncerEffect.refused?]
  all_goals grind [released, finishForgoing, AnnouncerEffect.refused?]

theorem refused?_of_stepSupervise {id seen : Nat} {cancelled : Bool} {stage : SuperviseStage}
    (h : a.stepSupervise view t id seen cancelled stage signal = some stepped) :
    ∀ effect ∈ stepped.2, effect.refused? = none := by
  cases supervises_of_stepSupervise h with
  | noticed | registered => exact fun _ hm => absurd hm List.not_mem_nil
  | goes _ _ _ _ heffects =>
    rcases heffects with rfl | ⟨_, rfl⟩ <;> simp [AnnouncerEffect.refused?]
  | ends _ _ heffects =>
    rcases heffects with rfl | rfl <;> simp [AnnouncerEffect.refused?]
  | forgets h =>
    refine refused?_of_guarded h fun a => ?_
    rw [forget]
    split <;> simp [finish, AnnouncerEffect.refused?]
  | drops h => exact refused?_of_guarded h fun a => by simp [drop, finish, AnnouncerEffect.refused?]
  | adopts h =>
    refine refused?_of_guarded h fun a => ?_
    rw [adopt]
    split <;> simp [AnnouncerEffect.refused?]

/-- A step refuses its own task only. -/
theorem refuses_of_step? (h : a.step? view t signal = some stepped) {effect : AnnouncerEffect}
    {t' : Nat} (hm : effect ∈ stepped.2) (hrefused : effect.refused? = some t') :
    t' = t ∧ Refuses a t signal stepped := by
  unfold step? at h
  split at h
  · cases h
  · rename_i record stage hx
    cases announces_of_stepAnnounce h with
    | faulty | late =>
      obtain rfl := List.mem_singleton.1 hm
      exact ⟨(Option.some.inj hrefused).symm, ⟨record, _, hx, rfl, .inl rfl⟩,
        Association.get?_erase_self ..⟩
    | fails =>
      obtain rfl := List.mem_singleton.1 hm
      exact ⟨(Option.some.inj hrefused).symm, ⟨record, _, hx, rfl, .inr ⟨_, rfl⟩⟩,
        Association.get?_erase_self ..⟩
    | joins | claims | hears => cases hm
    | asks | stores =>
      obtain rfl := List.mem_singleton.1 hm
      cases hrefused
  · cases (refused?_of_stepRelease h _ hm).symm.trans hrefused
  · cases (refused?_of_stepSupervise h _ hm).symm.trans hrefused

end Announcer

namespace World

variable {settings : Association String AnnouncerSettings} {w w' : World} {j j' : Journal}
  {name : String} {action : AnnouncerAction} {t : Nat} {record : ServiceRecord}
  {stage : AnnounceStage}

open Scene

/-- A network is another but for the requests of a task. -/
structure ButFor (w w₀ : World) (ref : TaskRef) : Prop where
  announcer : ∀ n, w₀.announcer n = w.announcer n
  registry : w₀.registry = w.registry
  calls : ∀ {ref'}, ref' ≠ ref → w₀.registerCalls.get? ref' = w.registerCalls.get? ref' ∧
    w₀.withdrawCalls.get? ref' = w.withdrawCalls.get? ref'

/-- A task that takes a signal in an action takes a step. -/
theorem step?_of_signalled {signal : AnnouncerSignal}
    (hsignal : w.signalled? name action = some (t, signal)) (hw : w.act? name action = some w') :
    ∃ stepped, (w.announcer name).step? w.announcerView t signal = some stepped ∧
      ∃ w₀, w.ButFor w₀ ⟨name, t⟩ ∧ w' = w₀.afterAnnouncer name stepped := by
  cases action with
  | announce | withdraw | shutdown | dropHandle | abort | change | lag | wait => cases hsignal
  | proceed | stop | expire =>
    cases hsignal
    obtain ⟨stepped, hstep, rfl⟩ := signal?_eq_some hw
    exact ⟨stepped, hstep, w, ⟨fun _ => rfl, rfl, fun _ => ⟨rfl, rfl⟩⟩, rfl⟩
  | register t' =>
    obtain ⟨call, hcall, hw⟩ := Option.bind_eq_some_iff.1 hw
    rw [signalled?, hcall, Option.bind_some] at hsignal
    obtain ⟨result, hresult, he⟩ := Option.map_eq_some_iff.1 hsignal
    cases he
    rw [hresult] at hw
    obtain ⟨stepped, hstep, rfl⟩ := signal?_eq_some hw
    refine ⟨stepped, hstep, _, ?_, rfl⟩
    exact ⟨fun _ => rfl, rfl, fun hne => ⟨Association.get?_erase_of_ne _ hne, rfl⟩⟩
  | unregister t' =>
    obtain ⟨hcall, he⟩ := Option.ite_none_right_eq_some.1 hsignal
    cases he
    rw [act?, stepWithdrawCall?, hcall, Option.bind_some, if_pos rfl] at hw
    obtain ⟨stepped, hstep, rfl⟩ := signal?_eq_some hw
    refine ⟨stepped, hstep, _, ?_, rfl⟩
    exact ⟨fun _ => rfl, rfl, fun hne => ⟨rfl, Association.get?_erase_of_ne _ hne⟩⟩

/-- The answer that a task takes has arrived. -/
theorem registers_of_signalled {result : Except DiscoveryError Registration}
    (hsignal : w.signalled? name action = some (t, .registered result)) :
    ∃ due, w.registerCalls.get? ⟨name, t⟩ = some (.answered result due) := by
  cases action with
  | announce | withdraw | shutdown | dropHandle | abort | change | lag | wait | proceed | stop
  | expire => cases hsignal
  | unregister => cases (Option.ite_none_right_eq_some.1 hsignal).2
  | register t' =>
    obtain ⟨result', hresult, he⟩ := Option.map_eq_some_iff.1 hsignal
    cases he
    obtain ⟨call, hcall, hresult⟩ := Option.bind_eq_some_iff.1 hresult
    cases call with
    | delayed | requested | stalled | admitted => cases hresult
    | answered result' due =>
      obtain ⟨-, he⟩ := Option.ite_none_right_eq_some.1 hresult
      exact ⟨due, Option.some.inj he ▸ hcall⟩

theorem does_of_signalled {signal : AnnouncerSignal} {stepped : Announcer.Stepped}
    (hsignal : w.signalled? name action = some (t, signal))
    (hstep : (w.announcer name).step? w.announcerView t signal = some stepped) :
    w.does name action = stepped.2 := by
  rw [does, hsignal]
  dsimp only
  rw [hstep]
  rfl

theorem mem_refused_after {ref : TaskRef} :
    ref ∈ (j.after w w' name action).refused ↔ ref ∈ j.refused ∨
      ref.announcer = name ∧
        ∃ effect ∈ w.does name action, effect.refused? = some ref.task := by
  obtain ⟨n, t⟩ := ref
  simp only [Journal.after, List.mem_append, List.mem_map, List.mem_filterMap, TaskRef.mk.injEq]
  refine or_congr_right ⟨?_, ?_⟩
  · rintro ⟨t', ⟨effect, hm, hrefused⟩, rfl, rfl⟩
    exact ⟨rfl, effect, hm, hrefused⟩
  · rintro ⟨rfl, effect, hm, hrefused⟩
    exact ⟨t, ⟨effect, hm, hrefused⟩, rfl, rfl⟩

/-- An announce that is refused in an action had no registration, and ends. -/
theorem unanswered_of_refused (ho : Orderly (w.scene name)) (hw : w.act? name action = some w')
    {effect : AnnouncerEffect} (hm : effect ∈ w.does name action)
    (hrefused : effect.refused? = some t) :
    (w.scene name).Unanswered t ∧ (w'.announcer name).tasks.get? t = none := by
  cases hsignal : w.signalled? name action with
  | none =>
    rw [does, hsignal] at hm
    cases hm
  | some taken =>
    obtain ⟨t', signal⟩ := taken
    obtain ⟨stepped, hstep, w₀, hbut, rfl⟩ := step?_of_signalled hsignal hw
    rw [does_of_signalled hsignal hstep] at hm
    obtain ⟨rfl, hrefuses⟩ := Announcer.refuses_of_step? hstep hm hrefused
    obtain ⟨record, stage, hx, hhand, hasked⟩ := hrefuses.task
    refine ⟨⟨⟨record, stage, hx, hhand⟩, ?_⟩, ?_⟩
    · rcases hasked with hasked | ⟨error, rfl⟩
      · rw [ho.registers_eq_none hx hasked]
        rfl
      · obtain ⟨due, hcall⟩ := registers_of_signalled hsignal
        exact congrArg (·.bind RegisterCall.gained?) hcall
    · rw [announcer_afterAnnouncer w₀ (Lifetime.drop_not_mem hstep), if_pos rfl]
      exact hrefuses.ended

/-! ## The journal -/

/-- What the journal says is right: every registration was made for some task, and none for an
    announce that has no answer yet or was refused. -/
structure Journal.Right (j : Journal) (w : World) : Prop where
  made : ∀ {id}, w.registry.registrations.get? id ≠ none → ∃ ref, j.maker.get? id = some ref
  old : ∀ {id ref}, j.maker.get? id = some ref → id ≤ w.registry.lastId ∧
    ref.task < (w.announcer ref.announcer).nextTask
  unanswered : ∀ {id ref}, j.maker.get? id = some ref →
    ¬(w.scene ref.announcer).Unanswered ref.task
  ended : ∀ {ref}, ref ∈ j.refused → ref.task < (w.announcer ref.announcer).nextTask ∧
    (w.announcer ref.announcer).tasks.get? ref.task = none
  innocent : ∀ {id ref}, j.maker.get? id = some ref → ref ∉ j.refused

/-- In an action a registration is made and noted, and nobody refused, or none is. -/
theorem maker_after (hw : w.act? name action = some w') :
    ((j.after w w' name action).maker = j.maker ∧ w'.registry.lastId = w.registry.lastId ∧
      ∀ {id}, w'.registry.registrations.get? id ≠ none →
        w.registry.registrations.get? id ≠ none) ∨
    ∃ t, w.Commits w' ⟨name, t⟩ ∧ w.does name action = [] ∧
      (j.after w w' name action).maker = j.maker.put w'.registry.lastId ⟨name, t⟩ := by
  rcases commits_of_act hw with ⟨hlast, hkept⟩ | ⟨t, rfl, hcommits⟩
  · refine .inl ⟨?_, hlast, hkept⟩
    cases action with
    | register t => exact if_neg (Nat.not_lt_of_le (Nat.le_of_eq hlast))
    | _ => rfl
  · have hnew : w.registry.lastId < w'.registry.lastId := hcommits.lastId ▸ Nat.lt_succ_self _
    refine .inr ⟨t, hcommits, ?_, if_pos hnew⟩
    obtain ⟨record, lag, hcall⟩ := hcommits.admitted
    rw [does, signalled?, hcall]
    rfl

namespace Journal.Right

theorem start (settings : Association String AnnouncerSettings) :
    Journal.Right {} (withAnnouncers settings) :=
  ⟨fun h => absurd rfl h, fun h => (by cases h), fun h => (by cases h), fun h => (by cases h),
    fun h => (by cases h)⟩

theorem step (h : j.Right w) (hshare : Sharing settings w) (hw : w.act? name action = some w') :
    (j.after w w' name action).Right w' := by
  have honward := onward_of_act hshare hw
  have ho (n : String) := (hshare.upright n).order
  have hold {id : Nat} {ref : TaskRef} (hid : j.maker.get? id = some ref) :
      ref.task < (w'.announcer ref.announcer).nextTask ∧
        ¬(w'.scene ref.announcer).Unanswered ref.task := by
    have hlt := (h.old hid).2
    refine ⟨Nat.lt_of_lt_of_le hlt (honward _).nextTask, fun hu => ?_⟩
    exact h.unanswered hid ((honward _).unanswered hlt hu)
  have hended {ref : TaskRef} (hm : ref ∈ j.refused) :
      ref.task < (w'.announcer ref.announcer).nextTask ∧
        (w'.announcer ref.announcer).tasks.get? ref.task = none := by
    obtain ⟨hlt, hgone⟩ := h.ended hm
    exact ⟨Nat.lt_of_lt_of_le hlt (honward _).nextTask, (honward _).gone hlt hgone⟩
  rcases maker_after (j := j) hw with ⟨hmaker, hlast, hheld⟩ | ⟨t, hcommits, hdoes, hmaker⟩
  · have hrefused {n : String} {t : Nat} (hm : ⟨n, t⟩ ∈ (j.after w w' name action).refused)
        (hnew : ⟨n, t⟩ ∉ j.refused) :
        (w.scene n).Unanswered t ∧ (w'.announcer n).tasks.get? t = none := by
      obtain ⟨rfl, effect, hm, hrefused⟩ := (mem_refused_after.1 hm).resolve_left hnew
      exact unanswered_of_refused (ho n) hw hm hrefused
    refine ⟨fun hid => ?_, fun hid => ?_, fun hid => ?_, fun {ref} hm => ?_,
      fun {id ref} hid hm => ?_⟩
    · rw [hmaker]
      exact h.made (hheld hid)
    · rw [hmaker] at hid
      exact ⟨hlast ▸ (h.old hid).1, (hold hid).1⟩
    · rw [hmaker] at hid
      exact (hold hid).2
    · by_cases hwas : ref ∈ j.refused
      · exact hended hwas
      · obtain ⟨hu, hgone⟩ := hrefused hm hwas
        obtain ⟨record, stage, hx, -⟩ := hu.task
        exact ⟨Nat.lt_of_lt_of_le ((ho _).tasks hx) (honward _).nextTask, hgone⟩
    · rw [hmaker] at hid
      exact h.unanswered hid (hrefused hm (h.innocent hid)).1
  · have hrefused {ref : TaskRef} (hm : ref ∈ (j.after w w' name action).refused) :
        ref ∈ j.refused := by
      refine (mem_refused_after.1 hm).resolve_right fun ⟨_, effect, hm, _⟩ => ?_
      rw [hdoes] at hm
      cases hm
    obtain ⟨x, hx⟩ : ∃ x, (w.announcer name).tasks.get? t = some x := by
      obtain ⟨record, lag, hcall⟩ := hcommits.admitted
      obtain ⟨x, -, hx, -⟩ := (ho name).registers hcall
      exact ⟨x, hx⟩
    have hcases {id : Nat} {ref : TaskRef}
        (hid : (j.after w w' name action).maker.get? id = some ref) :
        id = w'.registry.lastId ∧ ref = ⟨name, t⟩ ∨ j.maker.get? id = some ref := by
      rw [hmaker, Association.get?_put] at hid
      split at hid
      · exact .inl ⟨‹_›, (Option.some.inj hid).symm⟩
      · exact .inr hid
    refine ⟨fun {id} hid => ?_, fun hid => ?_, fun hid => ?_, fun hm => hended (hrefused hm),
      fun hid hm => ?_⟩
    · rw [hmaker, Association.get?_put]
      split
      · exact ⟨_, rfl⟩
      · exact h.made (hcommits.registrations ‹_› ▸ hid)
    · rcases hcases hid with ⟨rfl, rfl⟩ | hid
      · exact ⟨Nat.le_refl _, Nat.lt_of_lt_of_le ((ho name).tasks hx) (honward _).nextTask⟩
      · exact ⟨Nat.le_trans (h.old hid).1 (hcommits.lastId ▸ Nat.le_succ _), (hold hid).1⟩
    · rcases hcases hid with ⟨-, rfl⟩ | hid
      · intro hu
        obtain ⟨registration, due, hcall⟩ := hcommits.answered
        cases (congrArg (·.bind RegisterCall.gained?) hcall).symm.trans hu.answer
      · exact (hold hid).2
    · rcases hcases hid with ⟨-, rfl⟩ | hid
      · cases hx.symm.trans (h.ended (hrefused hm)).2
      · exact h.innocent hid (hrefused hm)

end Journal.Right

theorem Journaled.right (h : Journaled settings w j) : j.Right w := by
  induction h with
  | start => exact .start settings
  | step h hw ih => exact ih.step h.sharing hw

/-! ## What concerns one announce alone -/

end World

/-- What is done with a task: it goes on, its requests do, or it is given up. -/
inductive AnnouncerAction.Moves (t : Nat) : AnnouncerAction → Prop
  | proceed : Moves t (.proceed t)
  | stop : Moves t (.stop t)
  | expire : Moves t (.expire t)
  | register : Moves t (.register t)
  | unregister : Moves t (.unregister t)
  | abort : Moves t (.abort t)

namespace World

/-- What happens concerns one task alone, in its announcer and in the network. -/
structure Confined (w w' : World) (j : Journal) (ref : TaskRef) : Prop where
  own : (w.announcer ref.announcer).Alone (w'.announcer ref.announcer) ref.task
  others : ∀ {n}, n ≠ ref.announcer → w'.announcer n = w.announcer n
  calls : ∀ {ref'}, ref' ≠ ref → w'.registerCalls.get? ref' = w.registerCalls.get? ref' ∧
    w'.withdrawCalls.get? ref' = w.withdrawCalls.get? ref'
  /-- No registration is gone, and those that are new were made at the request of the task. -/
  registrations : ∀ {id}, w'.registry.registrations.get? id ≠ w.registry.registrations.get? id →
    w.registry.registrations.get? id = none ∧ j.maker.get? id = some ref

variable {settings : Association String AnnouncerSettings} {w w' : World} {j j' : Journal}
  {name : String} {action : AnnouncerAction} {t : Nat} {record : ServiceRecord}
  {stage : AnnounceStage}

open Scene

theorem butFor_effects (name : String) (w : World) {effects : List AnnouncerEffect}
    (h : ∀ effect ∈ effects, effect.Tries t record) :
    w.ButFor (effects.foldl (applyEffect name) w) ⟨name, t⟩ := by
  induction effects generalizing w with
  | nil => exact ⟨fun _ => rfl, rfl, fun _ => ⟨rfl, rfl⟩⟩
  | cons effect effects ih =>
    have hrest := ih (applyEffect name w effect) fun _ hm => h _ (List.mem_cons_of_mem _ hm)
    have hfirst : w.ButFor (applyEffect name w effect) ⟨name, t⟩ := by
      cases h effect List.mem_cons_self with
      | register =>
        exact ⟨fun _ => rfl, rfl, fun hne => ⟨Association.get?_put_of_ne _ _ hne, rfl⟩⟩
      | forgo =>
        exact ⟨fun _ => rfl, rfl, fun hne =>
          ⟨Association.get?_erase_of_ne _ hne, Association.get?_erase_of_ne _ hne⟩⟩
      | refused =>
        simp only [applyEffect]
        rw [conclude_frame]
        exact ⟨fun _ => rfl, rfl, fun _ => ⟨rfl, rfl⟩⟩
    refine ⟨fun n => (hrest.announcer n).trans (hfirst.announcer n),
      hrest.registry.trans hfirst.registry, fun hne => ?_⟩
    exact ⟨(hrest.calls hne).1.trans (hfirst.calls hne).1,
      (hrest.calls hne).2.trans (hfirst.calls hne).2⟩

/-- An announce that is not announced yet goes on, or is given up. -/
theorem ButFor.confined {w₀ : World} {stepped : Announcer.Stepped} (h : w.ButFor w₀ ⟨name, t⟩)
    (halone : (w.announcer name).Alone stepped.1 t)
    (htries : ∀ effect ∈ stepped.2, effect.Tries t record) :
    Confined w (w₀.afterAnnouncer name stepped) j ⟨name, t⟩ := by
  have heffects := butFor_effects name (w₀.setAnnouncer name stepped.1) htries
  have hannouncer (n : String) : (w₀.afterAnnouncer name stepped).announcer n =
      if n = name then stepped.1 else w₀.announcer n :=
    (heffects.announcer n).trans (announcer_setAnnouncer w₀ name stepped.1 n)
  refine ⟨?_, fun {n} hn => ?_, fun hne => ?_, fun hne => ?_⟩
  · exact (hannouncer name).trans (if_pos rfl) ▸ halone
  · rw [hannouncer, if_neg hn, h.announcer]
  · exact ⟨(heffects.calls hne).1.trans (h.calls hne).1,
      (heffects.calls hne).2.trans (h.calls hne).2⟩
  · exact absurd (by rw [registry_afterAnnouncer, h.registry]) hne

/-- What a task waits for in an action of its own is a signal to itself. -/
theorem task_of_signalled {t' : Nat} {signal : AnnouncerSignal} (hmoves : action.Moves t)
    (hsignal : w.signalled? name action = some (t', signal)) : t' = t := by
  cases hmoves with
  | proceed | stop | expire =>
    cases hsignal
    rfl
  | register =>
    obtain ⟨result, -, he⟩ := Option.map_eq_some_iff.1 hsignal
    exact (Prod.mk.inj he).1.symm
  | unregister =>
    obtain ⟨-, he⟩ := Option.ite_none_right_eq_some.1 hsignal
    exact (Prod.mk.inj (Option.some.inj he)).1.symm
  | abort => cases hsignal

/-- The directory works on the request of an announce. -/
theorem Journaled.confined_of_register (h : Journaled settings w j)
    (hunanswered : w.signalled? name (.register t) = none)
    (hw : w.stepRegisterCall? ⟨name, t⟩ = some w') :
    Confined w w' (j.after w w' name (.register t)) ⟨name, t⟩ := by
  have hregistrations {id : Nat}
      (hne : w'.registry.registrations.get? id ≠ w.registry.registrations.get? id) :
      w.registry.registrations.get? id = none ∧
        (j.after w w' name (.register t)).maker.get? id = some ⟨name, t⟩ := by
    rcases commits_of_register hw with hsame | hcommits
    · exact absurd (by rw [hsame.1]) hne
    · have hnew : w.registry.lastId < w'.registry.lastId := hcommits.lastId ▸ Nat.lt_succ_self _
      obtain rfl : id = w'.registry.lastId :=
        Decidable.byContradiction fun hid => hne (hcommits.registrations hid)
      refine ⟨Decidable.byContradiction fun hheld => ?_, ?_⟩
      · obtain ⟨ref, href⟩ := h.right.made hheld
        exact absurd (h.right.old href).1 (Nat.not_le_of_lt hnew)
      · have hmaker : (j.after w w' name (.register t)).maker =
            j.maker.put w'.registry.lastId ⟨name, t⟩ := if_pos hnew
        rw [hmaker, Association.get?_put_self]
  obtain ⟨call, hcall, hstep⟩ := Option.bind_eq_some_iff.1 hw
  rw [signalled?, hcall, Option.bind_some, Option.map_eq_none_iff] at hunanswered
  rw [hunanswered] at hstep
  obtain ⟨⟨registry, call'⟩, -, rfl⟩ := Option.map_eq_some_iff.1 hstep
  exact ⟨.refl _ _, fun _ => rfl, fun hne => ⟨Association.get?_put_of_ne _ _ hne, rfl⟩,
    hregistrations⟩

/-- Until it is announced, whatever an announce does concerns nobody else. -/
theorem Journaled.confined (h : Journaled settings w j)
    (hx : (w.announcer name).tasks.get? t = some (.announce record stage))
    (hmoves : action.Moves t) (hw : w.act? name action = some w') :
    w.does name action = [.ended t (.announced w.nextAnnouncement record)] ∨
      Confined w w' (j.after w w' name action) ⟨name, t⟩ := by
  cases hsignal : w.signalled? name action with
  | some taken =>
    obtain ⟨t', signal⟩ := taken
    obtain rfl := task_of_signalled hmoves hsignal
    obtain ⟨stepped, hstep, w₀, hbut, rfl⟩ := step?_of_signalled hsignal hw
    rw [does_of_signalled hsignal hstep]
    rw [Announcer.step?, hx] at hstep
    have halone := (Announcer.announces_of_stepAnnounce hstep).alone
    exact halone.imp_right fun halone => hbut.confined halone.1 halone.2
  | none =>
    right
    cases hmoves with
    | proceed | stop | expire => cases hsignal
    | register => exact h.confined_of_register hsignal hw
    | unregister =>
      -- An announce asks for nothing to be withdrawn.
      have hnone : w.withdrawCalls.get? ⟨name, t⟩ = none :=
        (h.sharing.upright name).order.withdrawals_eq_none hx rfl
      rw [act?, stepWithdrawCall?, hnone] at hw
      cases hw
    | abort =>
      obtain rfl := Option.some.inj hw
      obtain ⟨halone, htries⟩ := Announcer.alone_abort hx
      have hbut : w.ButFor w ⟨name, t⟩ := ⟨fun _ => rfl, rfl, fun _ => ⟨rfl, rfl⟩⟩
      rw [abortTask, conclude_frame]
      have hconfined := hbut.confined (j := j) halone htries
      exact ⟨hconfined.own, hconfined.others, hconfined.calls, hconfined.registrations⟩

end World

/-! ## Failed announces -/

section

open World

/-- Whatever an announce does until it is announced, at whatever directory, concerns nobody
    else; and as it ends otherwise, with an error or given up, a claim is given back: until
    somebody else claims the announcer, nothing is announced, and whoever enters the lock with
    a valid record claims it. In a directory that several announcers share, no registration is
    touched either but what is made for the announce, and none is made for one that is
    refused. -/
theorem failed_announce_leaves_nothing :
    (∀ {settings l l' t record stage event}, Lifetime.Lived settings l →
      l.announcer.tasks.get? t = some (.announce record stage) → event.Moves t →
      l.meet? event = some l' →
      l.does t event = [.ended t (.announced l.nextId record)] ∨
        (l.announcer.Alone l'.announcer t ∧ ∀ effect ∈ l.does t event, effect.Tries t record) ∧
        (l'.announcer.tasks.get? t = none →
          ((AnnouncerTask.announce record stage).claims = true →
            l'.announcer.Free ∧ ∀ l'', l'.Unclaimed l'' → l''.announcer.Free ∧ l''.Accepts) ∧
          ((AnnouncerTask.announce record stage).claims = false →
            l'.announcer.status = l.announcer.status))) ∧
    ∀ {settings w j}, Journaled settings w j →
      (∀ id record, w.registry.registrations.get? id = some record →
        ∃ ref, j.maker.get? id = some ref ∧ ref ∉ j.refused) ∧
      ∀ {name t record stage action w'},
        (w.announcer name).tasks.get? t = some (.announce record stage) → action.Moves t →
        w.act? name action = some w' →
        w.does name action = [.ended t (.announced w.nextAnnouncement record)] ∨
          Confined w w' (j.after w w' name action) ⟨name, t⟩ := by
  constructor
  · intro settings l l' t record stage event hlived hx hmoves hl
    refine (hlived.tries hx hmoves hl).imp_right fun ⟨halone, hends⟩ => ⟨halone, fun hgone => ?_⟩
    refine (hends hgone).imp_left fun hfree hclaims => ⟨hfree hclaims, fun l'' hlater => ?_⟩
    have hlater := (hlater.free (hlived.step hl) (hfree hclaims)).2
    exact ⟨hlater, Lifetime.accepts_of_free hlater⟩
  · intro settings w j h
    refine ⟨fun id record hid => ?_, fun hx hmoves hw => h.confined hx hmoves hw⟩
    obtain ⟨ref, href⟩ := h.right.made fun hnone => by cases hnone.symm.trans hid
    exact ⟨ref, href, h.right.innocent href⟩

/-- A name is taken. On its own, an announcer is shut down while the directory has not answered
    yet, and a second announce is refused; the third claims it. Beside another announcer, whose
    announcement stays, the refusal leaves no registration. -/
theorem failed_announce_leaves_nothing_collision :
    let record : ServiceRecord := { instanceName := "nas", serviceType := "t", port := 5000 }
    let collision : AnnouncerEvent := .react 0 0 0 (.registered (.error (.collision "nas.t")))
    let before : List AnnouncerEvent :=
      [.announce record, .announce record, .react 0 0 0 .proceed, .react 0 0 0 .proceed, .shutdown,
        .react 2 0 0 .proceed, .react 1 0 0 .proceed]
    let actions : List (String × AnnouncerAction) :=
      [("a", .announce record), ("a", .proceed 0), ("a", .proceed 0), ("a", .register 0),
        ("a", .register 0), ("a", .register 0), ("a", .proceed 0), ("a", .change (.collide "nas")),
        ("b", .announce record), ("b", .proceed 0), ("b", .proceed 0), ("b", .register 0),
        ("b", .register 0)]
    (∃ l l' l'', (Lifetime.start {} 0).meetAll? before = some l ∧ l.meet? collision = some l' ∧
      l'.announcer.Free ∧ l'.meet? (.announce record) = some l'' ∧ l''.Accepts ∧
      l''.announcer.tasks.get? 3 = some (.announce record .claiming) ∧
      l''.announcer.mayEnter 3 = true) ∧
    ∃ w j w', (withAnnouncers ((Association.put .empty "a" {}).put "b" {})).journalAll? {} actions =
        some (w, j) ∧ w.act? "b" (.register 0) = some w' ∧
      (j.after w w' "b" (.register 0)).refused = [⟨"b", 0⟩] ∧
      Confined w w' (j.after w w' "b" (.register 0)) ⟨"b", 0⟩ ∧
      w'.registry.registrations.get? 1 = some record ∧
      ∃ ref, (j.after w w' "b" (.register 0)).maker.get? 1 = some ref ∧
        ref ∉ (j.after w w' "b" (.register 0)).refused := by
  intro record collision before actions
  constructor
  · have hrun : ((Lifetime.start {} 0).meetAll? before).any fun l =>
        l.announcer.tasks.get? 0 = some (.announce record (.registering 0)) ∧
        (l.meet? collision).any fun l' => l'.announcer.tasks.get? 0 = none ∧
        (l'.meet? (.announce record)).any fun l'' => l''.announcer.claimed = false ∧
          l''.announcer.tasks.get? 3 = some (.announce record .claiming) ∧
          l''.announcer.mayEnter 3 = true := by
      decide +kernel
    obtain ⟨l, hl, hfacts⟩ := (Option.any_eq_true ..).1 hrun
    obtain ⟨hx, hfacts⟩ := of_decide_eq_true hfacts
    obtain ⟨l', hl', hfacts⟩ := (Option.any_eq_true ..).1 hfacts
    obtain ⟨hgone, hfacts⟩ := of_decide_eq_true hfacts
    obtain ⟨l'', hl'', hfacts⟩ := (Option.any_eq_true ..).1 hfacts
    obtain ⟨hclaimed, hnext, hm⟩ := of_decide_eq_true hfacts
    have hdoes : l.does 0 collision = [.ended 0 (.refused (.collision "nas.t"))] := by
      rw [Lifetime.does, if_pos rfl, Announcer.step?, hx]
      rfl
    have hfails := (failed_announce_leaves_nothing.1 ((Lifetime.Lived.start 0).meetAll hl) hx
      .react hl').resolve_left fun he => by rw [hdoes] at he; cases he
    obtain ⟨hfree, hlater⟩ := (hfails.2 hgone).1 rfl
    exact ⟨l, l', l'', hl, hl', hfree, hl'', (hlater l'' (.next .refl hl'' hclaimed)).2, hnext, hm⟩
  · have hrun : ((withAnnouncers ((Association.put .empty "a" {}).put "b" {})).journalAll? {}
        actions).any fun p =>
          ((p.1.announcer "b").tasks.get? 0 = some (.announce record (.registering 0)) ∧
            p.2.refused = []) ∧
          (p.1.act? "b" (.register 0)).any fun w' =>
            (p.2.after p.1 w' "b" (.register 0)).refused = [⟨"b", 0⟩] ∧
            w'.registry.registrations.get? 1 = some record := by
      decide +kernel
    obtain ⟨⟨w, j⟩, hw, hfacts⟩ := (Option.any_eq_true ..).1 hrun
    obtain ⟨⟨hx, hnone⟩, hfacts⟩ := of_decide_eq_true hfacts
    obtain ⟨w', hw', hfacts⟩ := (Option.any_eq_true ..).1 hfacts
    obtain ⟨hrefused, hheld⟩ := of_decide_eq_true hfacts
    have hjournaled := Journaled.start.journalAll hw
    have hconfined := ((failed_announce_leaves_nothing.2 hjournaled).2 hx .register
      hw').resolve_left fun he => by
        rw [Journal.after, he, hnone] at hrefused
        cases hrefused
    exact ⟨w, j, w', hw, hw', hrefused, hconfined, hheld,
      (failed_announce_leaves_nothing.2 (hjournaled.step hw')).1 1 record hheld⟩

end

end ServiceDiscovery
