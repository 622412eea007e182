import ServiceDiscovery.Proofs.Announcer.Run

/-!
# What happens in a run

Whatever happens in a network in which an announcer works is a step in its scene
(`Scene.Step.of_act`), or two if a release that is given up has a handle to drop
(`Scene.Step.abort`). What holds of the first scene and is kept by every step
therefore holds in every scene of a run (`World.Announcing.invariant`).

A function that is stepped is taken apart in the order in which it decides: the
task, its stage, and whether it may enter the lock.
-/

namespace ServiceDiscovery

theorem Registry.sameStock_accept (r : Registry) : Scene.SameStock r r.accept.1 := by
  rw [accept]
  dsimp only
  split <;> exact ⟨rfl, rfl, rfl⟩

/-- A request is refused, or its record gets the next number. -/
theorem Registry.commit_cases (r : Registry) (record : ServiceRecord) :
    (∃ r' error, r.commit record = (r', .error error) ∧ Scene.SameStock r r') ∨
      ∃ fullName, r.commit record =
        ({ r with
            lastId := r.lastId + 1
            registrations := r.registrations.put (r.lastId + 1) record },
          .ok ⟨r.lastId + 1, fullName⟩) := by
  unfold commit
  dsimp only
  split
  · exact .inl ⟨_, _, rfl, rfl, rfl, rfl⟩
  · split
    · exact .inl ⟨_, _, rfl, rfl, rfl, rfl⟩
    · exact .inr ⟨_, rfl⟩

namespace Announcer

variable {a : Announcer} {t : Nat}

/-- A task either passes through the lock or gets in line for it. -/
theorem guarded_eq_some {act : Announcer → Stepped} {stepped : Stepped}
    (h : a.guarded t act = some stepped) :
    (a.mayEnter t = true ∧ stepped = act (a.leaveLine t)) ∨
      (a.mayEnter t = false ∧ stepped = (a.joinLine t, [])) := by
  unfold guarded at h
  split at h
  · exact .inl ⟨‹_›, (Option.some.inj h).symm⟩
  · rename_i hm
    split at h
    · cases h
    · exact .inr ⟨eq_false_of_ne_true hm, (Option.some.inj h).symm⟩

theorem holder_of_mayEnter (h : a.mayEnter t = true) : a.holder = none := by
  rw [mayEnter, Bool.and_eq_true] at h
  exact Option.isNone_iff_eq_none.1 h.1

/-- The announcement of a number is the current one, or there is none. -/
theorem filter_current_eq_none {id : Nat} (h : a.current.filter (·.id = id) = none) :
    a.isCurrent id = false := by
  rw [isCurrent]
  cases hc : a.current with
  | none => rfl
  | some announcement =>
    rw [hc] at h
    by_cases hid : announcement.id = id
    · simp [hid] at h
    · simp [hid]

theorem current_of_isCurrent {id : Nat} (h : a.isCurrent id = true) :
    ∃ announcement, a.current = some announcement ∧ announcement.id = id := by
  rw [isCurrent] at h
  cases hc : a.current with
  | none =>
    rw [hc] at h
    cases h
  | some announcement =>
    rw [hc] at h
    exact ⟨announcement, rfl, of_decide_eq_true h⟩

theorem filter_current_eq_some {id : Nat} {announcement : Announcement}
    (h : a.current.filter (·.id = id) = some announcement) :
    a.current = some announcement ∧ announcement.id = id := by
  obtain ⟨hc, hid⟩ := Option.filter_eq_some_iff.1 h
  exact ⟨hc, of_decide_eq_true hid⟩

end Announcer

namespace Scene

/-- What becomes of a scene in which a task is given up. -/
inductive GivesUp (s : Scene) (t : Nat) : Scene → Prop
  /-- There is no such task, or it is one that cannot be given up. -/
  | nothing : (∀ x, s.announcer.tasks.get? t = some x → x.supervises? ≠ none) → GivesUp s t s
  | quit {x : AnnouncerTask} {a : Announcer} : s.announcer.tasks.get? t = some x →
      x.Quits s.announcer → a = s.announcer.leaveLine t ∨ x.awaitsLock = false ∧ a = s.announcer →
      GivesUp s t { s with announcer := a.endTask t }
  | abandon {x : AnnouncerTask} : s.announcer.tasks.get? t = some x → x.claims = true →
      GivesUp s t
        { s with
          announcer := ({ s.announcer with status := .unregistered }.leaveLine t).endTask t
          registers := assign s.registers t none
          withdrawals := assign s.withdrawals t none }
  | letGo {x : AnnouncerTask} : s.announcer.tasks.get? t = some x → x.holdsLock = true →
      GivesUp s t
        { s with
          announcer := { s.announcer with holder := none }.endTask t
          registers := assign s.registers t none
          withdrawals := assign s.withdrawals t none }

theorem GivesUp.step {s s' : Scene} {t : Nat} (h : s.GivesUp t s') : s.Step False s' := by
  cases h with
  | nothing => exact .script ⟨rfl, rfl, rfl⟩
  | quit hx hq ha => exact .quit hx hq ha
  | abandon hx hclaims => exact .abandon id hx hclaims
  | letGo hx hholds => exact .letGo id hx hholds

/-- No task is started as one is given up. -/
theorem GivesUp.nextTask {s s' : Scene} {t : Nat} (h : s.GivesUp t s') :
    s'.announcer.nextTask = s.announcer.nextTask := by
  cases h with
  | nothing | abandon | letGo => rfl
  | quit _ _ ha => rcases ha with rfl | ⟨-, rfl⟩ <;> rfl

end Scene

namespace Scene.Step

open World

variable {w w' : World} {name : String} {t : Nat} {prompt : Prop}

/-! ## Tasks that go on by themselves -/

theorem of_announce_proceed {record : ServiceRecord} {stage : AnnounceStage}
    {stepped : Announcer.Stepped}
    (ht : (w.announcer name).tasks.get? t = some (.announce record stage))
    (h : (w.announcer name).stepAnnounce w.announcerView t record stage .proceed = some stepped) :
    (w.scene name).Step prompt ((w.afterAnnouncer name stepped).scene name) := by
  cases stage with
  | claiming =>
    rw [Announcer.stepAnnounce] at h
    split at h
    · rename_i fault hfault
      obtain rfl := Option.some.inj h
      have hpasses : (AnnouncerTask.announce record .claiming).awaitsLock = false := by
        rw [AnnouncerTask.awaitsLock, hfault]
        rfl
      rw [scene_after_finish _ _ (.refused _) rfl]
      exact .quit ht .refused (.inr ⟨hpasses, rfl⟩)
    · rename_i hfault
      have hwaits : (AnnouncerTask.announce record .claiming).awaitsLock = true := by
        rw [AnnouncerTask.awaitsLock, hfault]
        rfl
      rcases Announcer.guarded_eq_some h with ⟨hm, rfl⟩ | ⟨-, rfl⟩
      · rw [Announcer.claim]
        split
        · rw [scene_after_finish _ _ (.refused _) rfl]
          exact .quit ht .refused (.inl rfl)
        · rename_i hfree
          rw [Bool.or_eq_true, not_or] at hfree
          have hcurrent : (w.announcer name).current = none :=
            Option.not_isSome_iff_eq_none.1 hfree.1
          have hstatus : (w.announcer name).status = .unregistered := by
            simpa [Announcer.leaveLine] using hfree.2
          rw [scene_after_nil]
          exact .claim ht hfault (Announcer.holder_of_mayEnter hm) hcurrent hstatus
      · rw [scene_after_nil]
        exact .join ht hwaits
  | subscribing =>
    obtain rfl := Option.some.inj h
    rw [scene_after_register]
    exact .ask ht .announce (RegisterCall.record?_start ..)
  | registering => cases h
  | storing seen registration =>
    rcases Announcer.guarded_eq_some h with ⟨hm, rfl⟩ | ⟨-, rfl⟩
    · rw [Announcer.store, scene_after_announced]
      exact .store ht (Announcer.holder_of_mayEnter hm)
    · rw [scene_after_nil]
      exact .join ht rfl

theorem of_release_proceed {target : Option Nat} {stage : ReleaseStage}
    {stepped : Announcer.Stepped}
    (ht : (w.announcer name).tasks.get? t = some (.release target stage))
    (h : (w.announcer name).stepRelease w.announcerView t target stage .proceed = some stepped) :
    (w.scene name).Step prompt ((w.afterAnnouncer name stepped).scene name) := by
  cases stage with
  | handed =>
    obtain rfl := Option.some.inj h
    rw [scene_after_nil]
    exact .advance ht .handed
  | taking =>
    rcases Announcer.guarded_eq_some h with ⟨hm, rfl⟩ | ⟨-, rfl⟩
    · have hfree := Announcer.holder_of_mayEnter hm
      rw [Announcer.take]
      split
      · rw [scene_after_finish _ _ .released rfl]
        exact .quit ht .taking (.inl rfl)
      · rename_i announcement hcurrent
        have hcurrent : (w.announcer name).current = some announcement :=
          (Option.filter_eq_some_iff.1 hcurrent).1
        dsimp only
        split
        · rename_i hlost
          rw [scene_after_finish _ _ .released rfl]
          exact .takeLost ht hfree hcurrent hlost
        · rename_i registration hregistration
          rw [scene_after_withdraw]
          exact .take ht hfree hcurrent hregistration
    · rw [scene_after_nil]
      exact .join ht rfl
  | withdrawing => cases h

theorem of_supervise_proceed {id seen : Nat} {cancelled : Bool} {stage : SuperviseStage}
    {stepped : Announcer.Stepped}
    (ht : (w.announcer name).tasks.get? t = some (.supervise id seen cancelled stage))
    (h : (w.announcer name).stepSupervise w.announcerView t id seen cancelled stage .proceed =
      some stepped) :
    (w.scene name).Step prompt ((w.afterAnnouncer name stepped).scene name) := by
  cases stage with
  | watching =>
    rw [Announcer.stepSupervise] at h
    split at h
    · cases h
    · rename_i hnew
      obtain rfl := Option.some.inj h
      rw [scene_after_nil]
      exact .advance ht (.noticed hnew)
  | forgetting =>
    rcases Announcer.guarded_eq_some h with ⟨hm, rfl⟩ | ⟨-, rfl⟩
    · rw [Announcer.forget]
      split
      · rename_i hgone
        rw [scene_after_finish _ _ .unattended rfl]
        exact .quit ht (.forgetting (Announcer.filter_current_eq_none hgone)) (.inl rfl)
      · rename_i announcement hfound
        obtain ⟨hcurrent, hid⟩ := Announcer.filter_current_eq_some hfound
        rw [scene_after_nil]
        exact .forget ht hcurrent hid
    · rw [scene_after_nil]
      exact .join ht rfl
  | calling record backoff =>
    obtain rfl := Option.some.inj h
    rw [scene_after_register]
    exact .ask ht .supervise (RegisterCall.record?_start ..)
  | registering => cases h
  | pausing => cases h
  | dropping =>
    rcases Announcer.guarded_eq_some h with ⟨hm, rfl⟩ | ⟨-, rfl⟩
    · rw [Announcer.drop, scene_after_finish _ _ .unattended rfl]
      split
      · rename_i hcurrent
        obtain ⟨announcement, hsome, hid⟩ := Announcer.current_of_isCurrent hcurrent
        exact .drop ht hsome hid
      · rename_i hgone
        exact .quit ht (.dropping (eq_false_of_ne_true hgone)) (.inl rfl)
    · rw [scene_after_nil]
      exact .join ht rfl
  | adopting registration =>
    rcases Announcer.guarded_eq_some h with ⟨hm, rfl⟩ | ⟨-, rfl⟩
    · rw [Announcer.adopt]
      split
      · rename_i announcement hfound
        obtain ⟨hcurrent, hid⟩ := Announcer.filter_current_eq_some hfound
        rw [scene_after_nil]
        exact .adopt ht hcurrent hid
      · rename_i hgone
        rw [scene_after_withdraw]
        exact .giveBack ht (Announcer.filter_current_eq_none hgone)
    · rw [scene_after_nil]
      exact .join ht rfl
  | returning => cases h

/-- A task that goes on by itself. -/
theorem of_proceed (h : w.signal? ⟨name, t⟩ .proceed = some w') :
    (w.scene name).Step prompt (w'.scene name) := by
  obtain ⟨stepped, hstep, rfl⟩ := signal?_eq_some h
  unfold Announcer.step? at hstep
  split at hstep
  · cases hstep
  · rename_i ht
    exact of_announce_proceed ht hstep
  · rename_i ht
    exact of_release_proceed ht hstep
  · rename_i ht
    exact of_supervise_proceed ht hstep

/-! ## Tasks that stop -/

/-- A task that notices that it was told to stop. -/
theorem of_stop (h : w.signal? ⟨name, t⟩ .stopped = some w')
    (hsettles : prompt → (w.scene name).Settles t) :
    (w.scene name).Step prompt (w'.scene name) := by
  obtain ⟨stepped, hstep, rfl⟩ := signal?_eq_some h
  unfold Announcer.step? at hstep
  split at hstep
  · cases hstep
  · rename_i record stage ht
    cases stage <;> cases hstep
  · rename_i target stage ht
    cases stage <;> cases hstep
  · rename_i id seen cancelled stage ht
    cases stage with
    | forgetting | dropping | adopting | returning => cases hstep
    | watching =>
      obtain ⟨rfl, hstepped⟩ := Option.ite_none_right_eq_some.1 hstep
      obtain rfl := Option.some.inj hstepped
      rw [scene_after_finish _ _ .unattended rfl]
      exact .quit ht .watching (.inr ⟨rfl, rfl⟩)
    | calling =>
      obtain ⟨rfl, hstepped⟩ := Option.ite_none_right_eq_some.1 hstep
      obtain rfl := Option.some.inj hstepped
      rw [scene_after_finish _ _ .unattended rfl]
      exact .quit ht .calling (.inr ⟨rfl, rfl⟩)
    | pausing =>
      obtain ⟨rfl, hstepped⟩ := Option.ite_none_right_eq_some.1 hstep
      obtain rfl := Option.some.inj hstepped
      rw [scene_after_finish _ _ .unattended rfl]
      exact .quit ht .pausing (.inr ⟨rfl, rfl⟩)
    | registering =>
      obtain ⟨rfl, hstepped⟩ := Option.ite_none_right_eq_some.1 hstep
      obtain rfl := Option.some.inj hstepped
      rw [scene_after_finishForgoing _ _ .unattended rfl]
      exact .leave ht .registering hsettles

/-! ## Tasks whose time is up -/

/-- A task for which the time is up. -/
theorem of_expire (h : w.signal? ⟨name, t⟩ .expired = some w')
    (hsettles : prompt → (w.scene name).Settles t) :
    (w.scene name).Step prompt (w'.scene name) := by
  obtain ⟨stepped, hstep, rfl⟩ := signal?_eq_some h
  unfold Announcer.step? at hstep
  split at hstep
  · cases hstep
  · rename_i record stage ht
    cases stage <;> cases hstep
  · rename_i target stage ht
    cases stage with
    | handed | taking => cases hstep
    | withdrawing =>
      obtain ⟨-, hstepped⟩ := Option.ite_none_right_eq_some.1 hstep
      obtain rfl := Option.some.inj hstepped
      rw [Announcer.released, scene_after_finishForgoing _ _ .released rfl]
      exact .released ht hsettles
  · rename_i id seen cancelled stage ht
    cases stage with
    | watching | forgetting | calling | registering | dropping | adopting => cases hstep
    | pausing =>
      obtain ⟨-, hstepped⟩ := Option.ite_none_right_eq_some.1 hstep
      obtain rfl := Option.some.inj hstepped
      rw [scene_after_nil]
      exact .advance ht .rested
    | returning =>
      obtain ⟨-, hstepped⟩ := Option.ite_none_right_eq_some.1 hstep
      obtain rfl := Option.some.inj hstepped
      rw [scene_after_finishForgoing _ _ .unattended rfl]
      exact .leave ht .returning hsettles

/-! ## Requests -/

/-- The world without the request of a task, in whose place the answer is. -/
theorem scene_registered_erased :
    ({ w with registerCalls := w.registerCalls.erase ⟨name, t⟩ } : World).scene name =
      { w.scene name with registers := assign (w.scene name).registers t none } := by
  simp only [scene, get?_erase_task]
  rfl

/-- The request to register of a task is worked on, or its answer is taken. -/
theorem of_register (h : w.stepRegisterCall? ⟨name, t⟩ = some w') :
    (w.scene name).Step prompt (w'.scene name) := by
  obtain ⟨call, hcall, h⟩ := Option.bind_eq_some_iff.1 h
  have hregisters : (w.scene name).registers t = some call := hcall
  split at h
  · -- The answer is there, and the task takes it.
    rename_i result hresult
    obtain ⟨due, rfl⟩ : ∃ due, call = .answered result due := by
      cases call with
      | answered result' due =>
        rw [RegisterCall.result?] at hresult
        obtain ⟨-, he⟩ := Option.ite_none_right_eq_some.1 hresult
        exact ⟨due, Option.some.inj he ▸ rfl⟩
      | delayed | requested | stalled | admitted => cases hresult
    obtain ⟨stepped, hstep, rfl⟩ := signal?_eq_some h
    unfold Announcer.step? at hstep
    split at hstep
    · cases hstep
    · rename_i record stage ht
      have ht : (w.announcer name).tasks.get? t = some (.announce record stage) := ht
      cases stage with
      | claiming | subscribing | storing => cases result <;> cases hstep
      | registering seen =>
        cases result with
        | ok registration =>
          obtain rfl := Option.some.inj hstep
          rw [scene_after_nil, scene_registered_erased]
          exact .gain ht hregisters .announce
        | error error =>
          obtain rfl := Option.some.inj hstep
          rw [scene_after_finish _ _ (.refused _) rfl, scene_registered_erased]
          exact .refuse ht hregisters
    · rename_i target stage ht
      cases stage <;> cases result <;> cases hstep
    · rename_i id seen cancelled stage ht
      have ht : (w.announcer name).tasks.get? t = some (.supervise id seen cancelled stage) := ht
      cases stage with
      | watching | forgetting | calling | pausing | dropping | adopting | returning =>
        cases result <;> cases hstep
      | registering record backoff =>
        cases result with
        | ok registration =>
          obtain rfl := Option.some.inj hstep
          rw [scene_after_nil, scene_registered_erased]
          exact .gain ht hregisters .supervise
        | error error =>
          cases error with
          | collision =>
            obtain rfl := Option.some.inj hstep
            rw [scene_after_nil, scene_registered_erased]
            exact .fail ht hregisters .collision
          | _ =>
            obtain rfl := Option.some.inj hstep
            rw [scene_after_nil, scene_registered_erased]
            exact .fail ht hregisters .again
  · -- The request is worked on.
    rename_i hresult
    obtain ⟨⟨registry, call'⟩, hadvance, rfl⟩ := Option.map_eq_some_iff.1 h
    have hscene : ({ w with
          registry
          registerCalls := w.registerCalls.put ⟨name, t⟩ call' } : World).scene name =
        { w.scene name with
          registry
          registers := assign (w.scene name).registers t (some call') } := by
      simp only [scene, get?_put_task]
      rfl
    rw [hscene]
    cases call with
    | delayed record moment =>
      obtain ⟨-, hmoved⟩ := Option.ite_none_right_eq_some.1 hadvance
      obtain ⟨rfl, rfl⟩ := Prod.mk.inj (Option.some.inj hmoved)
      exact .progress hregisters rfl rfl (fun _ => id) ⟨rfl, rfl, rfl⟩
    | requested record lag =>
      obtain ⟨rfl, rfl⟩ := Prod.mk.inj (Option.some.inj hadvance)
      refine .progress hregisters rfl ?_ ?_ (w.registry.sameStock_accept)
      · split <;> rfl
      · split
        · exact fun _ he => by cases he
        · exact fun _ => id
    | stalled => cases hadvance
    | admitted record lag =>
      rw [RegisterCall.advance?] at hadvance
      rcases w.registry.commit_cases record with ⟨r, error, hcommit, hsame⟩ | ⟨fullName, hcommit⟩
      · rw [hcommit] at hadvance
        obtain ⟨rfl, rfl⟩ := Prod.mk.inj (Option.some.inj hadvance)
        exact .progress hregisters rfl rfl (fun _ he => by cases he) hsame
      · rw [hcommit] at hadvance
        obtain ⟨rfl, rfl⟩ := Prod.mk.inj (Option.some.inj hadvance)
        exact .commit hregisters
    | answered result due => cases hadvance

theorem scene_withdrawn_erased :
    ({ w with withdrawCalls := w.withdrawCalls.erase ⟨name, t⟩ } : World).scene name =
      { w.scene name with withdrawals := assign (w.scene name).withdrawals t none } := by
  simp only [scene, get?_erase_task]
  rfl

/-- The request to withdraw of a task is worked on, or its answer is taken. -/
theorem of_unregister (h : w.stepWithdrawCall? ⟨name, t⟩ = some w')
    (hgained : prompt → ((w.scene name).registers t).bind RegisterCall.gained? = none) :
    (w.scene name).Step prompt (w'.scene name) := by
  obtain ⟨call, hcall, h⟩ := Option.bind_eq_some_iff.1 h
  have hwithdrawals : (w.scene name).withdrawals t = some call := hcall
  split at h
  · rename_i hanswered
    subst hanswered
    have hsettles (hp : prompt) : (w.scene name).Settles t := by
      refine ⟨hgained hp, ?_⟩
      rw [hwithdrawals]
      rfl
    obtain ⟨stepped, hstep, rfl⟩ := signal?_eq_some h
    unfold Announcer.step? at hstep
    split at hstep
    · cases hstep
    · rename_i record stage ht
      cases stage <;> cases hstep
    · rename_i target stage ht
      have ht : (w.announcer name).tasks.get? t = some (.release target stage) := ht
      cases stage with
      | handed | taking => cases hstep
      | withdrawing =>
        obtain rfl := Option.some.inj hstep
        rw [Announcer.released, scene_after_finishForgoing _ _ .released rfl,
          scene_withdrawn_erased, assign_assign]
        exact .released ht hsettles
    · rename_i id seen cancelled stage ht
      have ht : (w.announcer name).tasks.get? t = some (.supervise id seen cancelled stage) := ht
      cases stage with
      | watching | forgetting | calling | registering | pausing | dropping | adopting =>
        cases hstep
      | returning =>
        obtain rfl := Option.some.inj hstep
        rw [scene_after_finishForgoing _ _ .unattended rfl, scene_withdrawn_erased,
          assign_assign]
        exact .leave ht .returning hsettles
  · obtain ⟨⟨registry, call'⟩, hadvance, rfl⟩ := Option.map_eq_some_iff.1 h
    have hscene : ({ w with
          registry
          withdrawCalls := w.withdrawCalls.put ⟨name, t⟩ call' } : World).scene name =
        { w.scene name with
          registry
          withdrawals := assign (w.scene name).withdrawals t (some call') } := by
      simp only [scene, get?_put_task]
      rfl
    rw [hscene]
    cases call with
    | requested id =>
      rw [WithdrawCall.advance?] at hadvance
      split at hadvance
      · obtain ⟨rfl, rfl⟩ := Prod.mk.inj (Option.some.inj hadvance)
        exact .delay hwithdrawals
      · obtain ⟨rfl, rfl⟩ := Prod.mk.inj (Option.some.inj hadvance)
        exact .unregister hwithdrawals rfl
    | delayed id moment =>
      obtain ⟨-, hmoved⟩ := Option.ite_none_right_eq_some.1 hadvance
      obtain ⟨rfl, rfl⟩ := Prod.mk.inj (Option.some.inj hmoved)
      exact .unregister hwithdrawals rfl
    | answered => cases hadvance

/-! ## Tasks that are given up -/

/-- A handle that is dropped has its announcement released, if it is one of the
    announcer's. -/
theorem scene_dropHandle (w : World) (name : String) (id : Nat) :
    (w.dropHandle id).scene name = w.scene name ∨
      (w.dropHandle id).scene name =
        { w.scene name with
          announcer := ((w.announcer name).spawn (.release (some id) .taking)).1 } := by
  unfold dropHandle
  split
  · exact .inl rfl
  · rename_i owner _
    by_cases hname : owner = name
    · subst hname
      exact .inr (scene_setAnnouncer _)
    · left
      have hother (a : Announcer) : (w.setAnnouncer owner a).announcer name = w.announcer name :=
        congrArg (Option.getD · _) (w.announcers.get?_put_of_ne a (Ne.symm hname))
      show ({ w.scene name with announcer := _ } : Scene) = w.scene name
      rw [startTask, hother]
      rfl

theorem same : (w.scene name).Step prompt (w.scene name) := .script ⟨rfl, rfl, rfl⟩

/-- A task is given up; a handle that it still had is dropped. -/
theorem of_abort (w : World) (name : String) (t : Nat) : ∃ s, (w.scene name).GivesUp t s ∧
    ((w.abortTask ⟨name, t⟩).scene name = s ∨
      ∃ id, (w.abortTask ⟨name, t⟩).scene name =
        { s with announcer := (s.announcer.spawn (.release (some id) .taking)).1 }) := by
  have hscene : (w.abortTask ⟨name, t⟩).scene name =
      (w.afterAnnouncer name ((w.announcer name).abort t)).scene name := scene_conclude ..
  rw [hscene, Announcer.abort]
  split
  · rename_i record stage ht
    cases stage with
    | claiming =>
      rw [Announcer.abortAnnounce, scene_after_nil]
      exact ⟨_, .quit ht .refused (.inl rfl), .inl rfl⟩
    | subscribing | registering | storing =>
      rw [Announcer.abortAnnounce, scene_after_forgo]
      · exact ⟨_, .abandon ht rfl, .inl rfl⟩
      · exact fun he => by cases he
  · rename_i target stage ht
    cases stage with
    | handed =>
      refine ⟨_, .quit ht .handed (.inr ⟨rfl, rfl⟩), ?_⟩
      cases target with
      | none =>
        rw [Announcer.abortRelease, Option.map_none, Option.toList_none, scene_after_nil]
        exact .inl rfl
      | some id =>
        rw [← scene_setAnnouncer]
        rcases scene_dropHandle (w.setAnnouncer name ((w.announcer name).endTask t)) name id with
          hd | hd
        · exact .inl hd
        · exact .inr ⟨id, hd⟩
    | taking =>
      rw [Announcer.abortRelease, scene_after_nil]
      exact ⟨_, .quit ht .taking (.inl rfl), .inl rfl⟩
    | withdrawing =>
      rw [Announcer.abortRelease, scene_after_forgo]
      exact ⟨_, .letGo ht rfl, .inl rfl⟩
  · rename_i hannounce hrelease
    rw [scene_after_nil]
    refine ⟨_, .nothing fun x hx => ?_, .inl rfl⟩
    cases x with
    | announce => exact (hannounce _ _ hx).elim
    | release => exact (hrelease _ _ hx).elim
    | supervise => exact Option.some_ne_none _

/-- What every step keeps is kept when a task is given up. -/
theorem abort {Inv : Scene → Prop}
    (hstep : ∀ s s', Inv s → Step False s s' → Inv s')
    (h : Inv (w.scene name)) : Inv ((w.abortTask ⟨name, t⟩).scene name) := by
  obtain ⟨s, hgives, he | ⟨id, he⟩⟩ := of_abort w name t
  · rw [he]
    exact hstep _ _ h hgives.step
  · rw [he]
    exact hstep _ _ (hstep _ _ h hgives.step) (.start .taking)

/-- A change of the directory. -/
theorem of_change (change : StockChange) :
    (w.scene name).Step prompt
      (({ w with registry := w.registry.impose change } : World).scene name) := by
  cases change with
  | restart => exact .restart
  | failRegisters | stallRegisters | collide | clearCollision | delayWithdraw =>
    exact .script ⟨rfl, rfl, rfl⟩

/-- A public operation starts a task. -/
theorem of_startTask {x : AnnouncerTask} {start : Announcer → Announcer × Nat}
    (hstart : ∀ a, start a = a.spawn x) (hx : x.Starts) :
    (w.scene name).Step prompt ((w.startTask name start).1.scene name) := by
  have hscene : (w.startTask name start).1.scene name =
      { w.scene name with announcer := ((w.announcer name).spawn x).1 } := by
    rw [startTask, hstart]
    exact scene_setAnnouncer _
  rw [hscene]
  exact .start hx

theorem of_dropHandle (id : Nat) :
    (w.scene name).Step prompt ((w.dropHandle id).scene name) := by
  rcases scene_dropHandle w name id with hd | hd <;> rw [hd]
  · exact .same
  · exact .start .taking

end Scene.Step

open Scene

variable {w w' : World} {name : String} {action : AnnouncerAction}

/-- Whatever happens is a step, unless a task is given up. -/
theorem Scene.Step.of_act {prompt : Prop} (hw : w.act? name action = some w')
    (habort : ∀ t, action ≠ .abort t)
    (hsettles : prompt → ∀ t, action = .stop t ∨ action = .expire t → (w.scene name).Settles t)
    (hgained : prompt → ∀ t, action = .unregister t →
      ((w.scene name).registers t).bind RegisterCall.gained? = none) :
    (w.scene name).Step prompt (w'.scene name) := by
  cases action with
  | announce record =>
    obtain rfl := Option.some.inj hw
    exact .of_startTask (fun _ => rfl) .announce
  | withdraw id =>
    obtain rfl := Option.some.inj hw
    exact .of_startTask (fun _ => rfl) .handed
  | shutdown =>
    obtain rfl := Option.some.inj hw
    exact .of_startTask (fun _ => rfl) .taking
  | dropHandle id =>
    obtain rfl := Option.some.inj hw
    exact .of_dropHandle id
  | proceed task => exact .of_proceed hw
  | stop task => exact .of_stop hw fun hp => hsettles hp task (.inl rfl)
  | expire task => exact .of_expire hw fun hp => hsettles hp task (.inr rfl)
  | register task => exact .of_register hw
  | unregister task => exact .of_unregister hw fun hp => hgained hp task rfl
  | abort task => exact absurd rfl (habort task)
  | change change =>
    obtain rfl := Option.some.inj hw
    exact .of_change change
  | lag lag =>
    obtain rfl := Option.some.inj hw
    exact .same
  | wait span =>
    obtain rfl := Option.some.inj hw
    exact .same

/-- What every step keeps, every action keeps. -/
theorem Scene.Step.act {Inv : Scene → Prop}
    (hstep : ∀ s s', Inv s → Step False s s' → Inv s')
    (h : Inv (w.scene name)) (hw : w.act? name action = some w') : Inv (w'.scene name) := by
  by_cases habort : ∃ t, action = .abort t
  · obtain ⟨t, rfl⟩ := habort
    obtain rfl := Option.some.inj hw
    exact Step.abort hstep h
  · have hnot (t : Nat) : action ≠ .abort t := fun he => habort ⟨t, he⟩
    exact hstep _ _ h (Step.of_act hw hnot False.elim False.elim)

/-- What holds in the beginning and is kept by every step holds in every scene of
    a run. -/
theorem World.Announcing.invariant {settings : AnnouncerSettings} {Inv : Scene → Prop}
    (h : Announcing settings name w) (hstart : Inv ((withAnnouncer settings name).scene name))
    (hstep : ∀ s s', Inv s → Scene.Step False s s' → Inv s') :
    Inv (w.scene name) := by
  induction h with
  | start => exact hstart
  | step _ hw ih => exact Scene.Step.act hstep ih hw

end ServiceDiscovery
