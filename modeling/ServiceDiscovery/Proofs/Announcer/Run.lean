import ServiceDiscovery.Proofs.Announcer.Scene

/-!
# Runs of an announcer

A network in which one announcer works: records are announced and withdrawn,
handles dropped, tasks go on or are given up, requests are worked on, and the
directory is scripted and restarts, in any order (`World.Announcing`).

`World.scene` is what all this means for the announcer; what a step of it does
outside changes the scene as its effects say.
-/

namespace ServiceDiscovery

/-- A change made to a directory from outside, as far as it matters to those who
    register. -/
inductive StockChange
  | restart
  | failRegisters (times : Nat)
  | stallRegisters (times : Nat)
  | collide (instanceName : String)
  | clearCollision (instanceName : String)
  | delayWithdraw (span : Nat)

/-- The directory after a change. -/
def Registry.impose (r : Registry) : StockChange → Registry
  | .restart => r.restart
  | .failRegisters times => { r with registerFailures := times }
  | .stallRegisters times => { r with registerStalls := times }
  | .collide instanceName => r.collide instanceName
  | .clearCollision instanceName => r.clearCollision instanceName
  | .delayWithdraw span => { r with withdrawDelay := some span }

/-- What may happen in a network in which an announcer works. -/
inductive AnnouncerAction
  | announce (record : ServiceRecord)
  | withdraw (id : Nat)
  | shutdown
  | dropHandle (id : Nat)
  /-- A task goes on by itself. -/
  | proceed (task : Nat)
  /-- A task notices that it was told to stop. -/
  | stop (task : Nat)
  /-- The time is up for which a task waits. -/
  | expire (task : Nat)
  /-- The request to register of a task is worked on, or its answer is taken. -/
  | register (task : Nat)
  | unregister (task : Nat)
  /-- A task is given up. -/
  | abort (task : Nat)
  | change (change : StockChange)
  /-- Requests to register take their time from now on. -/
  | lag (lag : RegisterLag)
  | wait (span : Nat)

namespace World

/-- The network after an action, if this could happen. -/
def act? (w : World) (name : String) : AnnouncerAction → Option World
  | .announce record => some (w.startTask name (·.announce record)).1
  | .withdraw id => some (w.startTask name (·.withdraw id)).1
  | .shutdown => some (w.startTask name (·.shutdown)).1
  | .dropHandle id => some (w.dropHandle id)
  | .proceed task => w.signal? ⟨name, task⟩ .proceed
  | .stop task => w.signal? ⟨name, task⟩ .stopped
  | .expire task => w.signal? ⟨name, task⟩ .expired
  | .register task => w.stepRegisterCall? ⟨name, task⟩
  | .unregister task => w.stepWithdrawCall? ⟨name, task⟩
  | .abort task => some (w.abortTask ⟨name, task⟩)
  | .change change => some { w with registry := w.registry.impose change }
  | .lag lag => some { w with lag }
  | .wait span => some { w with now := w.now + span }

/-- The network in which the announcer of a name is new. -/
def withAnnouncer (settings : AnnouncerSettings) (name : String) : World :=
  ({ announcerSettings := settings } : World).setAnnouncer name { settings }

/-- The networks in which an announcer may find itself. -/
inductive Announcing (settings : AnnouncerSettings) (name : String) : World → Prop
  | start : Announcing settings name (withAnnouncer settings name)
  | step {w w' : World} {action : AnnouncerAction} : Announcing settings name w →
      w.act? name action = some w' → Announcing settings name w'

/-- The network after a series of actions, if they could happen. -/
def actAll? (w : World) (name : String) : List AnnouncerAction → Option World
  | [] => some w
  | action :: actions => (w.act? name action).bind fun w => w.actAll? name actions

/-- Whatever an announcer finds itself in leads to nothing else, over any series of actions. -/
theorem Announcing.actAll {settings : AnnouncerSettings} {name : String} {w w' : World}
    {actions : List AnnouncerAction} (h : Announcing settings name w)
    (hw : w.actAll? name actions = some w') : Announcing settings name w' := by
  induction actions generalizing w with
  | nil =>
    obtain rfl := Option.some.inj hw
    exact h
  | cons action actions ih =>
    obtain ⟨w₁, hfirst, hrest⟩ := Option.bind_eq_some_iff.1 hw
    exact ih (h.step hfirst) hrest

/-- The scene of an announcer. -/
def scene (w : World) (name : String) : Scene where
  announcer := w.announcer name
  registry := w.registry
  registers t := w.registerCalls.get? ⟨name, t⟩
  withdrawals t := w.withdrawCalls.get? ⟨name, t⟩
  nextId := w.nextAnnouncement

/-! ## Effects -/

end World

/-- Whether a task ended with something announced. -/
def AnnouncerResult.announces : AnnouncerResult → Bool
  | announced _ _ => true
  | _ => false

/-- A request carries its record from the start, however long it will take. -/
theorem RegisterCall.record?_start (lag : RegisterLag) (now : Nat) (record : ServiceRecord) :
    (RegisterCall.start lag now record).record? = some record := by
  cases lag <;> rfl

namespace World

section

variable {w : World} {name : String}

@[simp] theorem scene_setAnnouncer (a : Announcer) :
    (w.setAnnouncer name a).scene name = { w.scene name with announcer := a } := by
  simp only [scene, announcer, setAnnouncer, Association.get?_put_self, Option.getD_some]

/-- What a task tells those who wait for it is no part of the scene. -/
@[simp] theorem scene_conclude (p : Process) (result : TaskResult) :
    (w.conclude p result).scene name = w.scene name := by
  unfold conclude
  split <;> rfl

/-- Among the tasks of one announcer, to put something under a task assigns it to that task. -/
theorem get?_put_task {α : Type} (m : Association TaskRef α) (t : Nat) (value : α) :
    (fun t' => (m.put ⟨name, t⟩ value).get? ⟨name, t'⟩) =
      Scene.assign (fun t' => m.get? ⟨name, t'⟩) t (some value) := by
  funext t'
  simp only [Association.get?_put, TaskRef.mk.injEq, true_and, Scene.assign]

theorem get?_erase_task {α : Type} (m : Association TaskRef α) (t : Nat) :
    (fun t' => (m.erase ⟨name, t⟩).get? ⟨name, t'⟩) =
      Scene.assign (fun t' => m.get? ⟨name, t'⟩) t none := by
  funext t'
  simp only [Association.get?_erase, TaskRef.mk.injEq, true_and, Scene.assign]

@[simp] theorem scene_register (t : Nat) (record : ServiceRecord) :
    (applyEffect name w (.register t record)).scene name =
      { w.scene name with
        registers := Scene.assign (w.scene name).registers t
          (some (.start w.lag w.now record)) } := by
  simp only [applyEffect, scene, announcer, get?_put_task]

@[simp] theorem scene_withdraw (t : Nat) (registration : Registration) :
    (applyEffect name w (.withdraw t registration)).scene name =
      { w.scene name with
        withdrawals := Scene.assign (w.scene name).withdrawals t
          (some (.requested registration.id)) } := by
  simp only [applyEffect, scene, announcer, get?_put_task]

/-- A task that forgoes its requests will hear of neither. -/
@[simp] theorem scene_forgo (t : Nat) :
    (applyEffect name w (.forgo t)).scene name =
      { w.scene name with
        registers := Scene.assign (w.scene name).registers t none
        withdrawals := Scene.assign (w.scene name).withdrawals t none } := by
  simp only [applyEffect, scene, announcer, get?_erase_task]

/-- The number of an announcement is given away with its success, and not before. -/
@[simp] theorem scene_announced (t id : Nat) (record : ServiceRecord) :
    (applyEffect name w (.ended t (.announced id record))).scene name =
      { w.scene name with nextId := id + 1 } := by
  simp only [applyEffect, scene_conclude]
  rfl

@[simp] theorem scene_ended (t : Nat) {result : AnnouncerResult}
    (h : result.announces = false) :
    (applyEffect name w (.ended t result)).scene name = w.scene name := by
  cases result with
  | announced => cases h
  | refused | released | unattended => simp only [applyEffect, scene_conclude]

theorem scene_after_nil (a : Announcer) :
    (w.afterAnnouncer name (a, [])).scene name = { w.scene name with announcer := a } :=
  scene_setAnnouncer a

/-- The request is on its way with the lag that requests have at the moment. -/
theorem scene_after_register (a : Announcer) (t : Nat) (record : ServiceRecord) :
    (w.afterAnnouncer name (a, [.register t record])).scene name =
      { w.scene name with
        announcer := a
        registers := Scene.assign (w.scene name).registers t
          (some (.start w.lag w.now record)) } := by
  rw [afterAnnouncer, List.foldl_cons, List.foldl_nil, scene_register, scene_setAnnouncer]
  rfl

theorem scene_after_withdraw (a : Announcer) (t : Nat) (registration : Registration) :
    (w.afterAnnouncer name (a, [.withdraw t registration])).scene name =
      { w.scene name with
        announcer := a
        withdrawals := Scene.assign (w.scene name).withdrawals t
          (some (.requested registration.id)) } := by
  rw [afterAnnouncer, List.foldl_cons, List.foldl_nil, scene_withdraw, scene_setAnnouncer]

theorem scene_after_forgo (a : Announcer) (t : Nat) :
    (w.afterAnnouncer name (a, [.forgo t])).scene name =
      { w.scene name with
        announcer := a
        registers := Scene.assign (w.scene name).registers t none
        withdrawals := Scene.assign (w.scene name).withdrawals t none } := by
  rw [afterAnnouncer, List.foldl_cons, List.foldl_nil, scene_forgo, scene_setAnnouncer]

theorem scene_after_finish (a : Announcer) (t : Nat) (result : AnnouncerResult)
    (h : result.announces = false) :
    (w.afterAnnouncer name (a.finish t result)).scene name =
      { w.scene name with announcer := a.endTask t } := by
  rw [afterAnnouncer, Announcer.finish, List.foldl_cons, List.foldl_nil, scene_ended t h,
    scene_setAnnouncer]

theorem scene_after_announced (a : Announcer) (t id : Nat) (record : ServiceRecord) :
    (w.afterAnnouncer name (a.finish t (.announced id record))).scene name =
      { w.scene name with announcer := a.endTask t, nextId := id + 1 } := by
  rw [afterAnnouncer, Announcer.finish, List.foldl_cons, List.foldl_nil, scene_announced,
    scene_setAnnouncer]

/-- The task ends, and whatever it had asked for is left to itself. -/
theorem scene_after_finishForgoing (a : Announcer) (t : Nat) (result : AnnouncerResult)
    (h : result.announces = false) :
    (w.afterAnnouncer name (a.finishForgoing t result)).scene name =
      { w.scene name with
        announcer := a.endTask t
        registers := Scene.assign (w.scene name).registers t none
        withdrawals := Scene.assign (w.scene name).withdrawals t none } := by
  rw [afterAnnouncer, Announcer.finishForgoing, List.foldl_cons, List.foldl_cons, List.foldl_nil,
    scene_ended t h, scene_forgo, scene_setAnnouncer]

/-- What a signal does is a step of the announcer, with its effects. -/
theorem signal?_eq_some {w' : World} {t : Nat} {signal : AnnouncerSignal}
    (h : w.signal? ⟨name, t⟩ signal = some w') :
    ∃ stepped, (w.announcer name).step? w.announcerView t signal = some stepped ∧
      w' = w.afterAnnouncer name stepped := by
  obtain ⟨a, ha, h⟩ := Option.bind_eq_some_iff.1 h
  obtain ⟨stepped, hstep, rfl⟩ := Option.map_eq_some_iff.1 h
  have hname : w.announcer name = a := by rw [announcer, ha, Option.getD_some]
  exact ⟨stepped, hname ▸ hstep, rfl⟩

end

end World

end ServiceDiscovery
