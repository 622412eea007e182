import ServiceDiscovery.Proofs.Announcer.Scene

/-!
# Order among the tasks of an announcer

What a step does to the tasks has one of a few shapes (`Scene.Shape`): none of
them moves, one gets in line for the lock, a new one starts, one goes on or ends
and perhaps tells a supervisor to stop, or one hands its work to a supervisor.

`Scene.Orderly` is what every shape keeps:

* whoever stands in line is about to enter the lock, and the task that holds it
  is the one that waits for a withdrawal;
* no two tasks supervise the same announcement;
* a request belongs to a task that waits for its answer.
-/

namespace ServiceDiscovery

namespace AnnouncerTask

/-- A task after the supervisor of an announcement was told to stop, if one
    was. -/
def told (stopped : Option Nat) : AnnouncerTask → AnnouncerTask
  | supervise id seen cancelled stage => supervise id seen (cancelled || stopped = some id) stage
  | other => other

section

variable (stopped : Option Nat) (x : AnnouncerTask)

@[simp] theorem told_none : x.told none = x := by
  cases x <;> simp [told]

@[simp] theorem awaitsLock_told : (x.told stopped).awaitsLock = x.awaitsLock := by
  cases x with
  | supervise _ _ _ stage => cases stage <;> rfl
  | announce | release => rfl

@[simp] theorem holdsLock_told : (x.told stopped).holdsLock = x.holdsLock := by
  cases x <;> rfl

@[simp] theorem claims_told : (x.told stopped).claims = x.claims := by
  cases x <;> rfl

@[simp] theorem asked?_told : (x.told stopped).asked? = x.asked? := by
  cases x with
  | supervise _ _ _ stage => cases stage <;> rfl
  | announce | release => rfl

@[simp] theorem givesBack_told : (x.told stopped).givesBack = x.givesBack := by
  cases x with
  | supervise _ _ _ stage => cases stage <;> rfl
  | announce | release => rfl

@[simp] theorem inHand?_told : (x.told stopped).inHand? = x.inHand? := by
  cases x with
  | supervise _ _ _ stage => cases stage <;> rfl
  | announce | release => rfl

@[simp] theorem seen?_told : (x.told stopped).seen? = x.seen? := by
  cases x <;> rfl

@[simp] theorem supervises?_told : (x.told stopped).supervises? = x.supervises? := by
  cases x <;> rfl

end

/-- A task goes on as another that supervises the same, and has noticed what it
    had or the present generation of the directory. -/
structure Continues (generation : Nat) (x y : AnnouncerTask) : Prop where
  supervises : y.supervises? = x.supervises?
  seen : y.seen? = x.seen? ∨ y.seen? = some generation

end AnnouncerTask

namespace Announcer

/-- A task goes on as another or ends, which takes it out of the line, and
    perhaps tells a supervisor to stop. -/
structure Moved (a a' : Announcer) (t : Nat) (x : AnnouncerTask) (y : Option AnnouncerTask)
    (stopped : Option Nat) : Prop where
  was : a.tasks.get? t = some x
  tasks : ∀ t', a'.tasks.get? t' =
    if t' = t then y else (a.tasks.get? t').map (AnnouncerTask.told stopped)
  line : ∀ t' ∈ a'.line, t' ∈ a.line ∧ (t' = t → x.awaitsLock = false)
  nextTask : a'.nextTask = a.nextTask

variable {a : Announcer} {t : Nat} {x y : AnnouncerTask}

theorem get?_stopSupervisor (id t : Nat) :
    (a.stopSupervisor id).tasks.get? t =
      (a.tasks.get? t).map (AnnouncerTask.told (some id)) := by
  rw [stopSupervisor, Association.get?_mapValues]
  cases a.tasks.get? t with
  | none => rfl
  | some x => cases x <;> simp [AnnouncerTask.told, eq_comm]

theorem mem_leaveLine {t' : Nat} (h : t' ∈ (a.leaveLine t).line) : t' ∈ a.line ∧ t' ≠ t := by
  obtain ⟨hm, hne⟩ := List.mem_filter.1 h
  exact ⟨hm, of_decide_eq_true hne⟩

theorem map_told_none (o : Option AnnouncerTask) : o.map (AnnouncerTask.told none) = o := by
  cases o with
  | none => rfl
  | some x => rw [Option.map_some, AnnouncerTask.told_none]

theorem get?_setTask (t' : Nat) :
    (a.setTask t y).tasks.get? t' =
      if t' = t then some y else (a.tasks.get? t').map (AnnouncerTask.told none) := by
  rw [setTask, Association.get?_put, map_told_none]

theorem get?_endTask (t' : Nat) :
    (a.endTask t).tasks.get? t' =
      if t' = t then none else (a.tasks.get? t').map (AnnouncerTask.told none) := by
  rw [endTask, Association.get?_erase, map_told_none]

theorem get?_stopSupervisor_setTask (id t' : Nat) :
    ((a.stopSupervisor id).setTask t y).tasks.get? t' =
      if t' = t then some y else (a.tasks.get? t').map (AnnouncerTask.told (some id)) := by
  rw [setTask, Association.get?_put, get?_stopSupervisor]

theorem get?_stopSupervisor_endTask (id t' : Nat) :
    ((a.stopSupervisor id).endTask t).tasks.get? t' =
      if t' = t then none else (a.tasks.get? t').map (AnnouncerTask.told (some id)) := by
  rw [endTask, Association.get?_erase, get?_stopSupervisor]

/-- A task outside the line stays outside. -/
theorem Moved.outside {a' : Announcer} {y : Option AnnouncerTask} {stopped : Option Nat}
    (hx : a.tasks.get? t = some x) (hw : x.awaitsLock = false)
    (htasks : ∀ t', a'.tasks.get? t' =
      if t' = t then y else (a.tasks.get? t').map (AnnouncerTask.told stopped))
    (hline : a'.line = a.line) (hnext : a'.nextTask = a.nextTask) :
    Moved a a' t x y stopped where
  was := hx
  tasks := htasks
  line _ h := ⟨hline ▸ h, fun _ => hw⟩
  nextTask := hnext

/-- A task that enters the lock is out of the line. -/
theorem Moved.inside {a' : Announcer} {y : Option AnnouncerTask} {stopped : Option Nat}
    (hx : a.tasks.get? t = some x)
    (htasks : ∀ t', a'.tasks.get? t' =
      if t' = t then y else (a.tasks.get? t').map (AnnouncerTask.told stopped))
    (hline : a'.line = (a.leaveLine t).line) (hnext : a'.nextTask = a.nextTask) :
    Moved a a' t x y stopped where
  was := hx
  tasks := htasks
  line t' h := by
    obtain ⟨hm, hne⟩ := mem_leaveLine (hline ▸ h)
    exact ⟨hm, fun he => absurd he hne⟩
  nextTask := hnext

section

variable {a' : Announcer} {y : Option AnnouncerTask} {stopped : Option Nat}

theorem Moved.get?_self (h : a.Moved a' t x y stopped) : a'.tasks.get? t = y := by
  rw [h.tasks, if_pos rfl]

theorem Moved.get?_of_ne (h : a.Moved a' t x y stopped) {t' : Nat} (hne : t' ≠ t) :
    a'.tasks.get? t' = (a.tasks.get? t').map (AnnouncerTask.told stopped) := by
  rw [h.tasks, if_neg hne]

/-- A task is the one that moved, or is as it was. -/
theorem Moved.get?_eq_some (h : a.Moved a' t x y stopped) {t' : Nat} {z : AnnouncerTask}
    (hz : a'.tasks.get? t' = some z) :
    (t' = t ∧ y = some z) ∨
      (t' ≠ t ∧ ∃ z₀, a.tasks.get? t' = some z₀ ∧ z₀.told stopped = z) := by
  by_cases ht : t' = t
  · subst ht
    exact .inl ⟨rfl, h.get?_self ▸ hz⟩
  · rw [h.get?_of_ne ht] at hz
    exact .inr ⟨ht, Option.map_eq_some_iff.1 hz⟩

end

end Announcer

namespace Scene

/-- What may become of the lock when a task with activity `x` goes on as `y`. -/
inductive LockMoves (h h' : Option Nat) (t : Nat) (x : AnnouncerTask) (y : Option AnnouncerTask) :
    Prop
  | stays : h' = h → x.holdsLock = false → (∀ z, y = some z → z.holdsLock = false) →
      LockMoves h h' t x y
  | taken {z : AnnouncerTask} : h = none → h' = some t → y = some z → z.holdsLock = true →
      LockMoves h h' t x y
  | freed : x.holdsLock = true → h' = none → (∀ z, y = some z → z.holdsLock = false) →
      LockMoves h h' t x y

/-- What may become of the requests to register when a task goes on as `y`. -/
inductive AsksMove (f f' : Nat → Option RegisterCall) (t : Nat) (x : AnnouncerTask)
    (y : Option AnnouncerTask) : Prop
  | none : f' = f → x.asked? = none → AsksMove f f' t x y
  | made {z : AnnouncerTask} {call : RegisterCall} : f' = assign f t (some call) → y = some z →
      z.asked? ≠ none → call.record? = z.asked? → AsksMove f f' t x y
  | ended : f' = assign f t .none → AsksMove f f' t x y

/-- What may become of the requests to withdraw when a task goes on as `y`. -/
inductive BacksMove (f f' : Nat → Option WithdrawCall) (t : Nat) (x : AnnouncerTask)
    (y : Option AnnouncerTask) : Prop
  | none : f' = f → x.givesBack = false → BacksMove f f' t x y
  | made {z : AnnouncerTask} {call : WithdrawCall} : f' = assign f t (some call) → y = some z →
      z.givesBack = true → BacksMove f f' t x y
  | ended : f' = assign f t .none → BacksMove f f' t x y

/-- What a step does to the tasks. -/
inductive Shape (s s' : Scene) : Prop
  /-- No task moves. -/
  | still : s'.announcer = s.announcer → s'.nextId = s.nextId →
      (∀ t call', s'.registers t = some call' → ∃ call, s.registers t = some call ∧
        ∀ record, call'.record? = some record → call.record? = some record) →
      (∀ t call', s'.withdrawals t = some call' → ∃ call, s.withdrawals t = some call) →
      Shape s s'
  | join {t : Nat} {x : AnnouncerTask} : s.announcer.tasks.get? t = some x →
      x.awaitsLock = true → s' = { s with announcer := s.announcer.joinLine t } → Shape s s'
  | start {x : AnnouncerTask} : x.Starts →
      s' = { s with announcer := (s.announcer.spawn x).1 } → Shape s s'
  | moved {t : Nat} {x : AnnouncerTask} {y : Option AnnouncerTask} {stopped : Option Nat} :
      s.announcer.Moved s'.announcer t x y stopped →
      (∀ z, y = some z → x.Continues s.registry.generation z) → s'.nextId = s.nextId →
      LockMoves s.announcer.holder s'.announcer.holder t x y →
      AsksMove s.registers s'.registers t x y → BacksMove s.withdrawals s'.withdrawals t x y →
      Shape s s'
  /-- A task hands over to the supervisor of a new announcement. -/
  | stored {t seen : Nat} {record : ServiceRecord} {registration : Registration} :
      s.announcer.tasks.get? t = some (.announce record (.storing seen registration)) →
      (∀ t', s'.announcer.tasks.get? t' =
        if t' = t then none
        else if t' = s.announcer.nextTask then some (.supervise s.nextId seen false .watching)
        else s.announcer.tasks.get? t') →
      (∀ t' ∈ s'.announcer.line, t' ∈ s.announcer.line ∧ t' ≠ t) →
      s'.announcer.nextTask = s.announcer.nextTask + 1 → s'.nextId = s.nextId + 1 →
      s'.announcer.holder = s.announcer.holder → s'.registers = s.registers →
      s'.withdrawals = s.withdrawals → Shape s s'

open Announcer AnnouncerTask

/-- Nothing is required of a task that ended. -/
theorem none_eq_some {P : AnnouncerTask → Prop} : ∀ z, none = some z → P z :=
  fun _ h => by cases h

/-- Every step has one of the shapes. -/
theorem Step.shape {prompt : Prop} {s s' : Scene} (h : s.Step prompt s') : Shape s s' := by
  cases h with
  | script | restart =>
    exact .still rfl rfl (fun t call h => ⟨call, h, fun _ => id⟩) fun t call h => ⟨call, h⟩
  | start hx => exact .start hx rfl
  | join hx hw => exact .join hx hw rfl
  | advance hx ha =>
    cases ha with
    | handed | rested =>
      exact .moved (.outside hx rfl get?_setTask rfl rfl)
        (fun z h => by cases h; exact ⟨rfl, .inl rfl⟩) rfl
        (.stays rfl rfl fun z h => by cases h; rfl) (.none rfl rfl) (.none rfl rfl)
    | noticed =>
      exact .moved (.outside hx rfl get?_setTask rfl rfl)
        (fun z h => by cases h; exact ⟨rfl, .inr rfl⟩) rfl
        (.stays rfl rfl fun z h => by cases h; rfl) (.none rfl rfl) (.none rfl rfl)
  | @quit t x a hx hq ha =>
    -- A task that quits has no request, so it does not matter which one it is.
    have hmoved : s.announcer.Moved (a.endTask t) t x none none := by
      rcases ha with rfl | ⟨hw, rfl⟩
      · exact .inside hx get?_endTask rfl rfl
      · exact .outside hx hw get?_endTask rfl rfl
    have hholder : a.holder = s.announcer.holder := by
      rcases ha with rfl | ⟨-, rfl⟩ <;> rfl
    cases hq with
    | _ =>
      exact .moved hmoved none_eq_some rfl (.stays hholder rfl none_eq_some)
        (.none rfl rfl) (.none rfl rfl)
  | leave hx hl =>
    cases hl with
    | registering | returning =>
      exact .moved (.outside hx rfl get?_endTask rfl rfl) none_eq_some rfl
        (.stays rfl rfl none_eq_some) (.ended rfl) (.ended rfl)
  | ask hx ha hcall =>
    cases ha with
    | announce =>
      exact .moved (.outside hx rfl get?_setTask rfl rfl)
        (fun z h => by cases h; exact ⟨rfl, .inr rfl⟩) rfl
        (.stays rfl rfl fun z h => by cases h; rfl)
        (.made rfl rfl (Option.some_ne_none _) hcall) (.none rfl rfl)
    | supervise =>
      exact .moved (.outside hx rfl get?_setTask rfl rfl)
        (fun z h => by cases h; exact ⟨rfl, .inl rfl⟩) rfl
        (.stays rfl rfl fun z h => by cases h; rfl)
        (.made rfl rfl (Option.some_ne_none _) hcall) (.none rfl rfl)
  | @progress t call call' registry hcall _ _ hrecord =>
    refine .still rfl rfl (fun t' call'' h => ?_) fun t call h => ⟨call, h⟩
    rcases assign_eq_some h with ⟨rfl, hc⟩ | ⟨-, hc⟩
    · obtain rfl := Option.some.inj hc
      exact ⟨call, hcall, hrecord⟩
    · exact ⟨call'', hc, fun _ => id⟩
  | commit hcall =>
    -- Once committed, there is no record to be registered any more.
    refine .still rfl rfl (fun t' call'' h => ?_) fun t call h => ⟨call, h⟩
    rcases assign_eq_some h with ⟨rfl, hc⟩ | ⟨-, hc⟩
    · obtain rfl := Option.some.inj hc
      exact ⟨_, hcall, fun _ he => by cases he⟩
    · exact ⟨call'', hc, fun _ => id⟩
  | gain hx _ hg =>
    cases hg with
    | announce | supervise =>
      exact .moved (.outside hx rfl get?_setTask rfl rfl)
        (fun z h => by cases h; exact ⟨rfl, .inl rfl⟩) rfl
        (.stays rfl rfl fun z h => by cases h; rfl) (.ended rfl) (.none rfl rfl)
  | fail hx _ hf =>
    cases hf with
    | collision | again =>
      exact .moved (.outside hx rfl get?_setTask rfl rfl)
        (fun z h => by cases h; exact ⟨rfl, .inl rfl⟩) rfl
        (.stays rfl rfl fun z h => by cases h; rfl) (.ended rfl) (.none rfl rfl)
  | refuse hx =>
    exact .moved (.outside hx rfl get?_endTask rfl rfl) none_eq_some rfl
      (.stays rfl rfl none_eq_some) (.ended rfl) (.none rfl rfl)
  | claim hx =>
    exact .moved (.inside hx get?_setTask rfl rfl)
      (fun z h => by cases h; exact ⟨rfl, .inl rfl⟩) rfl
      (.stays rfl rfl fun z h => by cases h; rfl) (.none rfl rfl) (.none rfl rfl)
  | store hx =>
    -- The new supervisor was started before the task ended.
    refine .stored hx (fun t' => ?_) (fun t' h => mem_leaveLine h) rfl rfl rfl rfl rfl
    rw [endTask, Association.get?_erase]
    congr 1
    exact s.announcer.tasks.get?_put ..
  | @takeLost t target announcement hx =>
    exact .moved (.inside hx (get?_stopSupervisor_endTask (a := s.announcer) announcement.id)
      rfl rfl) none_eq_some rfl (.stays rfl rfl none_eq_some) (.none rfl rfl) (.none rfl rfl)
  | @take t deadline target announcement registration hx hfree =>
    exact .moved (.inside hx (get?_stopSupervisor_setTask (a := s.announcer) announcement.id)
      rfl rfl) (fun z h => by cases h; exact ⟨rfl, .inl rfl⟩) rfl
      (.taken hfree rfl rfl rfl) (.none rfl rfl) (.made rfl rfl rfl)
  | released hx =>
    exact .moved (.outside hx rfl get?_endTask rfl rfl) none_eq_some rfl
      (.freed rfl rfl none_eq_some) (.ended rfl) (.ended rfl)
  | forget hx =>
    exact .moved (.inside hx get?_setTask rfl rfl)
      (fun z h => by cases h; exact ⟨rfl, .inl rfl⟩) rfl
      (.stays rfl rfl fun z h => by cases h; rfl) (.none rfl rfl) (.none rfl rfl)
  | @drop t id seen cancelled announcement hx =>
    exact .moved (.inside hx (get?_stopSupervisor_endTask (a := s.announcer) id)
      rfl rfl) none_eq_some rfl (.stays rfl rfl none_eq_some) (.none rfl rfl) (.none rfl rfl)
  | adopt hx =>
    exact .moved (.inside hx get?_setTask rfl rfl)
      (fun z h => by cases h; exact ⟨rfl, .inl rfl⟩) rfl
      (.stays rfl rfl fun z h => by cases h; rfl) (.none rfl rfl) (.none rfl rfl)
  | giveBack hx =>
    exact .moved (.inside hx get?_setTask rfl rfl)
      (fun z h => by cases h; exact ⟨rfl, .inl rfl⟩) rfl
      (.stays rfl rfl fun z h => by cases h; rfl) (.none rfl rfl) (.made rfl rfl rfl)
  | delay hcall | unregister hcall =>
    refine .still rfl rfl (fun t call h => ⟨call, h, fun _ => id⟩) fun t' call' h => ?_
    rcases assign_eq_some h with ⟨rfl, -⟩ | ⟨-, hc⟩
    · exact ⟨_, hcall⟩
    · exact ⟨call', hc⟩
  | @abandon t x _ hx hclaims =>
    refine .moved (.inside hx get?_endTask rfl rfl) none_eq_some rfl (.stays rfl ?_ none_eq_some)
      (.ended rfl) (.ended rfl)
    cases x with
    | announce => rfl
    | release | supervise => cases hclaims
  | @letGo t x _ hx hholds =>
    exact .moved (.outside hx (awaitsLock_of_holdsLock hholds) get?_endTask rfl rfl) none_eq_some
      rfl (.freed hholds rfl none_eq_some) (.ended rfl) (.ended rfl)

/-! ## Order -/

/-- The tasks, the lock, the supervisors and the requests are in order. -/
structure Orderly (s : Scene) : Prop where
  line : ∀ t ∈ s.announcer.line, ∃ x, s.announcer.tasks.get? t = some x ∧ x.awaitsLock = true
  holder : ∀ t, s.announcer.holder = some t ↔
    ∃ x, s.announcer.tasks.get? t = some x ∧ x.holdsLock = true
  tasks : ∀ {t x}, s.announcer.tasks.get? t = some x → t < s.announcer.nextTask
  ids : ∀ {t x id}, s.announcer.tasks.get? t = some x → x.supervises? = some id → id < s.nextId
  single : ∀ {t t' x x' id}, s.announcer.tasks.get? t = some x →
    s.announcer.tasks.get? t' = some x' → x.supervises? = some id → x'.supervises? = some id →
    t = t'
  registers : ∀ {t call}, s.registers t = some call → ∃ x record,
    s.announcer.tasks.get? t = some x ∧ x.asked? = some record ∧
      ∀ r, call.record? = some r → r = record
  withdrawals : ∀ {t call}, s.withdrawals t = some call → ∃ x,
    s.announcer.tasks.get? t = some x ∧ x.givesBack = true

namespace Orderly

variable {s s' : Scene}

theorem next (h : Orderly s) : s.announcer.tasks.get? s.announcer.nextTask = none := by
  rw [Option.eq_none_iff_forall_ne_some]
  intro x hx
  exact absurd (h.tasks hx) (Nat.lt_irrefl _)

/-- A task that is not about to enter the lock is not in line. -/
theorem not_mem_line (h : Orderly s) {t : Nat} {x : AnnouncerTask}
    (hx : s.announcer.tasks.get? t = some x) (hw : x.awaitsLock = false) :
    t ∉ s.announcer.line := by
  intro hm
  obtain ⟨x', hx', hw'⟩ := h.line t hm
  rw [hx] at hx'
  obtain rfl := Option.some.inj hx'
  rw [hw] at hw'
  cases hw'

/-- A task that did not ask has no request to register under way. -/
theorem registers_eq_none (h : Orderly s) {t : Nat} {x : AnnouncerTask}
    (hx : s.announcer.tasks.get? t = some x) (hasked : x.asked? = none) : s.registers t = none := by
  rw [Option.eq_none_iff_forall_ne_some]
  intro call hcall
  obtain ⟨x', record, hx', hasked', -⟩ := h.registers hcall
  rw [hx] at hx'
  obtain rfl := Option.some.inj hx'
  rw [hasked] at hasked'
  cases hasked'

/-- A task that gives nothing back has no request to withdraw under way. -/
theorem withdrawals_eq_none (h : Orderly s) {t : Nat} {x : AnnouncerTask}
    (hx : s.announcer.tasks.get? t = some x) (hback : x.givesBack = false) :
    s.withdrawals t = none := by
  rw [Option.eq_none_iff_forall_ne_some]
  intro call hcall
  obtain ⟨x', hx', hback'⟩ := h.withdrawals hcall
  rw [hx] at hx'
  obtain rfl := Option.some.inj hx'
  rw [hback] at hback'
  cases hback'

theorem still (h : Orderly s) (ha : s'.announcer = s.announcer) (hn : s'.nextId = s.nextId)
    (hr : ∀ t call', s'.registers t = some call' → ∃ call, s.registers t = some call ∧
      ∀ record, call'.record? = some record → call.record? = some record)
    (hw : ∀ t call', s'.withdrawals t = some call' → ∃ call, s.withdrawals t = some call) :
    Orderly s' where
  line := ha ▸ h.line
  holder := ha ▸ h.holder
  tasks {_ _} hx := ha ▸ h.tasks (ha ▸ hx)
  ids {_ _ _} hx hid := hn ▸ h.ids (ha ▸ hx) hid
  single {_ _ _ _ _} hx hx' := h.single (ha ▸ hx) (ha ▸ hx')
  registers {t call'} hc := by
    obtain ⟨call, hcall, hrecord⟩ := hr t call' hc
    obtain ⟨x, record, hx, hasked, hsame⟩ := h.registers hcall
    exact ⟨x, record, ha ▸ hx, hasked, fun r hr => hsame r (hrecord r hr)⟩
  withdrawals {t call'} hc := by
    obtain ⟨call, hcall⟩ := hw t call' hc
    exact ha ▸ h.withdrawals hcall

theorem join (h : Orderly s) {t : Nat} {x : AnnouncerTask}
    (hx : s.announcer.tasks.get? t = some x) (hw : x.awaitsLock = true) :
    Orderly { s with announcer := s.announcer.joinLine t } where
  line t' hm := by
    rcases List.mem_append.1 hm with hm | hm
    · exact h.line t' hm
    · obtain rfl := List.mem_singleton.1 hm
      exact ⟨x, hx, hw⟩
  holder := h.holder
  tasks := h.tasks
  ids := h.ids
  single := h.single
  registers := h.registers
  withdrawals := h.withdrawals

/-- A task started anew is the newest, or was there before. -/
theorem get?_spawn {a : Announcer} {x y : AnnouncerTask} {t : Nat}
    (h : (a.spawn x).1.tasks.get? t = some y) :
    (t = a.nextTask ∧ x = y) ∨ a.tasks.get? t = some y := by
  have h' : (a.tasks.put a.nextTask x).get? t = some y := h
  rw [Association.get?_put] at h'
  split at h'
  · exact .inl ⟨‹_›, Option.some.inj h'⟩
  · exact .inr h'

theorem get?_spawn_of_some (h : Orderly s) {x y : AnnouncerTask} {t : Nat}
    (hy : s.announcer.tasks.get? t = some y) :
    (s.announcer.spawn x).1.tasks.get? t = some y :=
  (s.announcer.tasks.get?_put_of_ne x (Nat.ne_of_lt (h.tasks hy))).trans hy

theorem start (h : Orderly s) {x : AnnouncerTask} (hx : x.Starts) :
    Orderly { s with announcer := (s.announcer.spawn x).1 } := by
  have hplain : x.holdsLock = false ∧ x.supervises? = none := by
    cases hx <;> exact ⟨rfl, rfl⟩
  refine ⟨?_, ?_, ?_, ?_, ?_, ?_, ?_⟩
  · intro t hm
    obtain ⟨z, hz, hw⟩ := h.line t hm
    exact ⟨z, h.get?_spawn_of_some hz, hw⟩
  · intro t
    refine ⟨?_, ?_⟩
    · intro ht
      obtain ⟨z, hz, hholds⟩ := (h.holder t).1 ht
      exact ⟨z, h.get?_spawn_of_some hz, hholds⟩
    · rintro ⟨z, hz, hholds⟩
      rcases get?_spawn hz with ⟨-, rfl⟩ | hz
      · rw [hplain.1] at hholds
        cases hholds
      · exact (h.holder t).2 ⟨z, hz, hholds⟩
  · intro t z hz
    rcases get?_spawn hz with ⟨rfl, -⟩ | hz
    · exact Nat.lt_succ_self _
    · exact Nat.lt_succ_of_lt (h.tasks hz)
  · intro t z id hz hid
    rcases get?_spawn hz with ⟨-, rfl⟩ | hz
    · rw [hplain.2] at hid
      cases hid
    · exact h.ids hz hid
  · intro t t' z z' id hz hz' hid hid'
    rcases get?_spawn hz with ⟨-, rfl⟩ | hz
    · rw [hplain.2] at hid
      cases hid
    · rcases get?_spawn hz' with ⟨-, rfl⟩ | hz'
      · rw [hplain.2] at hid'
        cases hid'
      · exact h.single hz hz' hid hid'
  · intro t call hc
    obtain ⟨z, record, hz, hasked, hsame⟩ := h.registers hc
    exact ⟨z, record, h.get?_spawn_of_some hz, hasked, hsame⟩
  · intro t call hc
    obtain ⟨z, hz, hback⟩ := h.withdrawals hc
    exact ⟨z, h.get?_spawn_of_some hz, hback⟩

theorem moved (h : Orderly s) {t : Nat} {x : AnnouncerTask} {y : Option AnnouncerTask}
    {stopped : Option Nat} (hm : s.announcer.Moved s'.announcer t x y stopped)
    (hs : ∀ z, y = some z → x.Continues s.registry.generation z) (hn : s'.nextId = s.nextId)
    (hl : LockMoves s.announcer.holder s'.announcer.holder t x y)
    (hr : AsksMove s.registers s'.registers t x y)
    (hw : BacksMove s.withdrawals s'.withdrawals t x y) : Orderly s' := by
  have hkept {t' : Nat} {z : AnnouncerTask} (hne : t' ≠ t)
      (hz : s.announcer.tasks.get? t' = some z) :
      s'.announcer.tasks.get? t' = some (z.told stopped) := by
    rw [hm.get?_of_ne hne, hz, Option.map_some]
  -- Who supervises what is as before.
  have hsupervises {t' : Nat} {z : AnnouncerTask} {id : Nat}
      (hz : s'.announcer.tasks.get? t' = some z) (hid : z.supervises? = some id) :
      ∃ z₀, s.announcer.tasks.get? t' = some z₀ ∧ z₀.supervises? = some id := by
    rcases hm.get?_eq_some hz with ⟨rfl, hy⟩ | ⟨-, z₀, hz₀, rfl⟩
    · exact ⟨x, hm.was, (hs z hy).supervises.symm.trans hid⟩
    · exact ⟨z₀, hz₀, z₀.supervises?_told stopped ▸ hid⟩
  refine ⟨?_, ?_, ?_, ?_, ?_, ?_, ?_⟩
  · -- Whoever is in line is another task: the one that moves was not in line, or
    -- is not any more.
    intro t' hmem
    obtain ⟨hold, hpassed⟩ := hm.line t' hmem
    have hne : t' ≠ t := by
      rintro rfl
      exact h.not_mem_line hm.was (hpassed rfl) hold
    obtain ⟨z, hz, hwaits⟩ := h.line t' hold
    exact ⟨_, hkept hne hz, (z.awaitsLock_told stopped).trans hwaits⟩
  · intro t'
    by_cases hne : t' = t
    · -- The task that moves holds the lock if the lock moved that way.
      subst hne
      rw [hm.get?_self]
      rcases hl with ⟨hholder, hx, hy⟩ | ⟨-, hholder, hy, hz⟩ | ⟨-, hholder, hy⟩
      · rw [hholder, h.holder]
        constructor
        · rintro ⟨z, hz, hholds⟩
          rw [hm.was] at hz
          obtain rfl := Option.some.inj hz
          rw [hx] at hholds
          cases hholds
        · rintro ⟨z, hz, hholds⟩
          rw [hy z hz] at hholds
          cases hholds
      · exact ⟨fun _ => ⟨_, hy, hz⟩, fun _ => hholder⟩
      · rw [hholder]
        refine ⟨fun he => (by cases he), ?_⟩
        rintro ⟨z, hz, hholds⟩
        rw [hy z hz] at hholds
        cases hholds
    · -- Another task holds the lock after the step if it did before.
      have hsame : s'.announcer.holder = some t' ↔ s.announcer.holder = some t' := by
        rcases hl with ⟨hholder, -, -⟩ | ⟨hfree, hholder, -, -⟩ | ⟨hx, hholder, -⟩
        · rw [hholder]
        · rw [hholder, hfree]
          exact ⟨fun he => absurd (Option.some.inj he).symm hne, fun he => (by cases he)⟩
        · rw [hholder, (h.holder t).2 ⟨x, hm.was, hx⟩]
          exact ⟨fun he => (by cases he), fun he => absurd (Option.some.inj he).symm hne⟩
      rw [hsame, h.holder, hm.get?_of_ne hne]
      constructor
      · rintro ⟨z, hz, hholds⟩
        exact ⟨_, by rw [hz, Option.map_some], (z.holdsLock_told stopped).trans hholds⟩
      · rintro ⟨z, hz, hholds⟩
        obtain ⟨z₀, hz₀, rfl⟩ := Option.map_eq_some_iff.1 hz
        exact ⟨z₀, hz₀, z₀.holdsLock_told stopped ▸ hholds⟩
  · intro t' z hz
    rw [hm.nextTask]
    rcases hm.get?_eq_some hz with ⟨rfl, -⟩ | ⟨-, z₀, hz₀, -⟩
    · exact h.tasks hm.was
    · exact h.tasks hz₀
  · intro t' z id hz hid
    obtain ⟨z₀, hz₀, hid₀⟩ := hsupervises hz hid
    exact hn ▸ h.ids hz₀ hid₀
  · intro t₁ t₂ z₁ z₂ id hz₁ hz₂ hid₁ hid₂
    obtain ⟨w₁, hw₁, hid₁⟩ := hsupervises hz₁ hid₁
    obtain ⟨w₂, hw₂, hid₂⟩ := hsupervises hz₂ hid₂
    exact h.single hw₁ hw₂ hid₁ hid₂
  · -- A request that was under way is that of a task that stays, as the one that
    -- moves has none, or gives it up.
    intro t' call hc
    have hold (hc : s.registers t' = some call) (hself : t' = t → x.asked? = none) :
        ∃ z record, s'.announcer.tasks.get? t' = some z ∧ z.asked? = some record ∧
          ∀ r, call.record? = some r → r = record := by
      obtain ⟨z, record, hz, hasked, hsame⟩ := h.registers hc
      have hne : t' ≠ t := by
        rintro rfl
        rw [hm.was] at hz
        obtain rfl := Option.some.inj hz
        rw [hself rfl] at hasked
        cases hasked
      exact ⟨_, record, hkept hne hz, (z.asked?_told stopped).trans hasked, hsame⟩
    rcases hr with ⟨hr, hx⟩ | ⟨hr, hy, hasks, hrecord⟩ | ⟨hr⟩ <;> rw [hr] at hc
    · exact hold hc fun _ => hx
    · rcases assign_eq_some hc with ⟨rfl, he⟩ | ⟨hne, hc⟩
      · obtain rfl := Option.some.inj he
        obtain ⟨record, hasked⟩ := Option.ne_none_iff_exists'.1 hasks
        refine ⟨_, record, hm.get?_self.trans hy, hasked, fun r hr => ?_⟩
        rw [hrecord, hasked] at hr
        exact (Option.some.inj hr).symm
      · exact hold hc fun he => absurd he hne
    · rcases assign_eq_some hc with ⟨-, he⟩ | ⟨hne, hc⟩
      · cases he
      · exact hold hc fun he => absurd he hne
  · intro t' call hc
    have hold (hc : s.withdrawals t' = some call) (hself : t' = t → x.givesBack = false) :
        ∃ z, s'.announcer.tasks.get? t' = some z ∧ z.givesBack = true := by
      obtain ⟨z, hz, hback⟩ := h.withdrawals hc
      have hne : t' ≠ t := by
        rintro rfl
        rw [hm.was] at hz
        obtain rfl := Option.some.inj hz
        rw [hself rfl] at hback
        cases hback
      exact ⟨_, hkept hne hz, (z.givesBack_told stopped).trans hback⟩
    rcases hw with ⟨hw, hx⟩ | ⟨hw, hy, hback⟩ | ⟨hw⟩ <;> rw [hw] at hc
    · exact hold hc fun _ => hx
    · rcases assign_eq_some hc with ⟨rfl, -⟩ | ⟨hne, hc⟩
      · exact ⟨_, hm.get?_self.trans hy, hback⟩
      · exact hold hc fun he => absurd he hne
    · rcases assign_eq_some hc with ⟨-, he⟩ | ⟨hne, hc⟩
      · cases he
      · exact hold hc fun he => absurd he hne

/-- A new supervisor starts as its announce ends. -/
theorem stored (h : Orderly s) {t seen : Nat} {record : ServiceRecord} {registration : Registration}
    (hx : s.announcer.tasks.get? t = some (.announce record (.storing seen registration)))
    (htasks : ∀ t', s'.announcer.tasks.get? t' =
      if t' = t then none
      else if t' = s.announcer.nextTask then some (.supervise s.nextId seen false .watching)
      else s.announcer.tasks.get? t')
    (hline : ∀ t' ∈ s'.announcer.line, t' ∈ s.announcer.line ∧ t' ≠ t)
    (hnext : s'.announcer.nextTask = s.announcer.nextTask + 1) (hn : s'.nextId = s.nextId + 1)
    (hholder : s'.announcer.holder = s.announcer.holder) (hr : s'.registers = s.registers)
    (hw : s'.withdrawals = s.withdrawals) : Orderly s' := by
  have hkept {t' : Nat} {z : AnnouncerTask} (hz : s.announcer.tasks.get? t' = some z)
      (hne : t' ≠ t) : s'.announcer.tasks.get? t' = some z := by
    rw [htasks, if_neg hne, if_neg (Nat.ne_of_lt (h.tasks hz)), hz]
  have hcases {t' : Nat} {z : AnnouncerTask} (hz : s'.announcer.tasks.get? t' = some z) :
      t' ≠ t ∧ ((t' = s.announcer.nextTask ∧ z = .supervise s.nextId seen false .watching) ∨
        s.announcer.tasks.get? t' = some z) := by
    rw [htasks] at hz
    split at hz
    · cases hz
    · refine ⟨‹_›, ?_⟩
      split at hz
      · exact .inl ⟨‹_›, (Option.some.inj hz).symm⟩
      · exact .inr hz
  -- A task that storing is not is another one.
  have hother {t' : Nat} {z : AnnouncerTask} (hz : s.announcer.tasks.get? t' = some z)
      (hne : z ≠ .announce record (.storing seen registration)) : t' ≠ t := by
    rintro rfl
    rw [hx] at hz
    exact hne (Option.some.inj hz).symm
  refine ⟨?_, ?_, ?_, ?_, ?_, ?_, ?_⟩
  · intro t' hm
    obtain ⟨hold, hne⟩ := hline t' hm
    obtain ⟨z, hz, hwaits⟩ := h.line t' hold
    exact ⟨z, hkept hz hne, hwaits⟩
  · intro t'
    rw [hholder, h.holder]
    constructor
    · rintro ⟨z, hz, hholds⟩
      refine ⟨z, hkept hz (hother hz ?_), hholds⟩
      rintro rfl
      cases hholds
    · rintro ⟨z, hz, hholds⟩
      rcases (hcases hz).2 with ⟨-, rfl⟩ | hz
      · cases hholds
      · exact ⟨z, hz, hholds⟩
  · intro t' z hz
    rw [hnext]
    rcases (hcases hz).2 with ⟨rfl, -⟩ | hz
    · exact Nat.lt_succ_self _
    · exact Nat.lt_succ_of_lt (h.tasks hz)
  · intro t' z id hz hid
    rw [hn]
    rcases (hcases hz).2 with ⟨-, rfl⟩ | hz
    · cases hid
      exact Nat.lt_succ_self _
    · exact Nat.lt_succ_of_lt (h.ids hz hid)
  · -- The number of the new announcement was not supervised before.
    intro t₁ t₂ z₁ z₂ id hz₁ hz₂ hid₁ hid₂
    rcases (hcases hz₁).2 with ⟨rfl, rfl⟩ | hz₁ <;> rcases (hcases hz₂).2 with ⟨rfl, rfl⟩ | hz₂
    · rfl
    · cases hid₁
      exact absurd (h.ids hz₂ hid₂) (Nat.lt_irrefl _)
    · cases hid₂
      exact absurd (h.ids hz₁ hid₁) (Nat.lt_irrefl _)
    · exact h.single hz₁ hz₂ hid₁ hid₂
  · intro t' call hc
    rw [hr] at hc
    obtain ⟨z, r, hz, hasked, hsame⟩ := h.registers hc
    refine ⟨z, r, hkept hz (hother hz ?_), hasked, hsame⟩
    rintro rfl
    cases hasked
  · intro t' call hc
    rw [hw] at hc
    obtain ⟨z, hz, hback⟩ := h.withdrawals hc
    refine ⟨z, hkept hz (hother hz ?_), hback⟩
    rintro rfl
    cases hback

/-- Every step keeps the order. -/
theorem step {prompt : Prop} (h : Orderly s) (hs : s.Step prompt s') : Orderly s' := by
  cases hs.shape with
  | still ha hn hr hw => exact h.still ha hn hr hw
  | join hx hw he => exact he ▸ h.join hx hw
  | start hx he => exact he ▸ h.start hx
  | moved hm hs hn hl hr hw => exact h.moved hm hs hn hl hr hw
  | stored hx htasks hline hnext hn hholder hr hw =>
    exact h.stored hx htasks hline hnext hn hholder hr hw

end Orderly

end Scene

end ServiceDiscovery
