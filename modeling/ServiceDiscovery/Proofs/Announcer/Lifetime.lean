import ServiceDiscovery.Proofs.Announcer.Publication
import ServiceDiscovery.Proofs.Announcer.Rest

/-!
# The lifetime of an announcer

What an announcer goes through at a directory of which nothing is known
(`Lifetime`). Operations start tasks, a task goes on at whatever signal it waits
for, tasks are given up, and numbers are taken by announcers elsewhere. What a
task finds the directory to have answered, at which generation of it, and at what
time, may be anything.

An event is a step in a scene in which the directory owes nothing
(`Lifetime.Meets`), so what every step of a scene keeps holds all through a lifetime
(`Lifetime.Lived.steady`).
-/

namespace ServiceDiscovery

/-- What an announcer goes through. -/
inductive AnnouncerEvent
  | announce (record : ServiceRecord)
  | withdraw (id : Nat)
  | shutdown
  | dropHandle (id : Nat)
  /-- A task goes on at a signal. -/
  | react (task generation now : Nat) (signal : AnnouncerSignal)
  /-- A task is given up. -/
  | abort (task : Nat)
  /-- Announcements are made elsewhere. -/
  | elsewhere (count : Nat)

/-- An announcer on its own. -/
structure Lifetime where
  announcer : Announcer
  /-- The number of the next announcement. -/
  nextId : Nat
  /-- Whether a release was given up while it held the lock. -/
  letGo : Bool

/-- Whether a task holds the lock. -/
def Announcer.holdsLock (a : Announcer) (task : Nat) : Bool :=
  (a.tasks.get? task).any AnnouncerTask.holdsLock

/-- The number of the next announcement after an effect. -/
def AnnouncerEffect.nextId (next : Nat) : AnnouncerEffect → Nat
  | ended _ (.announced id _) => id + 1
  | _ => next

namespace Lifetime

/-- A new announcer, and the number that its first announcement would get. -/
def start (settings : AnnouncerSettings) (nextId : Nat) : Lifetime where
  announcer := { settings }
  nextId
  letGo := false

/-- The announcer after an event, if this can happen to it. A handle that a task
    drops as it is given up is dropped in an event of its own. -/
def meet? (l : Lifetime) : AnnouncerEvent → Option Lifetime
  | .announce record => some { l with announcer := (l.announcer.announce record).1 }
  | .withdraw id => some { l with announcer := (l.announcer.withdraw id).1 }
  | .shutdown => some { l with announcer := l.announcer.shutdown.1 }
  | .dropHandle id => some { l with announcer := (l.announcer.dropHandle id).1 }
  | .react task generation now signal =>
    (l.announcer.step? ⟨generation, now, l.nextId⟩ task signal).map fun (announcer, effects) =>
      { l with announcer, nextId := effects.foldl AnnouncerEffect.nextId l.nextId }
  | .abort task =>
    some { l with
      announcer := (l.announcer.abort task).1
      letGo := l.letGo || l.announcer.holdsLock task }
  | .elsewhere count => some { l with nextId := l.nextId + count }

/-- The states in which an announcer may find itself. -/
inductive Lived (settings : AnnouncerSettings) : Lifetime → Prop
  | start (nextId : Nat) : Lived settings (start settings nextId)
  | step {l l' : Lifetime} {event : AnnouncerEvent} : Lived settings l →
      l.meet? event = some l' → Lived settings l'

/-- The announcer after a series of events, if they can happen to it. -/
def meetAll? (l : Lifetime) : List AnnouncerEvent → Option Lifetime
  | [] => some l
  | event :: events => (l.meet? event).bind fun l => l.meetAll? events

theorem Lived.meetAll {settings : AnnouncerSettings} {l l' : Lifetime}
    {events : List AnnouncerEvent} (h : Lived settings l) (hl : l.meetAll? events = some l') :
    Lived settings l' := by
  induction events generalizing l with
  | nil =>
    obtain rfl := Option.some.inj hl
    exact h
  | cons event events ih =>
    obtain ⟨l₁, hfirst, hrest⟩ := Option.bind_eq_some_iff.1 hl
    exact ih (h.step hfirst) hrest

/-! ## Events as steps -/

open Scene Announcer

/-- The announcer at a directory that owes it nothing. -/
def scene (l : Lifetime) : Scene where
  announcer := l.announcer
  registry := {}
  registers _ := none
  withdrawals _ := none
  nextId := l.nextId

/-- What an event does. -/
inductive Meets (l l' : Lifetime) : Prop
  | step {s s' : Scene} : s.announcer = l.announcer → Orderly s → s.Step True s' →
      s'.announcer = l'.announcer → s'.nextId = l'.nextId → l'.letGo = l.letGo → Meets l l'
  | abort {t : Nat} : l.scene.GivesUp t l'.scene →
      l'.letGo = (l.letGo || l.announcer.holdsLock t) → Meets l l'
  | elsewhere : l'.announcer = l.announcer → l.nextId ≤ l'.nextId → l'.letGo = l.letGo → Meets l l'

section

variable {a : Announcer} {view : AnnouncerView} {t : Nat} {signal : AnnouncerSignal}
  {stepped : Announcer.Stepped}

/-- A task that takes an answer to a request to register had asked. -/
theorem asked_of_registered {result : Except DiscoveryError Registration}
    (h : a.step? view t (.registered result) = some stepped) :
    ∃ x record, a.tasks.get? t = some x ∧ x.asked? = some record := by
  unfold Announcer.step? at h
  split at h
  · cases h
  · rename_i record stage hx
    cases stage with
    | registering => exact ⟨_, record, hx, rfl⟩
    | claiming | subscribing | storing => cases result <;> cases h
  · rename_i target stage hx
    cases stage <;> cases result <;> cases h
  · rename_i id seen cancelled stage hx
    cases stage with
    | registering record => exact ⟨_, record, hx, rfl⟩
    | watching | forgetting | calling | pausing | dropping | adopting | returning =>
      cases result <;> cases h

/-- A task that takes an answer to a request to withdraw was giving something
    back. -/
theorem givesBack_of_withdrawn (h : a.step? view t .withdrawn = some stepped) :
    ∃ x, a.tasks.get? t = some x ∧ x.givesBack = true := by
  unfold Announcer.step? at h
  split at h
  · cases h
  · rename_i record stage hx
    cases stage <;> cases h
  · rename_i target stage hx
    cases stage with
    | withdrawing => exact ⟨_, hx, rfl⟩
    | handed | taking => cases h
  · rename_i id seen cancelled stage hx
    cases stage with
    | returning => exact ⟨_, hx, rfl⟩
    | watching | forgetting | calling | registering | pausing | dropping | adopting => cases h

theorem drop_not_mem_of_guarded {id : Nat} {act : Announcer → Stepped}
    (h : a.guarded t act = some stepped) (hact : ∀ a, .drop id ∉ (act a).2) :
    .drop id ∉ stepped.2 := by
  rcases guarded_eq_some h with ⟨-, rfl⟩ | ⟨-, rfl⟩
  · exact hact _
  · exact List.not_mem_nil

/-- A handle is dropped only with a task that is given up. -/
theorem drop_not_mem (h : a.step? view t signal = some stepped) (id : Nat) :
    .drop id ∉ stepped.2 := by
  unfold Announcer.step? at h
  split at h
  · cases h
  · unfold stepAnnounce at h
    split at h
    case h_1 =>
      split at h
      · grind [finish]
      · exact drop_not_mem_of_guarded h fun a => by grind [claim, finish]
    case h_5 => exact drop_not_mem_of_guarded h fun a => by grind [store, finish]
    all_goals grind [finish]
  · unfold stepRelease at h
    split at h
    case h_2 => exact drop_not_mem_of_guarded h fun a => by grind [take, finish]
    all_goals grind [released, finishForgoing]
  · unfold stepSupervise at h
    split at h
    case h_3 => exact drop_not_mem_of_guarded h fun a => by grind [forget, finish]
    case h_12 => exact drop_not_mem_of_guarded h fun a => by grind [drop, finish]
    case h_13 => exact drop_not_mem_of_guarded h fun a => by grind [adopt, finish]
    all_goals grind [finish, finishForgoing]

/-- Effects that drop no handle leave the announcer as it is. -/
theorem scene_effects (w : World) (name : String) {effects : List AnnouncerEffect}
    (h : ∀ id, .drop id ∉ effects) :
    ((effects.foldl (World.applyEffect name) w).scene name).announcer = (w.scene name).announcer ∧
      ((effects.foldl (World.applyEffect name) w).scene name).nextId =
        effects.foldl AnnouncerEffect.nextId (w.scene name).nextId := by
  induction effects generalizing w with
  | nil => exact ⟨rfl, rfl⟩
  | cons effect effects ih =>
    have hrest := ih (World.applyEffect name w effect) fun id hm => h id (List.mem_cons_of_mem _ hm)
    rw [List.foldl_cons, List.foldl_cons, hrest.1, hrest.2]
    cases effect with
    | register => rw [World.scene_register]; exact ⟨rfl, rfl⟩
    | withdraw => rw [World.scene_withdraw]; exact ⟨rfl, rfl⟩
    | forgo => rw [World.scene_forgo]; exact ⟨rfl, rfl⟩
    | drop id => exact absurd List.mem_cons_self (h id)
    | ended t result =>
      cases result with
      | announced => rw [World.scene_announced]; exact ⟨rfl, rfl⟩
      | refused | released | unattended => rw [World.scene_ended t rfl]; exact ⟨rfl, rfl⟩

end

/-- The request of a task, as the only one. -/
def sole {α : Type} (t : Nat) (call : α) : Association TaskRef α := .put .empty ⟨"", t⟩ call

theorem get?_sole_self {α : Type} (t : Nat) (call : α) : (sole t call).get? ⟨"", t⟩ = some call :=
  Association.get?_put_self ..

theorem eq_of_get?_sole {α : Type} {t t' : Nat} {call call' : α}
    (h : (sole t call).get? ⟨"", t'⟩ = some call') : t' = t ∧ call' = call := by
  rw [sole, Association.get?_put] at h
  split at h
  · rename_i he
    cases he
    exact ⟨rfl, (Option.some.inj h).symm⟩
  · cases h

/-- A network in which nothing is under way but the announcer and requests. -/
def world (l : Lifetime) (generation now : Nat) (registerCalls : Association TaskRef RegisterCall)
    (withdrawCalls : Association TaskRef WithdrawCall) : World :=
  { ({} : World) with
    registry := { generation }
    now
    registerCalls
    withdrawCalls
    nextAnnouncement := l.nextId }.setAnnouncer "" l.announcer

section

variable {l : Lifetime} {generation now t : Nat} {signal : AnnouncerSignal}
  {stepped : Announcer.Stepped} {registerCalls : Association TaskRef RegisterCall}
  {withdrawCalls : Association TaskRef WithdrawCall}

theorem scene_world :
    (l.world generation now registerCalls withdrawCalls).scene "" =
      { l.scene with
        registry := { generation }
        registers := fun t => registerCalls.get? ⟨"", t⟩
        withdrawals := fun t => withdrawCalls.get? ⟨"", t⟩ } := by
  rw [world, World.scene_setAnnouncer]
  rfl

theorem signal?_world (registerCalls : Association TaskRef RegisterCall)
    (withdrawCalls : Association TaskRef WithdrawCall)
    (h : l.announcer.step? ⟨generation, now, l.nextId⟩ t signal = some stepped) :
    (l.world generation now registerCalls withdrawCalls).signal? ⟨"", t⟩ signal =
      some ((l.world generation now registerCalls withdrawCalls).afterAnnouncer "" stepped) := by
  have hself : (l.world generation now registerCalls withdrawCalls).announcers.get? "" =
      some l.announcer := Association.get?_put_self ..
  rw [World.signal?, hself, Option.bind_some]
  exact congrArg (Option.map _) h

/-- The answer to a request to register has arrived before the task takes it. -/
theorem stepRegisterCall?_world {result : Except DiscoveryError Registration}
    (hcall : registerCalls.get? ⟨"", t⟩ = some (.answered result 0))
    (h : l.announcer.step? ⟨generation, now, l.nextId⟩ t (.registered result) = some stepped) :
    (l.world generation now registerCalls withdrawCalls).stepRegisterCall? ⟨"", t⟩ =
      some ((l.world generation now (registerCalls.erase ⟨"", t⟩)
        withdrawCalls).afterAnnouncer "" stepped) := by
  have hcall : (l.world generation now registerCalls withdrawCalls).registerCalls.get? ⟨"", t⟩ =
      some (.answered result 0) := hcall
  rw [World.stepRegisterCall?, hcall, Option.bind_some, RegisterCall.result?,
    if_pos (Nat.zero_le _)]
  exact signal?_world (registerCalls.erase ⟨"", t⟩) withdrawCalls h

/-- The answer to a request to withdraw has arrived before the task takes it. -/
theorem stepWithdrawCall?_world (hcall : withdrawCalls.get? ⟨"", t⟩ = some .answered)
    (h : l.announcer.step? ⟨generation, now, l.nextId⟩ t .withdrawn = some stepped) :
    (l.world generation now registerCalls withdrawCalls).stepWithdrawCall? ⟨"", t⟩ =
      some ((l.world generation now registerCalls
        (withdrawCalls.erase ⟨"", t⟩)).afterAnnouncer "" stepped) := by
  have hcall : (l.world generation now registerCalls withdrawCalls).withdrawCalls.get? ⟨"", t⟩ =
      some .answered := hcall
  rw [World.stepWithdrawCall?, hcall, Option.bind_some, if_pos rfl]
  exact signal?_world registerCalls (withdrawCalls.erase ⟨"", t⟩) h

/-- A signal does what a step does in a network in which requests are those of tasks
    that wait for the answer. -/
theorem Meets.of_network (ho : Orderly l.scene)
    (hr : ∀ t call, registerCalls.get? ⟨"", t⟩ = some call → call.record? = none ∧
      ∃ x record, l.announcer.tasks.get? t = some x ∧ x.asked? = some record)
    (hw : ∀ t call, withdrawCalls.get? ⟨"", t⟩ = some call →
      ∃ x, l.announcer.tasks.get? t = some x ∧ x.givesBack = true)
    (h : l.announcer.step? ⟨generation, now, l.nextId⟩ t signal = some stepped)
    {registerCalls' : Association TaskRef RegisterCall}
    {withdrawCalls' : Association TaskRef WithdrawCall}
    (hstep : ((l.world generation now registerCalls withdrawCalls).scene "").Step True
      (((l.world generation now registerCalls' withdrawCalls').afterAnnouncer "" stepped).scene
        "")) :
    Meets l { l with
      announcer := stepped.1
      nextId := stepped.2.foldl AnnouncerEffect.nextId l.nextId } := by
  have hafter := scene_effects
    ((l.world generation now registerCalls' withdrawCalls').setAnnouncer "" stepped.1) ""
    (drop_not_mem h)
  rw [World.scene_setAnnouncer] at hafter
  rw [scene_world] at hstep
  refine .step rfl ?_ hstep hafter.1 hafter.2 rfl
  refine ⟨ho.line, ho.holder, ho.tasks, ho.ids, ho.single, fun hc => ?_, fun hc => hw _ _ hc⟩
  obtain ⟨hnone, x, record, hx, hasked⟩ := hr _ _ hc
  refine ⟨x, record, hx, hasked, fun r he => ?_⟩
  rw [hnone] at he
  cases he

/-- A task goes on at a signal. -/
theorem Meets.react (ho : Orderly l.scene)
    (h : l.announcer.step? ⟨generation, now, l.nextId⟩ t signal = some stepped) :
    Meets l { l with
      announcer := stepped.1
      nextId := stepped.2.foldl AnnouncerEffect.nextId l.nextId } := by
  have hnone {α : Type} {P : Prop} {t : Nat} {call : α}
      (hc : (Association.empty : Association TaskRef α).get? ⟨"", t⟩ = some call) : P := by
    cases hc
  have hsettles : ((l.world generation now .empty .empty).scene "").Settles t := by
    rw [scene_world]
    exact ⟨rfl, rfl⟩
  cases signal with
  | proceed =>
    exact .of_network ho (fun _ _ => hnone) (fun _ _ => hnone) h
      (Step.of_proceed (signal?_world _ _ h))
  | stopped =>
    exact .of_network ho (fun _ _ => hnone) (fun _ _ => hnone) h
      (Step.of_stop (signal?_world _ _ h) fun _ => hsettles)
  | expired =>
    exact .of_network ho (fun _ _ => hnone) (fun _ _ => hnone) h
      (Step.of_expire (signal?_world _ _ h) fun _ => hsettles)
  | registered result =>
    refine .of_network ho (fun t' call hc => ?_) (fun _ _ => hnone) h
      (Step.of_register (stepRegisterCall?_world (get?_sole_self ..) h))
    obtain ⟨rfl, rfl⟩ := eq_of_get?_sole hc
    exact ⟨rfl, asked_of_registered h⟩
  | withdrawn =>
    refine .of_network ho (fun _ _ => hnone) (fun t' call hc => ?_) h
      (Step.of_unregister (stepWithdrawCall?_world (get?_sole_self ..) h) fun _ =>
        by rw [scene_world]; rfl)
    obtain ⟨rfl, -⟩ := eq_of_get?_sole hc
    exact givesBack_of_withdrawn h

/-- A task is given up. -/
theorem givesUp_abort (l : Lifetime) (t : Nat) :
    l.scene.GivesUp t { l.scene with announcer := (l.announcer.abort t).1 } := by
  have hforgone {α : Type} : assign (fun _ => (none : Option α)) t none = fun _ => none := by
    funext t'
    unfold assign
    split <;> rfl
  have hscene (a : Announcer) : ({ l.scene with announcer := a } : Scene) =
      { l.scene with
        announcer := a
        registers := assign l.scene.registers t none
        withdrawals := assign l.scene.withdrawals t none } := by
    simp only [scene, hforgone]
  unfold Announcer.abort
  split
  · rename_i record stage hx
    cases stage with
    | claiming => exact .quit hx .refused (.inl rfl)
    | subscribing | registering | storing =>
      rw [hscene]
      exact .abandon hx rfl
  · rename_i target stage hx
    cases stage with
    | handed => exact .quit hx .handed (.inr ⟨rfl, rfl⟩)
    | taking => exact .quit hx .taking (.inl rfl)
    | withdrawing =>
      rw [hscene]
      exact .letGo hx rfl
  · rename_i hannounce hrelease
    refine .nothing fun x hx => ?_
    cases x with
    | announce => exact (hannounce _ _ hx).elim
    | release => exact (hrelease _ _ hx).elim
    | supervise => exact Option.some_ne_none _

/-- What an event does, whichever it is. -/
theorem Meets.of_meet? {l' : Lifetime} {event : AnnouncerEvent} (ho : Orderly l.scene)
    (h : l.meet? event = some l') : Meets l l' := by
  have hstart {x : AnnouncerTask} (hx : x.Starts) :
      Meets l { l with announcer := (l.announcer.spawn x).1 } :=
    .step rfl ho (.start hx) rfl rfl rfl
  cases event with
  | announce =>
    obtain rfl := Option.some.inj h
    exact hstart .announce
  | withdraw =>
    obtain rfl := Option.some.inj h
    exact hstart .handed
  | shutdown | dropHandle =>
    obtain rfl := Option.some.inj h
    exact hstart .taking
  | react task generation now signal =>
    obtain ⟨stepped, hstep, rfl⟩ := Option.map_eq_some_iff.1 h
    exact .react ho hstep
  | abort task =>
    obtain rfl := Option.some.inj h
    exact .abort (l.givesUp_abort task) rfl
  | elsewhere =>
    obtain rfl := Option.some.inj h
    exact .elsewhere rfl (Nat.le_add_right ..) rfl

end

/-! ## What every lifetime keeps -/

/-- What holds at any moment of a lifetime. -/
structure Steady (l : Lifetime) : Prop where
  order : Orderly l.scene
  status : l.announcer.Coherent
  supervision : l.announcer.Tended
  explained : l.announcer.Explained
  stranded : l.announcer.Stranded ↔ l.letGo = true

namespace Steady

variable {l l' : Lifetime}

theorem start (settings : AnnouncerSettings) (nextId : Nat) :
    Steady (start settings nextId) := by
  have hsound : Sound (Lifetime.start settings nextId).scene :=
    .start (fun _ => rfl) rfl rfl rfl rfl (fun _ => rfl) fun _ => rfl
  exact ⟨hsound.order, hsound.status, hsound.supervision, .of_status fun he => (by cases he),
    fun h => (by cases h.status), fun he => (by cases he)⟩

/-- The order does not depend on the requests. -/
theorem orderly_of {s : Scene} (h : Orderly s) (ha : s.announcer = l.scene.announcer)
    (hn : s.nextId ≤ l.nextId) : Orderly l.scene where
  line := ha ▸ h.line
  holder := ha ▸ h.holder
  tasks hx := ha ▸ h.tasks (ha ▸ hx)
  ids hx hid := Nat.lt_of_lt_of_le (h.ids (ha ▸ hx) hid) hn
  single hx hx' := h.single (ha ▸ hx) (ha ▸ hx')
  registers hc := by cases hc
  withdrawals hc := by cases hc

/-- To give a task up strands the announcer if the task held the lock. -/
theorem stranded_of_givesUp {s s' : Scene} {t : Nat} (h : s.GivesUp t s')
    (hcoh : s.announcer.Coherent) (ho : Orderly s) :
    s'.announcer.Stranded ↔ s.announcer.Stranded ∨ s.announcer.holdsLock t = true := by
  have hholdsLock {x : AnnouncerTask} (hx : s.announcer.tasks.get? t = some x) :
      s.announcer.holdsLock t = x.holdsLock := by
    rw [Announcer.holdsLock, hx]
    rfl
  cases h with
  | nothing hsupervises =>
    have hfree : s.announcer.holdsLock t = false := by
      rw [Announcer.holdsLock]
      cases hx : s.announcer.tasks.get? t with
      | none => rfl
      | some x =>
        cases x with
        | supervise => rfl
        | announce | release => exact absurd rfl (hsupervises _ hx)
    simp [hfree]
  | @quit x a hx hq ha =>
    have hfree : x.holdsLock = false := by cases hq <;> rfl
    have hsame : (a.endTask t).Stranded ↔ s.announcer.Stranded := by
      rcases ha with rfl | ⟨-, rfl⟩ <;> exact ⟨fun h => ⟨h.1, h.2⟩, fun h => ⟨h.1, h.2⟩⟩
    rw [hsame, hholdsLock hx, hfree]
    simp
  | @abandon x hx hclaims =>
    have hfree : x.holdsLock = false := by
      cases x with
      | announce => rfl
      | release | supervise => cases hclaims
    rw [hholdsLock hx, hfree]
    refine ⟨fun h => (by cases h.status), fun h => ?_⟩
    rcases h with h | he
    · cases h.status.symm.trans (hcoh.claimed hx hclaims).2.1
    · cases he
  | @letGo x hx hholds =>
    rw [hholdsLock hx, hholds]
    exact ⟨fun _ => .inr rfl, fun _ => ⟨(hcoh.held ((ho.holder t).2 ⟨x, hx, hholds⟩)).2, rfl⟩⟩

/-- Every event keeps it. -/
theorem meets (h : Steady l) (hl : Meets l l') : Steady l' := by
  cases hl with
  | @step s s' ha ho hs ha' hn' hletGo =>
    have hcoh : s.announcer.Coherent := ha ▸ h.status
    have htended : s.announcer.Tended := ha ▸ h.supervision
    have hexplained : s.announcer.Explained := ha ▸ h.explained
    refine ⟨orderly_of (ho.step hs) ha' (Nat.le_of_eq hn'), ha' ▸ hcoh.step ho hs,
      ha' ▸ htended.step hcoh ho hs, ha' ▸ hexplained.step ho hs, ?_⟩
    rw [hletGo, ← h.stranded, ← ha, ← ha']
    exact ⟨fun hs' => hs'.of_step trivial hs, fun hs' => hs'.step hcoh ho hs⟩
  | @abort t hgives hletGo =>
    have hs := hgives.step
    refine ⟨h.order.step hs, h.status.step h.order hs, h.supervision.step h.status h.order hs,
      h.explained.step h.order hs, ?_⟩
    rw [hletGo, Bool.or_eq_true, ← h.stranded]
    exact stranded_of_givesUp hgives h.status h.order
  | elsewhere ha hn hletGo =>
    exact ⟨orderly_of h.order ha.symm hn, ha ▸ h.status, ha ▸ h.supervision, ha ▸ h.explained,
      by rw [hletGo, ha]; exact h.stranded⟩

end Steady

section

variable {settings : AnnouncerSettings} {l : Lifetime}

theorem Lived.steady (h : Lived settings l) : Steady l := by
  induction h with
  | start nextId => exact .start settings nextId
  | step _ hl ih => exact ih.meets (.of_meet? ih.order hl)

end

end Lifetime

end ServiceDiscovery
