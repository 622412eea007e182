import ServiceDiscovery.Proofs.Announcer.Lifetime

/-!
# Announcers that share a directory

A network in which any number of announcers use one directory (`World.Sharing`): each
action is one of some announcer, and the others stand beside it. Of what an action
does they see no more than that the directory goes on and that numbers are taken, and
that a handle of theirs is dropped (`World.scene_of_act`).

So the scene of each is in order (`Scene.Upright`), and no registration is kept in two
places, whosever they are (`World.Sharing.apart`).
-/

namespace ServiceDiscovery

namespace Scene

/-- What holds in the scene of each of several announcers. -/
structure Upright (s : Scene) : Prop where
  order : Orderly s
  status : s.announcer.Coherent
  supervision : s.announcer.Tended
  ownership : Owned s

variable {s s' : Scene} {prompt : Prop}

theorem Sound.upright (h : Sound s) : Upright s :=
  ⟨h.order, h.status, h.supervision, h.ownership⟩

theorem Upright.step (h : Upright s) (hs : s.Step prompt s') : Upright s' where
  order := h.order.step hs
  status := h.status.step h.order hs
  supervision := h.supervision.step h.status h.order hs
  ownership := h.ownership.step h.order h.status h.supervision hs

/-- The directory goes on, and numbers are taken, while nothing happens in a scene. -/
theorem Upright.beside {registry : Registry} {nextId : Nat} (h : Upright s)
    (hl : s.registry.lastId ≤ registry.lastId) (hn : s.nextId ≤ nextId) :
    Upright { s with registry, nextId } where
  order :=
    ⟨h.order.line, h.order.holder, h.order.tasks,
      fun hx hid => Nat.lt_of_lt_of_le (h.order.ids hx hid) hn, h.order.single,
      h.order.registers, h.order.withdrawals⟩
  status := h.status
  supervision := h.supervision
  ownership := by
    have hkeeps (k : Keeper) : ({ s with registry, nextId } : Scene).keeps? k = s.keeps? k := by
      cases k <;> rfl
    refine ⟨fun h₁ h₂ => ?_, fun hid => ?_⟩
    · rw [hkeeps] at h₁ h₂
      exact h.ownership.single h₁ h₂
    · rw [hkeeps] at hid
      exact Nat.le_trans (h.ownership.old hid) hl

/-- What became of a scene in some steps: numbers only grow, and what is kept was kept
    before or is new. -/
structure Later (s s' : Scene) : Prop where
  lastId : s.registry.lastId ≤ s'.registry.lastId
  nextId : s.nextId ≤ s'.nextId
  kept : ∀ {k id}, s'.keeps? k = some id →
    (∃ k₀, s.keeps? k₀ = some id) ∨ s.registry.lastId < id

theorem Later.refl (s : Scene) : Later s s :=
  ⟨Nat.le_refl _, Nat.le_refl _, fun h => .inl ⟨_, h⟩⟩

theorem Step.nextId_le (hs : s.Step prompt s') : s.nextId ≤ s'.nextId := by
  cases hs.shape with
  | still _ hn | moved _ _ hn => exact Nat.le_of_eq hn.symm
  | join _ _ he | start _ he => exact he ▸ Nat.le_refl _
  | stored _ _ _ _ hn => exact hn ▸ Nat.le_succ _

theorem Later.step {s₀ : Scene} (h : Later s₀ s) (hu : Upright s) (hs : s.Step prompt s') :
    Later s₀ s' := by
  have hhands := hs.hands hu.order hu.status hu.supervision
  refine ⟨?_, Nat.le_trans h.nextId hs.nextId_le, fun hid => ?_⟩
  · rcases hhands.lastId with hl | ⟨hl, -⟩
    · exact hl ▸ h.lastId
    · exact hl ▸ Nat.le_succ_of_le h.lastId
  · rcases hhands.source hid with ⟨k₀, hk₀⟩ | ⟨rfl, -⟩
    · exact h.kept hk₀
    · exact .inr (Nat.lt_succ_of_le h.lastId)

/-- A release is started in a scene. -/
theorem keeps?_spawn_release (h : Upright s) (id : Nat) (k : Keeper) :
    ({ s with announcer := (s.announcer.spawn (.release (some id) .taking)).1 } : Scene).keeps? k =
      s.keeps? k := by
  cases k with
  | hand t => exact congrArg (Option.map _) (inHand?_spawn h.order rfl t)
  | announcement | answer | withdrawal => rfl

end Scene

/-- A task that is given up drops a handle only if it did nothing with it yet. -/
theorem Announcer.abort_effects (a : Announcer) (t : Nat) :
    (∀ id, .drop id ∉ (a.abort t).2) ∨
      ∃ id, a.tasks.get? t = some (.release (some id) .handed) ∧
        a.abort t = (a.endTask t, [.drop id]) := by
  rw [Announcer.abort]
  split
  · rename_i stage _
    cases stage <;> exact .inl (by simp [Announcer.abortAnnounce])
  · rename_i target stage hx
    cases stage with
    | taking | withdrawing => exact .inl (by simp [Announcer.abortRelease])
    | handed =>
      cases target with
      | none => exact .inl (by simp [Announcer.abortRelease])
      | some id => exact .inr ⟨id, hx, rfl⟩
  · exact .inl (by simp)

namespace World

/-- A network in which the announcers of some names are new. -/
def withAnnouncers (settings : Association String AnnouncerSettings) : World :=
  { ({} : World) with announcers := settings.mapValues fun _ settings => { settings } }

/-- The networks in which announcers that share a directory may find themselves. -/
inductive Sharing (settings : Association String AnnouncerSettings) : World → Prop
  | start : Sharing settings (withAnnouncers settings)
  | step {w w' : World} {name : String} {action : AnnouncerAction} : Sharing settings w →
      w.act? name action = some w' → Sharing settings w'

open Scene

section

variable {w w' : World} {name other : String} {action : AnnouncerAction}

/-! ## Beside an announcer -/

/-- The announcer of a name, and its requests, are as they were. -/
structure Beside (w w' : World) (name : String) : Prop where
  announcer : w'.announcer name = w.announcer name
  registers : ∀ t, w'.registerCalls.get? ⟨name, t⟩ = w.registerCalls.get? ⟨name, t⟩
  withdrawals : ∀ t, w'.withdrawCalls.get? ⟨name, t⟩ = w.withdrawCalls.get? ⟨name, t⟩

theorem Beside.refl (w : World) (name : String) : Beside w w name :=
  ⟨rfl, fun _ => rfl, fun _ => rfl⟩

theorem Beside.trans {w'' : World} (h : Beside w w' name) (h' : Beside w' w'' name) :
    Beside w w'' name :=
  ⟨h'.announcer.trans h.announcer, fun t => (h'.registers t).trans (h.registers t),
    fun t => (h'.withdrawals t).trans (h.withdrawals t)⟩

theorem conclude_frame (w : World) (p : Process) (result : TaskResult) :
    w.conclude p result =
      { w with
        names := (w.conclude p result).names
        results := (w.conclude p result).results } := by
  unfold conclude
  split <;> rfl

theorem announcer_setAnnouncer (w : World) (name : String) (a : Announcer) (n : String) :
    (w.setAnnouncer name a).announcer n = if n = name then a else w.announcer n := by
  rw [announcer, setAnnouncer, Association.get?_put]
  split <;> rfl

theorem beside_setAnnouncer (hne : other ≠ name) (w : World) (a : Announcer) :
    Beside w (w.setAnnouncer name a) other :=
  ⟨(announcer_setAnnouncer ..).trans (if_neg hne), fun _ => rfl, fun _ => rfl⟩

theorem get?_put_task_of_ne {α : Type} (hne : other ≠ name) (m : Association TaskRef α)
    (t t' : Nat) (value : α) : (m.put ⟨name, t⟩ value).get? ⟨other, t'⟩ = m.get? ⟨other, t'⟩ :=
  m.get?_put_of_ne value fun he => hne (TaskRef.mk.inj he).1

theorem get?_erase_task_of_ne {α : Type} (hne : other ≠ name) (m : Association TaskRef α)
    (t t' : Nat) : (m.erase ⟨name, t⟩).get? ⟨other, t'⟩ = m.get? ⟨other, t'⟩ :=
  m.get?_erase_of_ne fun he => hne (TaskRef.mk.inj he).1

/-- What a step does outside is not done to another announcer, unless a handle is
    dropped. -/
theorem beside_applyEffect (hne : other ≠ name) (w : World) {effect : AnnouncerEffect}
    (h : ∀ id, effect ≠ .drop id) : Beside w (applyEffect name w effect) other := by
  cases effect with
  | register t => exact ⟨rfl, fun t' => get?_put_task_of_ne hne _ t t' _, fun _ => rfl⟩
  | withdraw t => exact ⟨rfl, fun _ => rfl, fun t' => get?_put_task_of_ne hne _ t t' _⟩
  | forgo t =>
    exact ⟨rfl, get?_erase_task_of_ne hne w.registerCalls t,
      get?_erase_task_of_ne hne w.withdrawCalls t⟩
  | drop id => exact absurd rfl (h id)
  | ended t result =>
    cases result with
    | announced | refused | released | unattended =>
      simp only [applyEffect]
      rw [conclude_frame]
      exact ⟨rfl, fun _ => rfl, fun _ => rfl⟩

theorem beside_effects (hne : other ≠ name) (w : World) {effects : List AnnouncerEffect}
    (h : ∀ id, .drop id ∉ effects) : Beside w (effects.foldl (applyEffect name) w) other := by
  induction effects generalizing w with
  | nil => exact .refl w other
  | cons effect effects ih =>
    have hfirst : ∀ id, effect ≠ .drop id := fun id he => h id (he ▸ List.mem_cons_self)
    exact (beside_applyEffect hne w hfirst).trans
      (ih _ fun id hm => h id (List.mem_cons_of_mem _ hm))

theorem beside_afterAnnouncer (hne : other ≠ name) (w : World) {stepped : Announcer.Stepped}
    (h : ∀ id, .drop id ∉ stepped.2) : Beside w (w.afterAnnouncer name stepped) other :=
  (beside_setAnnouncer hne w stepped.1).trans (beside_effects hne _ h)

/-- What the announcers are after a step of one. -/
theorem announcer_afterAnnouncer (w : World) {stepped : Announcer.Stepped}
    (h : ∀ id, .drop id ∉ stepped.2) (n : String) :
    (w.afterAnnouncer name stepped).announcer n =
      if n = name then stepped.1 else w.announcer n := by
  split
  · rename_i hn
    subst hn
    have hself := (Lifetime.scene_effects (w.setAnnouncer n stepped.1) n h).1
    rw [scene_setAnnouncer] at hself
    exact hself
  · rename_i hn
    exact (beside_afterAnnouncer hn w h).announcer

theorem beside_signal (hne : other ≠ name) {t : Nat} {signal : AnnouncerSignal}
    (h : w.signal? ⟨name, t⟩ signal = some w') : Beside w w' other := by
  obtain ⟨stepped, hstep, rfl⟩ := signal?_eq_some h
  exact beside_afterAnnouncer hne w (Lifetime.drop_not_mem hstep)

theorem beside_register (hne : other ≠ name) {t : Nat}
    (h : w.stepRegisterCall? ⟨name, t⟩ = some w') : Beside w w' other := by
  obtain ⟨call, -, h⟩ := Option.bind_eq_some_iff.1 h
  split at h
  · have hafter := beside_signal hne h
    exact ⟨hafter.announcer,
      fun t' => (hafter.registers t').trans (get?_erase_task_of_ne hne w.registerCalls t t'),
      hafter.withdrawals⟩
  · obtain ⟨⟨registry, call'⟩, -, rfl⟩ := Option.map_eq_some_iff.1 h
    exact ⟨rfl, fun t' => get?_put_task_of_ne hne _ t t' _, fun _ => rfl⟩

theorem beside_unregister (hne : other ≠ name) {t : Nat}
    (h : w.stepWithdrawCall? ⟨name, t⟩ = some w') : Beside w w' other := by
  obtain ⟨call, -, h⟩ := Option.bind_eq_some_iff.1 h
  split at h
  · have hafter := beside_signal hne h
    exact ⟨hafter.announcer, hafter.registers,
      fun t' => (hafter.withdrawals t').trans (get?_erase_task_of_ne hne w.withdrawCalls t t')⟩
  · obtain ⟨⟨registry, call'⟩, -, rfl⟩ := Option.map_eq_some_iff.1 h
    exact ⟨rfl, fun _ => rfl, fun t' => get?_put_task_of_ne hne _ t t' _⟩

/-- A release of a handle that is dropped is started with the owner. -/
theorem announcer_dropHandle (w : World) (id : Nat) (n : String) :
    (w.dropHandle id).announcer n =
      if w.owners.get? id = some n then ((w.announcer n).spawn (.release (some id) .taking)).1
      else w.announcer n := by
  rw [dropHandle]
  split
  · rename_i hnone
    rw [hnone, if_neg (by simp)]
  · rename_i owner howner
    rw [howner, startTask, announcer_setAnnouncer]
    by_cases hn : n = owner
    · subst hn
      rw [if_pos rfl, if_pos rfl, Announcer.dropHandle]
    · rw [if_neg hn, if_neg fun he => hn (Option.some.inj he).symm]

theorem dropHandle_frame (w : World) (id : Nat) :
    w.dropHandle id = { w with announcers := (w.dropHandle id).announcers } := by
  unfold dropHandle
  split <;> rfl

/-- An announcer is as it was, or a handle of its own was dropped. -/
structure Aside (w w' : World) (name : String) : Prop where
  announcer : w'.announcer name = w.announcer name ∨
    ∃ id, w'.announcer name = ((w.announcer name).spawn (.release (some id) .taking)).1
  registers : ∀ t, w'.registerCalls.get? ⟨name, t⟩ = w.registerCalls.get? ⟨name, t⟩
  withdrawals : ∀ t, w'.withdrawCalls.get? ⟨name, t⟩ = w.withdrawCalls.get? ⟨name, t⟩

theorem Beside.aside (h : Beside w w' name) : Aside w w' name :=
  ⟨.inl h.announcer, h.registers, h.withdrawals⟩

theorem aside_dropHandle (w : World) (id : Nat) (name : String) :
    Aside w (w.dropHandle id) name := by
  rw [dropHandle_frame]
  refine ⟨?_, fun _ => rfl, fun _ => rfl⟩
  have hannouncer : ({ w with announcers := (w.dropHandle id).announcers } : World).announcer name =
      (w.dropHandle id).announcer name := by rw [dropHandle_frame]
  rw [hannouncer, announcer_dropHandle]
  split
  · exact .inr ⟨id, rfl⟩
  · exact .inl rfl

theorem aside_abortTask (hne : other ≠ name) (w : World) (t : Nat) :
    Aside w (w.abortTask ⟨name, t⟩) other := by
  have hafter : Aside w (w.afterAnnouncer name ((w.announcer name).abort t)) other := by
    rcases (w.announcer name).abort_effects t with hnone | ⟨id, -, he⟩
    · exact (beside_afterAnnouncer hne w hnone).aside
    · rw [he]
      have hset := beside_setAnnouncer hne w ((w.announcer name).endTask t)
      have hdrop := aside_dropHandle (w.setAnnouncer name ((w.announcer name).endTask t)) id other
      exact ⟨hset.announcer ▸ hdrop.announcer, hdrop.registers, hdrop.withdrawals⟩
  rw [abortTask, conclude_frame]
  exact ⟨hafter.announcer, hafter.registers, hafter.withdrawals⟩

/-- Whatever an announcer does, the others stand beside it, or have a handle of their
    own dropped. -/
theorem aside_of_act (hne : other ≠ name) (hw : w.act? name action = some w') :
    Aside w w' other := by
  cases action with
  | announce | withdraw | shutdown =>
    obtain rfl := Option.some.inj hw
    exact (beside_setAnnouncer hne w _).aside
  | dropHandle id =>
    obtain rfl := Option.some.inj hw
    exact aside_dropHandle w id other
  | proceed | stop | expire => exact (beside_signal hne hw).aside
  | register => exact (beside_register hne hw).aside
  | unregister => exact (beside_unregister hne hw).aside
  | abort t =>
    obtain rfl := Option.some.inj hw
    exact aside_abortTask hne w t
  | change | lag | wait =>
    obtain rfl := Option.some.inj hw
    exact ⟨.inl rfl, fun _ => rfl, fun _ => rfl⟩

theorem Aside.keeps? (h : Aside w w' name) (hu : Upright (w.scene name)) (k : Keeper) :
    (w'.scene name).keeps? k = (w.scene name).keeps? k := by
  have hspawn := keeps?_spawn_release hu
  cases k with
  | announcement =>
    rcases h.announcer with ha | ⟨id, ha⟩
    · simp only [Scene.keeps?, scene, ha]
    · simp only [Scene.keeps?, scene, ha]
      rfl
  | hand t =>
    rcases h.announcer with ha | ⟨id, ha⟩
    · simp only [Scene.keeps?, Scene.inHand?, scene, ha]
    · refine Eq.trans ?_ (hspawn id (.hand t))
      simp only [Scene.keeps?, Scene.inHand?, scene, ha]
  | answer t => simp only [Scene.keeps?, scene, h.registers]
  | withdrawal t => simp only [Scene.keeps?, scene, h.withdrawals]

/-- What becomes of the scene of an announcer by another's actions. -/
theorem Aside.upright (h : Aside w w' name) (hu : Upright (w.scene name))
    (hl : w.registry.lastId ≤ w'.registry.lastId) (hn : w.nextAnnouncement ≤ w'.nextAnnouncement) :
    Upright (w'.scene name) := by
  have hbeside := hu.beside hl hn
  have hregisters : (fun t => w'.registerCalls.get? ⟨name, t⟩) =
      fun t => w.registerCalls.get? ⟨name, t⟩ := funext h.registers
  have hwithdrawals : (fun t => w'.withdrawCalls.get? ⟨name, t⟩) =
      fun t => w.withdrawCalls.get? ⟨name, t⟩ := funext h.withdrawals
  rcases h.announcer with ha | ⟨id, ha⟩
  · simp only [scene, ha, hregisters, hwithdrawals]
    exact hbeside
  · simp only [scene, ha, hregisters, hwithdrawals]
    exact hbeside.step (.start .taking : Scene.Step False _ _)

end

/-! ## All of them -/

namespace Sharing

variable {settings : Association String AnnouncerSettings} {w w' : World} {name : String}
  {action : AnnouncerAction}

/-- What an action makes of the scene of the announcer that acts. -/
theorem acted (hu : Upright (w.scene name)) (hw : w.act? name action = some w') :
    Upright (w'.scene name) ∧ Later (w.scene name) (w'.scene name) :=
  @Scene.Step.act w w' name action (fun s => Upright s ∧ Later (w.scene name) s)
    (fun _ _ h hs => ⟨h.1.step hs, h.2.step h.1 hs⟩) ⟨hu, .refl _⟩ hw

/-- Every announcer is new in the beginning. -/
theorem announcer_withAnnouncers (settings : Association String AnnouncerSettings) (n : String) :
    ∃ s, (withAnnouncers settings).announcer n = { settings := s } := by
  refine ⟨(settings.get? n).getD {}, ?_⟩
  rw [withAnnouncers, announcer, Association.get?_mapValues]
  cases settings.get? n <;> rfl

theorem upright_start (settings : Association String AnnouncerSettings) (n : String) :
    Upright ((withAnnouncers settings).scene n) := by
  obtain ⟨s, hs⟩ := announcer_withAnnouncers settings n
  rw [scene, hs]
  exact (Sound.start (fun _ => rfl) rfl rfl rfl rfl (fun _ => rfl) fun _ => rfl).upright

theorem upright (h : Sharing settings w) (n : String) : Upright (w.scene n) := by
  induction h generalizing n with
  | start => exact upright_start settings n
  | @step w w' name action _ hw ih =>
    obtain ⟨hupright, hlater⟩ := acted (ih name) hw
    by_cases hn : n = name
    · exact hn ▸ hupright
    · exact (aside_of_act hn hw).upright (ih n) hlater.lastId hlater.nextId

/-- What an announcer keeps after another's action it kept before; what the other keeps
    is neither. -/
theorem apart_of_act (hshare : Sharing settings w) (hw : w.act? name action = some w')
    (ih : ∀ {n n' k k' id}, (w.scene n).keeps? k = some id → (w.scene n').keeps? k' = some id →
      n = n' ∧ k = k') {n : String} (hn : n ≠ name) {k k' : Keeper} {id : Nat}
    (hk : (w'.scene n).keeps? k = some id) : (w'.scene name).keeps? k' ≠ some id := by
  intro hk'
  rw [(aside_of_act hn hw).keeps? (hshare.upright n)] at hk
  rcases (acted (hshare.upright name) hw).2.kept hk' with ⟨k₀, hk₀⟩ | hnew
  · exact hn (ih hk hk₀).1
  · exact absurd ((hshare.upright n).ownership.old hk) (Nat.not_le_of_lt hnew)

/-- No registration is kept in two places, whoever keeps it. -/
theorem apart (h : Sharing settings w) {n n' : String} {k k' : Keeper} {id : Nat}
    (hk : (w.scene n).keeps? k = some id) (hk' : (w.scene n').keeps? k' = some id) :
    n = n' ∧ k = k' := by
  induction h generalizing n n' k k' id with
  | start =>
    have hnone : ((withAnnouncers settings).scene n).keeps? k = none := by
      obtain ⟨s, hs⟩ := announcer_withAnnouncers settings n
      rw [scene, hs]
      cases k <;> rfl
    cases hnone.symm.trans hk
  | @step w w' name action hshare hw ih =>
    by_cases hn : n = name
    · by_cases hn' : n' = name
      · subst hn hn'
        exact ⟨rfl, ((hshare.step hw).upright _).ownership.single hk hk'⟩
      · subst hn
        exact absurd hk (apart_of_act hshare hw ih hn' hk')
    · by_cases hn' : n' = name
      · subst hn'
        exact absurd hk' (apart_of_act hshare hw ih hn hk)
      · rw [(aside_of_act hn hw).keeps? (hshare.upright n)] at hk
        rw [(aside_of_act hn' hw).keeps? (hshare.upright n')] at hk'
        exact ih hk hk'

end Sharing

end World

end ServiceDiscovery
