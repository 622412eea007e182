import ServiceDiscovery.Proofs.Announcer.Balance

/-!
# Releases and what is announced

What a step of a task means for the releases of an announcer and for what is announced
(`Announcer.Turn`). Only a release takes the announcement, if it is meant for it, or a
supervisor drops it whose name is taken; only an announce stores one. A release goes on
by its own steps alone.
-/

namespace ServiceDiscovery

/-- What a release is meant for, and how far it is. -/
def AnnouncerTask.release? : AnnouncerTask → Option (Option Nat × ReleaseStage)
  | release target stage => some (target, stage)
  | _ => none

/-- The announcement that a step makes known. -/
def AnnouncerEffect.announced? : AnnouncerEffect → Option Nat
  | ended _ (.announced id _) => some id
  | _ => none

namespace Announcer

/-- What the release of a number is meant for, and how far it is. -/
def release? (a : Announcer) (t : Nat) : Option (Option Nat × ReleaseStage) :=
  (a.tasks.get? t).bind AnnouncerTask.release?

/-- The number of the current announcement. -/
def currentId? (a : Announcer) : Option Nat := a.current.map (·.id)

/-- The announcement that a task is about to take in a shutdown, or to drop. -/
def vacated (a : Announcer) (t : Nat) : Option Nat :=
  match a.tasks.get? t with
  | some (.release none .taking) => if a.mayEnter t then a.currentId? else none
  | some (.supervise id _ _ .dropping) =>
    if a.mayEnter t && a.isCurrent id then some id else none
  | _ => none

/-- How a release goes on, to another stage or to its end. -/
inductive Releases (a a' : Announcer) (t : Nat) (target : Option Nat) :
    ReleaseStage → Option ReleaseStage → Prop
  | handed : a'.current = a.current → a'.status = a.status →
      Releases a a' t target .handed (some .taking)
  | joined : a.mayEnter t = false → a'.current = a.current → a'.status = a.status →
      Releases a a' t target .taking (some .taking)
  /-- What is announced, if anything, is not what the release is meant for. -/
  | missed : a.current.filter (isTarget target) = none → a'.current = a.current →
      a'.status = a.status → Releases a a' t target .taking none
  | taken {announcement : Announcement} (after : Option ReleaseStage) : a.mayEnter t = true →
      a.current.filter (isTarget target) = some announcement → a'.current = none →
      (∀ s, after = some s → ∃ registration deadline, s = .withdrawing registration deadline) →
      Releases a a' t target .taking after
  | ended {registration : Registration} {deadline : Nat} : a'.current = a.current →
      Releases a a' t target (.withdrawing registration deadline) none

/-- What a step of a task means for releases and for what is announced. -/
inductive Turn (a : Announcer) (view : AnnouncerView) (t : Nat) : Stepped → Prop
  | release {target : Option Nat} {stage : ReleaseStage} {after : Option ReleaseStage}
      {stepped : Stepped} : a.tasks.get? t = some (.release target stage) →
      Releases a stepped.1 t target stage after →
      (∀ t', stepped.1.release? t' =
        if t' = t then after.map (target, ·) else a.release? t') →
      (∀ effect ∈ stepped.2, effect.announced? = none) → Turn a view t stepped
  /-- A task that is no release goes on or ends, and leaves what is announced. -/
  | other {stepped : Stepped} : a.release? t = none → a.vacated t = none →
      (∀ t', stepped.1.release? t' = a.release? t') →
      stepped.1.currentId? = a.currentId? →
      (∀ effect ∈ stepped.2, effect.announced? = none) → Turn a view t stepped
  | stored {a' : Announcer} {record : ServiceRecord} : a.release? t = none → a.vacated t = none →
      (∀ t', a'.release? t' = a.release? t') → a.currentId? = none →
      a'.currentId? = some view.nextId →
      Turn a view t (a', [.ended t (.announced view.nextId record)])
  | dropped {a' : Announcer} {id seen : Nat} {cancelled : Bool} :
      a.tasks.get? t = some (.supervise id seen cancelled .dropping) → a.mayEnter t = true →
      (∀ t', a'.release? t' = a.release? t') → a.currentId? = some id → a'.currentId? = none →
      Turn a view t (a', [.ended t .unattended])

variable {a a' : Announcer} {t : Nat} {x : AnnouncerTask} {y : Option AnnouncerTask}
  {stopped : Option Nat} {view : AnnouncerView} {signal : AnnouncerSignal} {stepped : Stepped}
  {effects : List AnnouncerEffect}

theorem isCurrent_iff {id : Nat} : a.isCurrent id = true ↔ a.currentId? = some id := by
  rw [isCurrent, currentId?]
  cases a.current <;> simp

/-- A task goes on as another or ends; so do releases. -/
theorem release?_of_tasks (htasks : ∀ t', a'.tasks.get? t' =
      if t' = t then y else (a.tasks.get? t').map (AnnouncerTask.told stopped)) (t' : Nat) :
    a'.release? t' = if t' = t then y.bind AnnouncerTask.release? else a.release? t' := by
  rw [release?, htasks]
  split
  · rfl
  · rw [release?]
    cases a.tasks.get? t' with
    | none => rfl
    | some z => cases z <;> rfl

namespace Turn

/-- A task that is no release goes on as no release, or ends. -/
theorem others (hx : a.tasks.get? t = some x) (hrelease : x.release? = none)
    (hvacated : a.vacated t = none)
    (htasks : ∀ t', a'.tasks.get? t' =
      if t' = t then y else (a.tasks.get? t').map (AnnouncerTask.told stopped))
    (hy : y.bind AnnouncerTask.release? = none) (hc : a'.currentId? = a.currentId?)
    (heffects : ∀ effect ∈ effects, effect.announced? = none) : Turn a view t (a', effects) := by
  have hnone : a.release? t = none := by rw [release?, hx, Option.bind_some, hrelease]
  refine .other hnone hvacated (fun t' => ?_) hc heffects
  rw [release?_of_tasks htasks, hy]
  split
  · rename_i ht
    rw [ht, hnone]
  · rfl

/-- A task gets in line. -/
theorem join (hx : a.tasks.get? t = some x) (hrelease : x.release? = none)
    (hvacated : a.vacated t = none) : Turn a view t (a.joinLine t, []) := by
  have hnone : a.release? t = none := by rw [release?, hx, Option.bind_some, hrelease]
  exact .other hnone hvacated (fun _ => rfl) rfl fun _ hm => absurd hm List.not_mem_nil

end Turn

/-- No effect makes an announcement known. -/
theorem announced?_finish (t : Nat) {result : AnnouncerResult} (h : result.announces = false) :
    ∀ effect ∈ [AnnouncerEffect.ended t result], effect.announced? = none := by
  cases result with
  | announced => cases h
  | refused | released | unattended => simp [AnnouncerEffect.announced?]

theorem turn_of_stepAnnounce {record : ServiceRecord} {stage : AnnounceStage}
    (hv : Vacant a) (hfresh : a.tasks.get? a.nextTask = none)
    (hx : a.tasks.get? t = some (.announce record stage))
    (h : a.stepAnnounce view t record stage signal = some stepped) : Turn a view t stepped := by
  have hvacated : a.vacated t = none := by rw [vacated, hx]
  cases stage with
  | claiming =>
    cases signal with
    | registered | withdrawn | expired | stopped => cases h
    | proceed =>
      rw [stepAnnounce] at h
      split at h
      · obtain rfl := Option.some.inj h
        exact .others hx rfl hvacated get?_endTask rfl rfl (announced?_finish t rfl)
      · rcases guarded_eq_some h with ⟨-, rfl⟩ | ⟨-, rfl⟩
        · rw [claim]
          split
          · exact .others hx rfl hvacated get?_endTask rfl rfl (announced?_finish t rfl)
          · exact .others hx rfl hvacated get?_setTask rfl rfl (by simp)
        · exact .join hx rfl hvacated
  | subscribing =>
    cases signal with
    | registered | withdrawn | expired | stopped => cases h
    | proceed =>
      obtain rfl := Option.some.inj h
      exact .others hx rfl hvacated get?_setTask rfl rfl (by simp [AnnouncerEffect.announced?])
  | registering seen =>
    cases signal with
    | proceed | withdrawn | expired | stopped => cases h
    | registered result =>
      cases result with
      | ok registration =>
        obtain rfl := Option.some.inj h
        exact .others hx rfl hvacated get?_setTask rfl rfl (by simp)
      | error error =>
        obtain rfl := Option.some.inj h
        exact .others hx rfl hvacated get?_endTask rfl rfl (announced?_finish t rfl)
  | storing seen registration =>
    cases signal with
    | registered | withdrawn | expired | stopped => cases h
    | proceed =>
      rcases guarded_eq_some h with ⟨-, rfl⟩ | ⟨-, rfl⟩
      · have hnone : a.release? t = none := by rw [release?, hx]; rfl
        rw [store]
        refine .stored hnone hvacated (fun t' => ?_) (by rw [currentId?, hv.storing hx]; rfl) rfl
        change (((a.tasks.put a.nextTask _).erase t).get? t').bind _ = _
        rw [Association.get?_erase, Association.get?_put]
        split
        · rename_i ht
          rw [ht, hnone]
          rfl
        · -- The new supervisor is no task that was there.
          split
          · rename_i ht
            rw [ht, release?, hfresh]
            rfl
          · rfl
      · exact .join hx rfl hvacated

theorem turn_of_stepRelease {target : Option Nat} {stage : ReleaseStage}
    (hx : a.tasks.get? t = some (.release target stage))
    (h : a.stepRelease view t target stage signal = some stepped) : Turn a view t stepped := by
  have hself : a.release? t = some (target, stage) := by rw [release?, hx]; rfl
  cases stage with
  | handed =>
    cases signal with
    | registered | withdrawn | expired | stopped => cases h
    | proceed =>
      obtain rfl := Option.some.inj h
      exact .release hx (.handed rfl rfl) (release?_of_tasks get?_setTask) (by simp)
  | taking =>
    cases signal with
    | registered | withdrawn | expired | stopped => cases h
    | proceed =>
      rcases guarded_eq_some h with ⟨hm, rfl⟩ | ⟨hm, rfl⟩
      · rw [take]
        split
        · rename_i hmissed
          exact .release hx (.missed hmissed rfl rfl) (release?_of_tasks get?_endTask)
            (announced?_finish t rfl)
        · rename_i announcement hfound
          dsimp only
          split
          · exact .release hx (.taken none hm hfound rfl (by simp))
              (release?_of_tasks (get?_stopSupervisor_endTask (a := a) announcement.id))
              (announced?_finish t rfl)
          · exact .release hx
              (.taken (some _) hm hfound rfl fun _ he => ⟨_, _, (Option.some.inj he).symm⟩)
              (release?_of_tasks (get?_stopSupervisor_setTask (a := a) announcement.id))
              (by simp [AnnouncerEffect.announced?])
      · refine .release hx (.joined hm rfl rfl) (fun t' => ?_) (by simp)
        split
        · rename_i ht
          rw [ht]
          exact hself
        · rfl
  | withdrawing registration deadline =>
    have hended : Turn a view t (a.released t) :=
      .release hx (.ended rfl) (release?_of_tasks get?_endTask)
        (by simp [released, finishForgoing, AnnouncerEffect.announced?])
    cases signal with
    | proceed | registered | stopped => cases h
    | withdrawn =>
      obtain rfl := Option.some.inj h
      exact hended
    | expired =>
      obtain ⟨-, hstepped⟩ := Option.ite_none_right_eq_some.1 h
      obtain rfl := Option.some.inj hstepped
      exact hended

/-- A supervisor drops what is announced only if it enters the lock to do so. -/
theorem vacated_of_supervise {id seen : Nat} {cancelled : Bool} {stage : SuperviseStage}
    (hx : a.tasks.get? t = some (.supervise id seen cancelled stage)) (hstage : stage ≠ .dropping) :
    a.vacated t = none := by
  rw [vacated, hx]
  cases stage with
  | dropping => exact absurd rfl hstage
  | watching | forgetting | calling | registering | pausing | adopting | returning => rfl

theorem vacated_dropping {id seen : Nat} {cancelled : Bool}
    (hx : a.tasks.get? t = some (.supervise id seen cancelled .dropping)) :
    a.vacated t = if a.mayEnter t && a.isCurrent id then some id else none := by
  rw [vacated, hx]

theorem turn_of_stepSupervise {id seen : Nat} {cancelled : Bool} {stage : SuperviseStage}
    (hx : a.tasks.get? t = some (.supervise id seen cancelled stage))
    (h : a.stepSupervise view t id seen cancelled stage signal = some stepped) :
    Turn a view t stepped := by
  have hnone (houtside : (AnnouncerTask.supervise id seen cancelled stage).awaitsLock = false) :
      a.vacated t = none :=
    vacated_of_supervise hx (by rintro rfl; cases houtside)
  cases supervises_of_stepSupervise h with
  | noticed => exact .others hx rfl (hnone rfl) get?_setTask rfl rfl (by simp)
  | goes houtside _ _ _ heffects =>
    refine .others hx rfl (hnone houtside) get?_setTask rfl rfl ?_
    rcases heffects with rfl | ⟨_, rfl⟩ <;> simp [AnnouncerEffect.announced?]
  | registered => exact .others hx rfl (hnone rfl) get?_setTask rfl rfl (by simp)
  | ends houtside _ heffects =>
    refine .others hx rfl (hnone houtside) get?_endTask rfl rfl ?_
    rcases heffects with rfl | rfl <;> simp [AnnouncerEffect.announced?]
  | forgets hguarded =>
    have hnone := vacated_of_supervise hx (by simp)
    rcases guarded_eq_some hguarded with ⟨-, rfl⟩ | ⟨-, rfl⟩
    · rw [forget]
      split
      · exact .others hx rfl hnone get?_endTask rfl rfl (announced?_finish t rfl)
      · rename_i announcement hfound
        have hc : a.current = some announcement := (filter_current_eq_some hfound).1
        refine .others hx rfl hnone get?_setTask rfl ?_ (by simp)
        rw [currentId?, currentId?, hc]
        rfl
    · exact .join hx rfl hnone
  | drops hguarded =>
    have hdropping := vacated_dropping hx
    rcases guarded_eq_some hguarded with ⟨hm, rfl⟩ | ⟨hm, rfl⟩
    · rw [drop]
      split
      · rename_i hcurrent
        have hcurrent : a.isCurrent id = true := hcurrent
        refine .dropped hx hm (fun t' => ?_) (isCurrent_iff.1 hcurrent) rfl
        refine (release?_of_tasks (get?_stopSupervisor_endTask (a := a) id) t').trans ?_
        split
        · rename_i ht
          rw [ht, release?, hx]
          rfl
        · rfl
      · rename_i hgone
        have hgone : a.isCurrent id ≠ true := hgone
        refine .others hx rfl ?_ get?_endTask rfl rfl (announced?_finish t rfl)
        rw [hdropping, eq_false_of_ne_true hgone, Bool.and_false]
        rfl
    · refine .join hx rfl ?_
      rw [hdropping, hm]
      rfl
  | adopts hguarded =>
    have hnone := vacated_of_supervise hx (by simp)
    rcases guarded_eq_some hguarded with ⟨-, rfl⟩ | ⟨-, rfl⟩
    · rw [adopt]
      split
      · rename_i announcement hfound
        have hc : a.current = some announcement := (filter_current_eq_some hfound).1
        refine .others hx rfl hnone get?_setTask rfl ?_ (by simp)
        rw [currentId?, currentId?, hc]
        rfl
      · exact .others hx rfl hnone get?_setTask rfl rfl (by simp [AnnouncerEffect.announced?])
    · exact .join hx rfl hnone

/-- What a step of any task means. -/
theorem turn_of_step? (hv : Vacant a) (hfresh : a.tasks.get? a.nextTask = none)
    (h : a.step? view t signal = some stepped) : Turn a view t stepped := by
  unfold step? at h
  split at h
  · cases h
  · exact turn_of_stepAnnounce hv hfresh ‹_› h
  · exact turn_of_stepRelease ‹_› h
  · exact turn_of_stepSupervise ‹_› h

/-- Only a task that goes on by itself takes or drops anything. -/
theorem vacated_eq_none (h : a.step? view t signal = some stepped) (hsignal : signal ≠ .proceed) :
    a.vacated t = none := by
  rw [vacated]
  split
  · rename_i hx
    rw [step?, hx] at h
    cases signal with
    | proceed => exact absurd rfl hsignal
    | registered | withdrawn | expired | stopped => cases h
  · rename_i hx
    rw [step?, hx] at h
    cases signal with
    | proceed => exact absurd rfl hsignal
    | registered result => cases result <;> cases h
    | withdrawn | expired | stopped => cases h
  · rfl

/-! ## What becomes of the current announcement -/

/-- A release is meant for an announcement and did not take it yet. -/
def Pending (a : Announcer) (t id : Nat) : Prop :=
  a.release? t = some (some id, .handed) ∨ a.release? t = some (some id, .taking)

/-- What is announced stays, or is let go by a step of a task. -/
structure Lets (a a' : Announcer) (t : Nat) : Prop where
  current : a'.currentId? = a.currentId? ∨ a'.currentId? = none
  /-- Only a release lets go what is announced that is meant for it, a shutdown, or a
      supervisor. -/
  lost : ∀ {id}, a.currentId? = some id → a'.currentId? = none →
    a.vacated t = some id ∨ ∃ stage, a.release? t = some (some id, stage)
  vacated : ∀ {id}, a.vacated t = some id → a.currentId? = some id ∧ a'.currentId? = none
  /-- Releases are those that there were. -/
  release : ∀ {t' target stage}, a'.release? t' = some (target, stage) →
    ∃ before, a.release? t' = some (target, before)
  /-- What a release was meant for is not announced once the release goes further. -/
  pending : ∀ {t' id}, a.Pending t' id → a'.Pending t' id ∨ a'.currentId? ≠ some id

/-- Nothing is let go while no release goes on. -/
theorem Lets.of_same (hrelease : ∀ t', a'.release? t' = a.release? t')
    (hc : a'.currentId? = a.currentId?) (hvacated : a.vacated t = none) : Lets a a' t where
  current := .inl hc
  lost hid hnone := by
    rw [hc, hid] at hnone
    cases hnone
  vacated hid := by
    rw [hvacated] at hid
    cases hid
  release h := ⟨_, (hrelease _).symm.trans h⟩
  pending h := .inl (h.imp (hrelease _).trans (hrelease _).trans)

theorem currentId?_of_filter {target : Option Nat} {announcement : Announcement}
    (h : a.current.filter (isTarget target) = some announcement) :
    a.currentId? = some announcement.id ∧ ∀ id, target = some id → id = announcement.id := by
  obtain ⟨hc, htarget⟩ := Option.filter_eq_some_iff.1 h
  refine ⟨by rw [currentId?, hc]; rfl, ?_⟩
  rintro id rfl
  exact of_decide_eq_true htarget

/-- What a release is not meant for. -/
theorem ne_currentId?_of_filter {target : Option Nat}
    (h : a.current.filter (isTarget target) = none) :
    (target = none → a.currentId? = none) ∧ ∀ id, target = some id → a.currentId? ≠ some id := by
  rw [currentId?]
  cases hc : a.current with
  | none => exact ⟨fun _ => rfl, by simp⟩
  | some announcement =>
    rw [hc] at h
    have hnot : isTarget target announcement ≠ true := by
      simpa [Option.filter] using h
    refine ⟨?_, ?_⟩
    · rintro rfl
      exact absurd rfl hnot
    · rintro id rfl he
      exact hnot (decide_eq_true (Option.some.inj he).symm)

section

variable {target : Option Nat} {stage : ReleaseStage} {after : Option ReleaseStage}

/-- Where one release goes on, releases are those that there were. -/
theorem exists_release?_of_after (hself : a.release? t = some (target, stage))
    (hreleases : ∀ t', a'.release? t' = if t' = t then after.map (target, ·) else a.release? t')
    {t' : Nat} {target' : Option Nat} {stage' : ReleaseStage}
    (hr : a'.release? t' = some (target', stage')) :
    ∃ before, a.release? t' = some (target', before) := by
  rw [hreleases] at hr
  split at hr
  · rename_i ht
    obtain ⟨s, -, he⟩ := Option.map_eq_some_iff.1 hr
    obtain ⟨rfl, -⟩ := Prod.mk.inj he
    exact ⟨stage, ht ▸ hself⟩
  · exact ⟨stage', hr⟩

/-- Another release is as far as it was, so only the one that goes on is looked at. -/
theorem pending_of_after (hself : a.release? t = some (target, stage))
    (hreleases : ∀ t', a'.release? t' = if t' = t then after.map (target, ·) else a.release? t')
    (hown : ∀ id, target = some id → a.Pending t id →
      after = some .taking ∨ a'.currentId? ≠ some id) {t' id : Nat} (hp : a.Pending t' id) :
    a'.Pending t' id ∨ a'.currentId? ≠ some id := by
  by_cases ht : t' = t
  · subst ht
    have htarget : target = some id := by
      rcases hp with hp | hp <;> exact (Prod.mk.inj (Option.some.inj (hself.symm.trans hp))).1
    refine (hown id htarget hp).imp_left fun hafter => .inr ?_
    rw [hreleases, if_pos rfl, hafter, htarget]
    rfl
  · refine .inl (hp.imp ?_ ?_) <;>
      exact fun hp => ((hreleases t').trans (if_neg ht)).trans hp

/-- A release goes on. -/
theorem Releases.lets (h : Releases a a' t target stage after)
    (hx : a.tasks.get? t = some (.release target stage))
    (hreleases : ∀ t', a'.release? t' =
      if t' = t then after.map (target, ·) else a.release? t') : Lets a a' t := by
  have hself : a.release? t = some (target, stage) := by rw [release?, hx]; rfl
  have hkept (hc : a'.current = a.current) (hvacated : a.vacated t = none)
      (hown : ∀ id, target = some id → a.Pending t id →
        after = some .taking ∨ a'.currentId? ≠ some id) : Lets a a' t := by
    have hid : a'.currentId? = a.currentId? := by rw [currentId?, currentId?, hc]
    refine ⟨.inl hid, fun hsome hnone => ?_, fun hsome => ?_,
      exists_release?_of_after hself hreleases, pending_of_after hself hreleases hown⟩
    · cases (hnone.symm.trans hid).trans hsome
    · cases hvacated.symm.trans hsome
  cases h with
  | handed hc =>
    refine hkept hc ?_ fun _ _ _ => .inl rfl
    rw [vacated, hx]
    cases target <;> rfl
  | joined hm hc =>
    refine hkept hc ?_ fun _ _ _ => .inl rfl
    rw [vacated, hx]
    cases target with
    | none => rw [hm]; rfl
    | some => rfl
  | missed hmissed hc =>
    obtain ⟨hall, hone⟩ := ne_currentId?_of_filter hmissed
    refine hkept hc ?_ fun id htarget _ => .inr ?_
    · rw [vacated, hx]
      cases target with
      | none => simp [hall rfl]
      | some => rfl
    · rw [currentId?, hc]
      exact hone id htarget
  | @taken announcement after hm hfound hc =>
    obtain ⟨hid, htarget⟩ := currentId?_of_filter hfound
    have hnone : a'.currentId? = none := by rw [currentId?, hc]; rfl
    refine ⟨.inr hnone, fun hsome _ => ?_, fun hsome => ⟨?_, hnone⟩,
      exists_release?_of_after hself hreleases,
      pending_of_after hself hreleases fun id _ _ => .inr fun he => ?_⟩
    · cases target with
      | none =>
        left
        rw [vacated, hx]
        simp only [hm, if_true, hsome]
      | some id =>
        obtain rfl := htarget id rfl
        obtain rfl := Option.some.inj (hid.symm.trans hsome)
        exact .inr ⟨_, hself⟩
    · rw [vacated, hx] at hsome
      cases target with
      | none => simpa only [hm, if_true] using hsome
      | some => cases hsome
    · cases hnone.symm.trans he
  | ended hc =>
    refine hkept hc ?_ fun id _ hp => ?_
    · rw [vacated, hx]
      cases target <;> rfl
    · -- A release that holds the lock is not pending.
      rcases hp with hp | hp <;> cases hself.symm.trans hp

end

/-- A step of a task lets go what is announced, or stores an announcement. -/
theorem Turn.lets (h : Turn a view t stepped) :
    (Lets a stepped.1 t ∧ ∀ effect ∈ stepped.2, effect.announced? = none) ∨
      ∃ a' record, stepped = (a', [.ended t (.announced view.nextId record)]) ∧
        (∀ t', a'.release? t' = a.release? t') ∧ a.vacated t = none ∧ a.currentId? = none ∧
        a'.currentId? = some view.nextId := by
  cases h with
  | release hx hreleases hsame heffects => exact .inl ⟨hreleases.lets hx hsame, heffects⟩
  | other _ hvacated hsame hc heffects => exact .inl ⟨.of_same hsame hc hvacated, heffects⟩
  | stored _ hvacated hsame hnone hsome =>
    exact .inr ⟨_, _, rfl, hsame, hvacated, hnone, hsome⟩
  | @dropped a' id seen cancelled hx hm hsame hc hnone =>
    have hvacated : a.vacated t = some id := by
      rw [vacated, hx]
      simp only [hm, isCurrent_iff.2 hc, Bool.and_self, if_true]
    refine .inl ⟨⟨.inr hnone, ?_, ?_, fun h => ⟨_, (hsame _).symm.trans h⟩, ?_⟩,
      announced?_finish t rfl⟩
    · intro i hi _
      exact .inl (hvacated.trans (hc.symm.trans hi))
    · intro i hi
      exact ⟨hc.trans (hvacated.symm.trans hi), hnone⟩
    · exact fun h => .inl (h.imp (hsame _).trans (hsame _).trans)

end Announcer

end ServiceDiscovery
