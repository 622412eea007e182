import ServiceDiscovery.Proofs.Announcer.Lifetime
import ServiceDiscovery.Proofs.Announcer.Supervising
import ServiceDiscovery.Proofs.Association

/-!
# The balance of a step

What an announcer has of registrations is what its tasks have in hand and what is
stored. A step of a task is *balanced* (`Announcer.Balanced`): what was had before it,
and is answered in it, is had after it, withdrawn in it, or lost. Only two things lose
a registration: a supervisor that noticed a restart of the directory
(`Announcer.forgotten`), and an announce that is given up (`Announcer.dropped`).

A step is balanced as long as none is stored where one is about to be
(`Announcer.Vacant`).
-/

namespace ServiceDiscovery

/-- The registration that the directory answered with. -/
def AnnouncerSignal.answered : AnnouncerSignal → List Registration
  | registered (.ok registration) => [registration]
  | _ => []

theorem AnnouncerSignal.answered_eq_nil {signal : AnnouncerSignal}
    (h : ∀ registration, signal ≠ .registered (.ok registration)) : signal.answered = [] := by
  unfold answered
  split
  · exact absurd rfl (h _)
  · rfl

/-- The registration that the directory is asked to withdraw. -/
def AnnouncerEffect.withdrawn? : AnnouncerEffect → Option Registration
  | withdraw _ registration => some registration
  | _ => none

namespace Announcer

/-- The registrations that tasks have in hand, one for each. -/
def inHand (a : Announcer) : List Registration :=
  (a.tasks.entries AnnouncerTask.inHand?).map Prod.snd

/-- All registrations that an announcer has: those in hand, and the one that is
    stored. -/
def holdings (a : Announcer) : List Registration := a.inHand ++ a.registration?.toList

/-- The registration that a step of a task forgets: the one that is stored for the
    announcement whose supervisor enters the lock after it noticed a restart. -/
def forgotten (a : Announcer) (task : Nat) : AnnouncerSignal → List Registration
  | .proceed =>
    match a.tasks.get? task with
    | some (.supervise id _ _ .forgetting) =>
      if a.mayEnter task then
        ((a.current.filter (·.id = id)).bind (·.registration)).toList
      else []
    | _ => []
  | _ => []

/-- The registration that an announce has in hand. -/
def dropped (a : Announcer) (task : Nat) : List Registration :=
  match a.tasks.get? task with
  | some (.announce _ (.storing _ registration)) => [registration]
  | _ => []

/-- What is had before a step, and is gained in it, is had after it, or withdrawn in
    it, or lost. -/
structure Balanced (a : Announcer) (gained lost : List Registration) (stepped : Stepped) :
    Prop where
  perm : (a.holdings ++ gained).Perm
    (stepped.1.holdings ++ stepped.2.filterMap AnnouncerEffect.withdrawn? ++ lost)
  /-- What is stored is not put aside for another. -/
  kept : ∀ registration, a.registration? = some registration →
    stepped.1.registration? = some registration ∨
      registration ∈ stepped.2.filterMap AnnouncerEffect.withdrawn? ++ lost

/-- Where a registration is about to be stored, none is stored, nor is one where an
    announcement is about to be dropped. -/
structure Vacant (a : Announcer) : Prop where
  storing : ∀ {t record seen registration},
    a.tasks.get? t = some (.announce record (.storing seen registration)) → a.current = none
  adopting : ∀ {t id seen cancelled registration},
    a.tasks.get? t = some (.supervise id seen cancelled (.adopting registration)) →
    a.isCurrent id = true → a.registration? = none
  dropping : ∀ {t id seen cancelled},
    a.tasks.get? t = some (.supervise id seen cancelled .dropping) →
    a.isCurrent id = true → a.registration? = none

/-- Whoever is about to store or to drop finds nothing stored. -/
theorem Vacant.of_tended {s : Scene} (ho : s.Orderly) (hcoh : s.announcer.Coherent)
    (htended : s.announcer.Tended) : s.announcer.Vacant where
  storing hx := (hcoh.claimed hx rfl).1
  adopting hx hcurrent := by
    obtain ⟨announcement, hc, hid⟩ := current_of_isCurrent hcurrent
    rw [registration?, hc]
    exact (htended.fits ho hx hc hid).2
  dropping hx hcurrent := by
    obtain ⟨announcement, hc, hid⟩ := current_of_isCurrent hcurrent
    rw [registration?, hc]
    exact (htended.fits ho hx hc hid).2

variable {a a' : Announcer} {t : Nat} {x : AnnouncerTask} {y : Option AnnouncerTask}
  {stopped : Option Nat} {gained lost : List Registration} {effects : List AnnouncerEffect}

namespace Balanced

/-- What one task has in hand changes, and what is stored. -/
theorem of_hand (found : Option Registration) (hx : a.tasks.get? t = some x)
    (hhands : ∀ t', (a'.tasks.get? t').bind AnnouncerTask.inHand? =
      if t' = t then found else (a.tasks.get? t').bind AnnouncerTask.inHand?)
    (h : (x.inHand?.toList ++ a.registration?.toList ++ gained).Perm
      (found.toList ++ a'.registration?.toList ++
        effects.filterMap AnnouncerEffect.withdrawn? ++ lost))
    (hkept : a'.registration? = a.registration? ∨ ∀ registration,
      a.registration? = some registration →
        registration ∈ effects.filterMap AnnouncerEffect.withdrawn? ++ lost) :
    Balanced a gained lost (a', effects) := by
  refine ⟨?_, fun registration hr => hkept.imp (fun he => he.trans hr) fun h => h _ hr⟩
  have hhand : (x.inHand?.toList ++ a'.inHand).Perm (found.toList ++ a.inHand) := by
    have hswap := Association.perm_entries_swap hhands
    rw [hx, Option.bind_some] at hswap
    exact hswap
  rw [List.perm_iff_count]
  intro registration
  have hhand := hhand.count_eq registration
  have h := h.count_eq registration
  simp only [holdings, List.count_append] at h hhand ⊢
  omega

/-- A task goes on as another or ends. -/
theorem moved (hx : a.tasks.get? t = some x)
    (htasks : ∀ t', a'.tasks.get? t' =
      if t' = t then y else (a.tasks.get? t').map (AnnouncerTask.told stopped))
    (h : (x.inHand?.toList ++ a.registration?.toList ++ gained).Perm
      ((y.bind AnnouncerTask.inHand?).toList ++ a'.registration?.toList ++
        effects.filterMap AnnouncerEffect.withdrawn? ++ lost))
    (hkept : a'.registration? = a.registration? ∨ ∀ registration,
      a.registration? = some registration →
        registration ∈ effects.filterMap AnnouncerEffect.withdrawn? ++ lost) :
    Balanced a gained lost (a', effects) := by
  refine of_hand _ hx (fun t' => ?_) h hkept
  rw [htasks]
  split
  · rfl
  · cases a.tasks.get? t' with
    | none => rfl
    | some z => exact z.inHand?_told stopped

/-- A task goes on without the lock that has nothing in hand, and keeps nothing. -/
theorem idle (hx : a.tasks.get? t = some x) (hhand : x.inHand? = none)
    (htasks : ∀ t', a'.tasks.get? t' =
      if t' = t then y else (a.tasks.get? t').map (AnnouncerTask.told stopped))
    (hy : y.bind AnnouncerTask.inHand? = none) (hc : a'.registration? = a.registration?)
    (heffects : effects.filterMap AnnouncerEffect.withdrawn? = []) :
    Balanced a [] [] (a', effects) :=
  moved hx htasks (by simp [hhand, hy, hc, heffects]) (.inl hc)

/-- A task is answered with a registration. -/
theorem gains {registration : Registration} {z : AnnouncerTask} (hx : a.tasks.get? t = some x)
    (hhand : x.inHand? = none)
    (htasks : ∀ t', a'.tasks.get? t' =
      if t' = t then some z else (a.tasks.get? t').map (AnnouncerTask.told none))
    (hz : z.inHand? = some registration) (hc : a'.registration? = a.registration?) :
    Balanced a [registration] [] (a', []) := by
  refine moved hx htasks ?_ (.inl hc)
  rw [hhand, Option.bind_some, hz, hc]
  simp

/-- What tasks have in hand stays, and what is stored. -/
theorem still (hhands : ∀ t', (a'.tasks.get? t').bind AnnouncerTask.inHand? =
      (a.tasks.get? t').bind AnnouncerTask.inHand?)
    (hc : a'.registration? = a.registration?) : Balanced a [] [] (a', []) where
  perm := by
    have hperm : a'.inHand.Perm a.inHand := (Association.perm_entries hhands).map Prod.snd
    simpa [holdings, hc] using hperm.symm.append_right a.registration?.toList
  kept _ hr := .inl (hc.trans hr)

end Balanced

/-- A task passes through the lock or gets in line. -/
theorem balanced_of_guarded {act : Announcer → Stepped} {stepped : Stepped}
    (h : a.guarded t act = some stepped) (hjoin : a.mayEnter t = false → lost = [])
    (hact : a.mayEnter t = true → Balanced a [] lost (act (a.leaveLine t))) :
    Balanced a [] lost stepped := by
  rcases guarded_eq_some h with ⟨hm, rfl⟩ | ⟨hm, rfl⟩
  · exact hact hm
  · rw [hjoin hm]
    exact .still (fun _ => rfl) rfl

/-- Only a supervisor that noticed a restart forgets anything. -/
theorem forgotten_of_stage {id seen : Nat} {cancelled : Bool} {stage : SuperviseStage}
    {signal : AnnouncerSignal} (hx : a.tasks.get? t = some (.supervise id seen cancelled stage))
    (hstage : stage ≠ .forgetting) : a.forgotten t signal = [] := by
  cases signal with
  | registered | withdrawn | expired | stopped => rfl
  | proceed =>
    rw [forgotten, hx]
    cases stage with
    | forgetting => exact absurd rfl hstage
    | watching | calling | registering | pausing | dropping | adopting | returning => rfl

theorem forgotten_forgetting {id seen : Nat} {cancelled : Bool}
    (hx : a.tasks.get? t = some (.supervise id seen cancelled .forgetting)) :
    a.forgotten t .proceed =
      if a.mayEnter t then ((a.current.filter (·.id = id)).bind (·.registration)).toList
      else [] := by
  rw [forgotten, hx]

theorem forgotten_of_supervises? {signal : AnnouncerSignal} (hx : a.tasks.get? t = some x)
    (hnot : x.supervises? = none) : a.forgotten t signal = [] := by
  cases signal with
  | registered | withdrawn | expired | stopped => rfl
  | proceed =>
    rw [forgotten, hx]
    cases x with
    | announce | release => rfl
    | supervise => cases hnot

/-! ## Steps -/

/-- A step of an announce. -/
theorem balanced_of_stepAnnounce {view : AnnouncerView} {record : ServiceRecord}
    {stage : AnnounceStage} {signal : AnnouncerSignal} {stepped : Stepped} (hv : Vacant a)
    (hfresh : a.tasks.get? a.nextTask = none)
    (hx : a.tasks.get? t = some (.announce record stage))
    (h : a.stepAnnounce view t record stage signal = some stepped) :
    Balanced a signal.answered [] stepped := by
  cases stage with
  | claiming =>
    cases signal with
    | registered | withdrawn | expired | stopped => cases h
    | proceed =>
      rw [stepAnnounce] at h
      split at h
      · obtain rfl := Option.some.inj h
        exact .idle hx rfl get?_endTask rfl rfl rfl
      · refine balanced_of_guarded h (fun _ => rfl) fun _ => ?_
        rw [claim]
        split
        · exact .idle hx rfl get?_endTask rfl rfl rfl
        · exact .idle hx rfl get?_setTask rfl rfl rfl
  | subscribing =>
    cases signal with
    | registered | withdrawn | expired | stopped => cases h
    | proceed =>
      obtain rfl := Option.some.inj h
      exact .idle hx rfl get?_setTask rfl rfl rfl
  | registering seen =>
    cases signal with
    | proceed | withdrawn | expired | stopped => cases h
    | registered result =>
      cases result with
      | ok registration =>
        obtain rfl := Option.some.inj h
        exact .gains hx rfl get?_setTask rfl rfl
      | error error =>
        obtain rfl := Option.some.inj h
        exact .idle hx rfl get?_endTask rfl rfl rfl
  | storing seen registration =>
    cases signal with
    | registered | withdrawn | expired | stopped => cases h
    | proceed =>
      refine balanced_of_guarded h (fun _ => rfl) fun _ => ?_
      have hnone : a.registration? = none := by rw [registration?, hv.storing hx]; rfl
      rw [store]
      refine .of_hand none hx (fun t' => ?_) ?_ (.inr fun _ hr => ?_)
      · change (((a.tasks.put a.nextTask _).erase t).get? t').bind _ = _
        rw [Association.get?_erase, Association.get?_put]
        split
        · rfl
        · -- The new supervisor is no task that was there, and has nothing in hand.
          split
          · rename_i ht
            rw [ht, hfresh]
            rfl
          · rfl
      · rw [hnone]
        exact .refl _
      · cases hnone.symm.trans hr

/-- A step of a release. -/
theorem balanced_of_stepRelease {view : AnnouncerView} {target : Option Nat}
    {stage : ReleaseStage} {signal : AnnouncerSignal} {stepped : Stepped}
    (hx : a.tasks.get? t = some (.release target stage))
    (h : a.stepRelease view t target stage signal = some stepped) :
    Balanced a signal.answered [] stepped := by
  cases stage with
  | handed =>
    cases signal with
    | registered | withdrawn | expired | stopped => cases h
    | proceed =>
      obtain rfl := Option.some.inj h
      exact .idle hx rfl get?_setTask rfl rfl rfl
  | taking =>
    cases signal with
    | registered | withdrawn | expired | stopped => cases h
    | proceed =>
      refine balanced_of_guarded h (fun _ => rfl) fun _ => ?_
      rw [take]
      split
      · exact .idle hx rfl get?_endTask rfl rfl rfl
      · rename_i announcement hfound
        have hc : a.current = some announcement := (Option.filter_eq_some_iff.1 hfound).1
        have hstored : a.registration? = announcement.registration := by
          rw [registration?, hc]
          rfl
        dsimp only
        split
        · rename_i hlost
          have hnone : a.registration? = none := hstored.trans hlost
          exact .idle hx rfl (get?_stopSupervisor_endTask (a := a) announcement.id) rfl
            hnone.symm rfl
        · rename_i registration hregistration
          have hsome : a.registration? = some registration := hstored.trans hregistration
          refine .moved hx (get?_stopSupervisor_setTask (a := a) announcement.id) ?_
            (.inr fun _ hr => ?_)
          · rw [hsome]
            exact .refl _
          · obtain rfl := Option.some.inj (hsome.symm.trans hr)
            exact List.mem_singleton_self _
  | withdrawing registration deadline =>
    cases signal with
    | proceed | registered | stopped => cases h
    | withdrawn =>
      obtain rfl := Option.some.inj h
      exact .idle hx rfl get?_endTask rfl rfl rfl
    | expired =>
      obtain ⟨-, hstepped⟩ := Option.ite_none_right_eq_some.1 h
      obtain rfl := Option.some.inj hstepped
      exact .idle hx rfl get?_endTask rfl rfl rfl

/-- A step of a supervisor outside the lock. -/
theorem balanced_of_outside {id seen : Nat} {cancelled : Bool} {stage : SuperviseStage}
    {signal : AnnouncerSignal}
    (hx : a.tasks.get? t = some (.supervise id seen cancelled stage))
    (houtside : (AnnouncerTask.supervise id seen cancelled stage).awaitsLock = false)
    (hsignal : ∀ registration, signal ≠ .registered (.ok registration))
    (htasks : ∀ t', a'.tasks.get? t' =
      if t' = t then y else (a.tasks.get? t').map (AnnouncerTask.told stopped))
    (hy : y.bind AnnouncerTask.inHand? = none) (hc : a'.registration? = a.registration?)
    (heffects : effects.filterMap AnnouncerEffect.withdrawn? = []) :
    Balanced a signal.answered (a.forgotten t signal) (a', effects) := by
  have hhand : (AnnouncerTask.supervise id seen cancelled stage).inHand? = none :=
    Option.eq_none_iff_forall_ne_some.2 fun registration hsome => by
      rw [AnnouncerTask.awaitsLock_of_inHand? hsome] at houtside
      cases houtside
  have hstage : stage ≠ .forgetting := by
    rintro rfl
    cases houtside
  rw [AnnouncerSignal.answered_eq_nil hsignal, forgotten_of_stage hx hstage]
  exact .idle hx hhand htasks hy hc heffects

/-- A step of a supervisor. -/
theorem balanced_of_stepSupervise {view : AnnouncerView} {id seen : Nat} {cancelled : Bool}
    {stage : SuperviseStage} {signal : AnnouncerSignal} {stepped : Stepped} (hv : Vacant a)
    (hx : a.tasks.get? t = some (.supervise id seen cancelled stage))
    (h : a.stepSupervise view t id seen cancelled stage signal = some stepped) :
    Balanced a signal.answered (a.forgotten t signal) stepped := by
  cases supervises_of_stepSupervise h with
  | noticed => exact balanced_of_outside hx rfl (by simp) get?_setTask rfl rfl rfl
  | goes houtside hsignal hnext _ heffects =>
    refine balanced_of_outside hx houtside hsignal get?_setTask hnext rfl ?_
    rcases heffects with rfl | ⟨_, rfl⟩ <;> rfl
  | registered =>
    rw [forgotten_of_stage hx (by simp)]
    exact .gains hx rfl get?_setTask rfl rfl
  | ends houtside hsignal heffects =>
    refine balanced_of_outside hx houtside hsignal get?_endTask rfl rfl ?_
    rcases heffects with rfl | rfl <;> rfl
  | forgets hguarded =>
    rw [forgotten_forgetting hx]
    refine balanced_of_guarded hguarded (fun hm => by rw [hm]; rfl) fun hm => ?_
    rw [if_pos hm, forget]
    split
    · rename_i hgone
      have hgone : a.current.filter (·.id = id) = none := hgone
      rw [hgone]
      exact .idle hx rfl get?_endTask rfl rfl rfl
    · rename_i announcement hfound
      have hfound : a.current.filter (·.id = id) = some announcement := hfound
      have hstored : a.registration? = announcement.registration := by
        rw [registration?, (filter_current_eq_some hfound).1]
        rfl
      rw [hfound, Option.bind_some, ← hstored]
      refine .moved hx get?_setTask ?_ (.inr fun _ hr => ?_)
      · exact (List.append_nil _).symm ▸ .refl _
      · rw [hr]
        exact List.mem_singleton_self _
  | drops hguarded =>
    rw [forgotten_of_stage hx (by simp)]
    refine balanced_of_guarded hguarded (fun _ => rfl) fun _ => ?_
    rw [drop]
    split
    · rename_i hcurrent
      have hcurrent : a.isCurrent id = true := hcurrent
      exact .idle hx rfl (get?_stopSupervisor_endTask (a := a) id) rfl
        (hv.dropping hx hcurrent).symm rfl
    · exact .idle hx rfl get?_endTask rfl rfl rfl
  | @adopts registration _ hguarded =>
    rw [forgotten_of_stage hx (by simp)]
    refine balanced_of_guarded hguarded (fun _ => rfl) fun _ => ?_
    rw [adopt]
    split
    · rename_i announcement hfound
      obtain ⟨hc, rfl⟩ := filter_current_eq_some hfound
      have hnone := hv.adopting hx (Tended.isCurrent_eq_true hc)
      refine .moved hx get?_setTask ?_ (.inr fun _ hr => ?_)
      · rw [hnone]
        exact .refl _
      · cases hnone.symm.trans hr
    · refine .moved hx get?_setTask ?_ (.inl rfl)
      change ([registration] ++ a.registration?.toList ++ []).Perm
        ([] ++ a.registration?.toList ++ [registration] ++ [])
      simpa using (List.perm_append_singleton ..).symm

/-- A step of any task. -/
theorem balanced_of_step? {view : AnnouncerView} {signal : AnnouncerSignal} {stepped : Stepped}
    (hv : Vacant a) (hfresh : a.tasks.get? a.nextTask = none)
    (h : a.step? view t signal = some stepped) :
    Balanced a signal.answered (a.forgotten t signal) stepped := by
  unfold step? at h
  split at h
  · cases h
  · rename_i hx
    rw [forgotten_of_supervises? hx rfl]
    exact balanced_of_stepAnnounce hv hfresh hx h
  · rename_i hx
    rw [forgotten_of_supervises? hx rfl]
    exact balanced_of_stepRelease hx h
  · rename_i hx
    exact balanced_of_stepSupervise hv hx h

/-- A task is given up. -/
theorem balanced_abort (a : Announcer) (t : Nat) : Balanced a [] (a.dropped t) (a.abort t) := by
  rw [abort, dropped]
  cases hx : a.tasks.get? t with
  | none => exact .still (fun _ => rfl) rfl
  | some x =>
    cases x with
    | announce record stage =>
      cases stage with
      | claiming | subscribing | registering => exact .idle hx rfl get?_endTask rfl rfl rfl
      | storing seen registration =>
        refine .moved hx get?_endTask ?_ (.inl rfl)
        change ([registration] ++ a.registration?.toList ++ []).Perm
          ([] ++ a.registration?.toList ++ [] ++ [registration])
        simpa using (List.perm_append_singleton ..).symm
    | release target stage =>
      cases stage with
      | handed =>
        refine .idle hx rfl get?_endTask rfl rfl ?_
        cases target <;> rfl
      | taking | withdrawing => exact .idle hx rfl get?_endTask rfl rfl rfl
    | supervise => exact .still (fun _ => rfl) rfl

/-- Nothing is withdrawn for a task that is given up. -/
theorem withdrawn_abort (a : Announcer) (t : Nat) :
    (a.abort t).2.filterMap AnnouncerEffect.withdrawn? = [] := by
  unfold abort
  split
  · rename_i stage _
    cases stage <;> rfl
  · rename_i target stage _
    cases stage <;> cases target <;> rfl
  · rfl

/-- A task is started. -/
theorem balanced_spawn (hfresh : a.tasks.get? a.nextTask = none) (hhand : x.inHand? = none) :
    Balanced a [] [] ((a.spawn x).1, []) := by
  refine .still (fun t' => ?_) rfl
  rw [spawn, Association.get?_put]
  split
  · rename_i ht
    rw [ht, hfresh, Option.bind_some, hhand]
    rfl
  · rfl

/-! ## Restarts -/

/-- Supervisors that are about to forget were so before. -/
def StillForgets (a a' : Announcer) : Prop :=
  ∀ t id seen cancelled, a'.tasks.get? t = some (.supervise id seen cancelled .forgetting) →
    ∃ before, a.tasks.get? t = some (.supervise id seen before .forgetting)

section

variable {view : AnnouncerView} {signal : AnnouncerSignal} {stepped : Stepped}

/-- A task goes on as one that is not about to forget, or ends. -/
theorem StillForgets.moved (htasks : ∀ t', a'.tasks.get? t' =
      if t' = t then y else (a.tasks.get? t').map (AnnouncerTask.told stopped))
    (hy : ∀ id seen cancelled, y ≠ some (.supervise id seen cancelled .forgetting)) :
    a.StillForgets a' := by
  intro t' id seen cancelled h
  rw [htasks] at h
  split at h
  · exact absurd h (hy id seen cancelled)
  · obtain ⟨z, hz, htold⟩ := Option.map_eq_some_iff.1 h
    cases z with
    | announce | release => cases htold
    | supervise =>
      cases htold
      exact ⟨_, hz⟩

theorem stillForgets_of_guarded {act : Announcer → Stepped}
    (h : a.guarded t act = some stepped) (hact : ∀ b : Announcer, b.StillForgets (act b).1) :
    a.StillForgets stepped.1 := by
  rcases guarded_eq_some h with ⟨-, rfl⟩ | ⟨-, rfl⟩
  · exact hact (a.leaveLine t)
  · exact fun _ _ _ cancelled h => ⟨cancelled, h⟩

theorem stillForgets_take (t : Nat) (target : Option Nat) :
    a.StillForgets (take view t target a).1 := by
  unfold take
  split
  · exact .moved get?_endTask (by simp)
  · dsimp only
    split
    · exact .moved (get?_stopSupervisor_endTask (a := a) _) (by simp)
    · exact .moved (get?_stopSupervisor_setTask (a := a) _) (by simp)

theorem stillForgets_drop (t id : Nat) : a.StillForgets (drop t id a).1 := by
  unfold drop
  split
  · exact .moved (get?_stopSupervisor_endTask (a := a) _) (by simp)
  · exact .moved get?_endTask (by simp)

/-- A supervisor is about to forget only since it noticed another generation of the
    directory than the one it had seen. -/
theorem stillForgets_of_step? (h : a.step? view t signal = some stepped) :
    a.StillForgets stepped.1 ∨
      ∃ id last cancelled, signal = .proceed ∧ view.generation ≠ last ∧
        a.tasks.get? t = some (.supervise id last cancelled .watching) ∧
        stepped.1 = a.setTask t (.supervise id view.generation cancelled .forgetting) := by
  unfold step? at h
  split at h
  · cases h
  · left
    unfold stepAnnounce at h
    split at h
    case h_1 =>
      split at h
      · grind [StillForgets, finish, endTask, Association.get?_erase]
      · exact stillForgets_of_guarded h fun b => by
          grind [StillForgets, claim, finish, setTask, endTask, Association.get?_put,
            Association.get?_erase]
    case h_5 =>
      exact stillForgets_of_guarded h fun b => by
        grind [StillForgets, store, spawn, finish, endTask, Association.get?_put,
          Association.get?_erase]
    all_goals
      grind [StillForgets, finish, setTask, endTask, Association.get?_put, Association.get?_erase]
  · left
    unfold stepRelease at h
    split at h
    case h_2 => exact stillForgets_of_guarded h fun b => stillForgets_take t _
    all_goals
      grind [StillForgets, released, finishForgoing, setTask, endTask, Association.get?_put,
        Association.get?_erase]
  · rename_i hx
    cases supervises_of_stepSupervise h with
    | noticed hnew => exact .inr ⟨_, _, _, rfl, hnew, hx, rfl⟩
    | goes _ _ _ hnext _ => exact .inl (.moved get?_setTask (by simpa using hnext))
    | registered => exact .inl (.moved get?_setTask (by simp))
    | ends => exact .inl (.moved get?_endTask (by simp))
    | forgets hguarded =>
      refine .inl (stillForgets_of_guarded hguarded fun b => ?_)
      rw [forget]
      split
      · exact .moved get?_endTask (by simp)
      · exact .moved get?_setTask (by simp)
    | drops hguarded => exact .inl (stillForgets_of_guarded hguarded fun b => stillForgets_drop t _)
    | adopts hguarded =>
      refine .inl (stillForgets_of_guarded hguarded fun b => ?_)
      rw [adopt]
      split
      · exact .moved get?_setTask (by simp)
      · exact .moved get?_setTask (by simp)

/-- No supervisor forgets anything as a task is given up. -/
theorem stillForgets_of_givesUp {s s' : Scene} (h : s.GivesUp t s') :
    s.announcer.StillForgets s'.announcer := by
  have hnone : ∀ id seen cancelled,
      none ≠ some (AnnouncerTask.supervise id seen cancelled .forgetting) := by
    simp
  cases h with
  | nothing => exact fun _ _ _ cancelled h => ⟨cancelled, h⟩
  | quit _ _ ha => rcases ha with rfl | ⟨-, rfl⟩ <;> exact .moved get?_endTask hnone
  | abandon | letGo => exact .moved get?_endTask hnone

/-- Nor as one is started. -/
theorem stillForgets_spawn (a : Announcer) (hx : x.supervises? = none) :
    a.StillForgets (a.spawn x).1 := by
  intro t id seen cancelled h
  rw [spawn, Association.get?_put] at h
  split at h
  · obtain rfl := Option.some.inj h
    cases hx
  · exact ⟨cancelled, h⟩

end

end Announcer

end ServiceDiscovery
