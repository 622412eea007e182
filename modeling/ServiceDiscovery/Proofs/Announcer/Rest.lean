import ServiceDiscovery.Proofs.Announcer.Freshness
import ServiceDiscovery.Proofs.Announcer.Steps

/-!
# Announcers at rest

In every run of an announcer its scene is `Sound`: the tasks are in order, the
status agrees with what they do, what is announced is supervised, no registration
is in two places, and none is outdated without being noticed.

An announcer is at rest (`World.AtRest`) if none of its tasks can go on, nor waits
for a moment or for the directory. A task that is about to enter the lock can,
then; so the supervisor of what is announced watches the directory, and has
noticed every restart. What is active at rest is therefore registered, under the
record that was announced (`World.Announcing.active_registered`).
-/

namespace ServiceDiscovery

namespace Scene

/-- What holds in every scene of a run. -/
structure Sound (s : Scene) : Prop where
  order : Orderly s
  status : s.announcer.Coherent
  supervision : s.announcer.Tended
  ownership : Owned s
  freshness : Fresh s

theorem Sound.step {s s' : Scene} {prompt : Prop} (h : Sound s) (hs : s.Step prompt s') :
    Sound s' where
  order := h.order.step hs
  status := h.status.step h.order hs
  supervision := h.supervision.step h.status h.order hs
  ownership := h.ownership.step h.order h.status h.supervision hs
  freshness := h.freshness.step h.ownership h.order h.supervision hs

/-- Nothing is wrong where nothing has happened yet. -/
theorem Sound.start {s : Scene} (htasks : ∀ t, s.announcer.tasks.get? t = none)
    (hline : s.announcer.line = []) (hholder : s.announcer.holder = none)
    (hcurrent : s.announcer.current = none) (hstatus : s.announcer.status = .unregistered)
    (hregisters : ∀ t, s.registers t = none) (hwithdrawals : ∀ t, s.withdrawals t = none) :
    Sound s := by
  have hnone {t : Nat} {x : AnnouncerTask} {P : Prop} (hx : s.announcer.tasks.get? t = some x) :
      P := by
    rw [htasks] at hx
    cases hx
  have hkeeps (k : Keeper) : s.keeps? k = none := by
    cases k with
    | announcement => rw [keeps?, Announcer.registration?, hcurrent]; rfl
    | hand t => rw [keeps?, inHand?, htasks]; rfl
    | answer t => rw [keeps?, hregisters]; rfl
    | withdrawal t => rw [keeps?, hwithdrawals]; rfl
  refine ⟨⟨?_, ?_, hnone, hnone, hnone, ?_, ?_⟩, ⟨hnone, hnone, ?_, ?_, ?_⟩, .of_none hcurrent,
    ⟨?_, ?_⟩, ⟨hnone, ?_⟩⟩
  · intro t hm
    rw [hline] at hm
    cases hm
  · intro t
    rw [hholder]
    refine ⟨fun he => (by cases he), ?_⟩
    rintro ⟨x, hx, -⟩
    exact hnone hx
  · intro t call hcall
    rw [hregisters] at hcall
    cases hcall
  · intro t call hcall
    rw [hwithdrawals] at hcall
    cases hcall
  · intro t he
    rw [hholder] at he
    cases he
  · intro announcement he
    rw [hcurrent] at he
    cases he
  · intro he
    rw [hstatus] at he
    cases he
  · intro k k' id hid
    rw [hkeeps] at hid
    cases hid
  · intro k id hid
    rw [hkeeps] at hid
    cases hid
  · intro k id seen record hmeant
    have hid := hmeant.keeps?.1
    rw [hkeeps] at hid
    cases hid

end Scene

namespace Announcer

variable {a : Announcer} {t : Nat}

/-- A task that is about to enter the lock goes on as soon as it may. -/
theorem step?_ne_none_of_awaitsLock {x : AnnouncerTask} (hx : a.tasks.get? t = some x)
    (hw : x.awaitsLock = true) (hm : a.mayEnter t = true) (view : AnnouncerView) :
    a.step? view t .proceed ≠ none := by
  have hguarded (act : Announcer → Stepped) : a.guarded t act ≠ none := by
    rw [guarded, if_pos hm]
    exact Option.some_ne_none _
  rw [step?, hx]
  cases x with
  | announce record stage =>
    cases stage with
    | claiming =>
      have hvalid : recordFault? record = none := Option.isNone_iff_eq_none.1 hw
      simp only [stepAnnounce, hvalid]
      exact hguarded _
    | storing => exact hguarded _
    | subscribing | registering => cases hw
  | release target stage =>
    cases stage with
    | taking => exact hguarded _
    | handed | withdrawing => cases hw
  | supervise id seen cancelled stage =>
    cases stage with
    | forgetting | dropping | adopting => exact hguarded _
    | watching | calling | registering | pausing | returning => cases hw

/-- A supervisor that watches and cannot go on has noticed every restart. -/
theorem eq_seen_of_watching {id seen : Nat} {cancelled : Bool} {view : AnnouncerView}
    (hx : a.tasks.get? t = some (.supervise id seen cancelled .watching))
    (h : a.step? view t .proceed = none) : view.generation = seen := by
  by_cases hseen : view.generation = seen
  · exact hseen
  · rw [step?, hx] at h
    simp only [stepSupervise, if_neg hseen] at h
    cases h

end Announcer

namespace World

/-- Nothing of an announcer is under way: none of its tasks can go on, and none
    waits for a moment or for the directory. -/
structure AtRest (w : World) (name : String) : Prop where
  tasks : ∀ t, w.stepTask? ⟨name, t⟩ = none
  moments : ∀ {t x}, (w.announcer name).tasks.get? t = some x → taskMoments x = []
  registers : ∀ t, w.registerCalls.get? ⟨name, t⟩ = none
  withdrawals : ∀ t, w.withdrawCalls.get? ⟨name, t⟩ = none

namespace AtRest

variable {w : World} {name : String}

/-- Whether an announcer is at rest is a matter of the tasks that it has. -/
theorem of_keys (haborting : w.aborting = [])
    (hregisters : ∀ t, w.registerCalls.get? ⟨name, t⟩ = none)
    (hwithdrawals : ∀ t, w.withdrawCalls.get? ⟨name, t⟩ = none)
    (h : ∀ t ∈ (w.announcer name).tasks.keys, w.stepTask? ⟨name, t⟩ = none ∧
      ∀ x, (w.announcer name).tasks.get? t = some x → taskMoments x = []) : w.AtRest name := by
  refine ⟨?_, ?_, hregisters, hwithdrawals⟩
  · intro t
    cases hx : (w.announcer name).tasks.get? t with
    | some x => exact (h t ((Association.mem_keys_iff _).2 ⟨x, hx⟩)).1
    | none =>
      have hsignal (signal : AnnouncerSignal) : w.signal? ⟨name, t⟩ signal = none := by
        rw [Option.eq_none_iff_forall_ne_some]
        intro w' hw
        obtain ⟨stepped, hstep, -⟩ := signal?_eq_some hw
        rw [Announcer.step?, hx] at hstep
        cases hstep
      simp [stepTask?, haborting, hsignal, stepRegisterCall?, stepWithdrawCall?, hregisters,
        hwithdrawals]
  · intro t x hx
    exact (h t ((Association.mem_keys_iff _).2 ⟨x, hx⟩)).2 x hx

theorem stuck (h : w.AtRest name) {t : Nat} {x : AnnouncerTask}
    (hx : (w.announcer name).tasks.get? t = some x) :
    (w.announcer name).step? w.announcerView t .proceed = none := by
  have hname : w.announcers.get? name = some (w.announcer name) := by
    rw [announcer] at hx ⊢
    cases ha : w.announcers.get? name with
    | none =>
      rw [ha] at hx
      cases hx
    | some a => rfl
  have hstuck : w.signal? ⟨name, t⟩ .proceed = none := by
    have hnone := h.tasks t
    unfold stepTask? at hnone
    split at hnone
    · cases hnone
    · simp only [Option.orElse_eq_orElse, Option.orElse_eq_or, Option.or_eq_none_iff] at hnone
      exact hnone.2.2.2.1
  rw [signal?, hname, Option.bind_some, Option.map_eq_none_iff] at hstuck
  exact hstuck

/-- Nobody waits for a lock that is free. -/
theorem line_eq_nil (h : w.AtRest name) (ho : (w.scene name).Orderly)
    (hfree : (w.announcer name).holder = none) : (w.announcer name).line = [] := by
  cases hline : (w.announcer name).line with
  | nil => rfl
  | cons t rest =>
    obtain ⟨x, hx, hw⟩ := ho.line t (by rw [scene, hline]; exact List.mem_cons_self)
    have hm : (w.announcer name).mayEnter t = true := by simp [Announcer.mayEnter, hfree, hline]
    exact absurd (h.stuck hx) (Announcer.step?_ne_none_of_awaitsLock hx hw hm _)

/-- No task is about to enter a lock that is free. -/
theorem awaitsLock_eq_false (h : w.AtRest name) (ho : (w.scene name).Orderly)
    (hfree : (w.announcer name).holder = none) {t : Nat} {x : AnnouncerTask}
    (hx : (w.announcer name).tasks.get? t = some x) : x.awaitsLock = false := by
  cases hw : x.awaitsLock with
  | false => rfl
  | true =>
    have hm : (w.announcer name).mayEnter t = true := by
      simp [Announcer.mayEnter, hfree, h.line_eq_nil ho hfree]
    exact absurd (h.stuck hx) (Announcer.step?_ne_none_of_awaitsLock hx hw hm _)

/-- Nobody holds the lock, as whoever does waits for a moment. -/
theorem holder_eq_none (h : w.AtRest name) (ho : (w.scene name).Orderly) :
    (w.announcer name).holder = none := by
  rw [Option.eq_none_iff_forall_ne_some]
  intro t ht
  obtain ⟨x, hx, hholds⟩ := (ho.holder t).1 ht
  have hmoments := h.moments hx
  cases x with
  | announce | supervise => cases hholds
  | release target stage =>
    cases stage with
    | handed | taking => cases hholds
    | withdrawing => cases hmoments

/-- Only the announcement keeps a registration. -/
theorem eq_announcement (h : w.AtRest name) (ho : (w.scene name).Orderly) {k : Scene.Keeper}
    {id : Nat} (hk : (w.scene name).keeps? k = some id) : k = .announcement := by
  cases k with
  | announcement => rfl
  | hand t =>
    obtain ⟨r, hr, -⟩ := Option.map_eq_some_iff.1 hk
    obtain ⟨x, hx, hhand⟩ := Option.bind_eq_some_iff.1 hr
    have hwaits := h.awaitsLock_eq_false ho (h.holder_eq_none ho) hx
    cases hwaits.symm.trans (AnnouncerTask.awaitsLock_of_inHand? hhand)
  | answer t =>
    have hnone : (w.scene name).registers t = none := h.registers t
    rw [Scene.keeps?, hnone] at hk
    cases hk
  | withdrawal t =>
    have hnone : (w.scene name).withdrawals t = none := h.withdrawals t
    rw [Scene.keeps?, hnone] at hk
    cases hk

end AtRest

namespace Announcing

variable {settings : AnnouncerSettings} {name : String} {w : World}

theorem sound (h : Announcing settings name w) : (w.scene name).Sound := by
  refine h.invariant ?_ fun _ _ hsound hs => hsound.step hs
  rw [withAnnouncer, scene_setAnnouncer]
  exact .start (fun _ => rfl) rfl rfl rfl rfl (fun _ => rfl) fun _ => rfl

/-- What is active at rest has a registration, and a supervisor that has noticed
    every restart. -/
theorem active_watched (h : Announcing settings name w) (hrest : w.AtRest name)
    (hactive : (w.announcer name).status = .active) : ∃ announcement registration t,
      (w.announcer name).current = some announcement ∧
      announcement.registration = some registration ∧
      (w.announcer name).tasks.get? t =
        some (.supervise announcement.id w.registry.generation false .watching) := by
  have hsound := h.sound
  obtain ⟨announcement, hc⟩ := Option.ne_none_iff_exists'.1 (hsound.status.active hactive)
  obtain ⟨hfree, hstatus⟩ := hsound.status.current hc
  obtain ⟨registration, hregistration⟩ : ∃ registration,
      announcement.registration = some registration := by
    rw [← Option.ne_none_iff_exists']
    intro hnone
    rw [if_pos hnone] at hstatus
    cases hactive.symm.trans hstatus
  obtain ⟨t, seen, stage, hx, hfits⟩ := hsound.supervision.supervisor hc
  refine ⟨announcement, registration, t, hc, hregistration, ?_⟩
  cases stage with
  | watching =>
    have hseen : w.registry.generation = seen := Announcer.eq_seen_of_watching hx (hrest.stuck hx)
    rw [hseen]
    exact hx
  | forgetting =>
    cases hrest.awaitsLock_eq_false hsound.order hfree hx
  | calling | registering | pausing => cases hregistration.symm.trans hfits.1
  | dropping | adopting => cases hregistration.symm.trans hfits
  | returning => exact hfits.elim

/-- What is active at rest is registered, under the record that was announced. -/
theorem active_registered (h : Announcing settings name w) (hrest : w.AtRest name)
    (hactive : (w.announcer name).status = .active) : ∃ announcement registration,
      (w.announcer name).current = some announcement ∧
      announcement.registration = some registration ∧
      w.registry.registrations.get? registration.id = some announcement.record := by
  obtain ⟨announcement, registration, t, hc, hregistration, hx⟩ :=
    h.active_watched hrest hactive
  refine ⟨announcement, registration, hc, hregistration, ?_⟩
  rcases h.sound.freshness.backed (.watching hc hx hregistration) with hregistered | hmissed
  · exact hregistered
  · exact absurd hmissed (Nat.lt_irrefl _)

/-- The directory restarts between the commit and the answer, again as the
    supervisor is about to forget the registration, and again before the answer
    to the second request. -/
theorem active_registered_restarted :
    let record : ServiceRecord := { instanceName := "nas", serviceType := "t", port := 5000 }
    let again : List AnnouncerAction :=
      [.proceed 1, .register 1, .register 1, .change .restart, .wait 5, .register 1, .proceed 1]
    let actions : List AnnouncerAction :=
      [.lag (.after 5), .announce record, .proceed 0, .proceed 0, .register 0, .register 0,
        .change .restart, .wait 5, .register 0, .proceed 0, .proceed 1, .change .restart,
        .proceed 1] ++ again ++
      [.proceed 1, .proceed 1, .proceed 1, .register 1, .register 1, .wait 5, .register 1,
        .proceed 1]
    ∃ w, (withAnnouncer {} "a").actAll? "a" actions = some w ∧ w.AtRest "a" ∧
      (w.announcer "a").status = .active ∧ ∃ announcement registration,
        (w.announcer "a").current = some announcement ∧
        announcement.registration = some registration ∧
        w.registry.registrations.get? registration.id = some announcement.record := by
  intro record again actions
  have hrun : ∃ w, (withAnnouncer {} "a").actAll? "a" actions = some w ∧ w.AtRest "a" ∧
      (w.announcer "a").status = .active := by
    revert record again actions
    refine ⟨_, rfl, .of_keys rfl (fun _ => rfl) (fun _ => rfl) ?_, rfl⟩
    exact List.forall_mem_singleton.2 ⟨rfl, fun x hx => by cases hx; rfl⟩
  obtain ⟨w, hw, hrest, hactive⟩ := hrun
  exact ⟨w, hw, hrest, hactive, (Announcing.start.actAll hw).active_registered hrest hactive⟩

end Announcing

end World

end ServiceDiscovery
