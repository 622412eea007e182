import ServiceDiscovery.Proofs.Announcer.Lifetime

/-!
# The conduct of an announcer

What the status of an announcer tells, at any moment of any lifetime
(`Announcer.StatusTells`). It holds as long as no release is given up while it
holds the lock (`Lifetime.Lived.status_tells`). A release that is given up then
frees the lock and leaves the status as it is, for good: once nothing is in
progress, this is what `withdrawing` and the refusal of every further
announcement tell (`Lifetime.Lived.withdrawing_iff`).
-/

namespace ServiceDiscovery

/-- Whether a supervisor is registering its announcement again. -/
def SuperviseStage.reregisters : SuperviseStage → Bool
  | .calling _ _ | .registering _ _ | .pausing _ _ _ | .dropping | .adopting _ => true
  | _ => false

/-- Whether a task is a release. -/
def AnnouncerTask.releases : AnnouncerTask → Bool
  | release _ _ => true
  | _ => false

/-- A supervisor whose announcement is lost is registering it again. -/
theorem Announcement.Fits.reregisters {announcement : Announcement} {stage : SuperviseStage}
    (h : announcement.Fits stage) (hlost : announcement.registration = none) :
    stage.reregisters = true := by
  cases stage with
  | watching | forgetting => exact absurd hlost h
  | calling | registering | pausing | dropping | adopting => rfl
  | returning => exact h.elim

namespace Announcer

/-- What the status of an announcer tells. -/
structure StatusTells (a : Announcer) : Prop where
  active : a.status = .active → ∃ announcement registration,
    a.current = some announcement ∧ announcement.registration = some registration
  unregistered : a.status = .unregistered →
    a.current = none ∧ ∀ t x, a.tasks.get? t = some x → x.claims = false
  /-- A release has taken the announcement, and holds the lock. -/
  withdrawing : a.status = .withdrawing → a.current = none ∧
    ∃ t target registration deadline, a.holder = some t ∧
      a.tasks.get? t = some (.release target (.withdrawing registration deadline))
  /-- An announce has claimed the announcer, or the announcement is being registered
      again. -/
  registering : a.status = .registering →
    (a.current = none ∧ ∃ t x, a.tasks.get? t = some x ∧ x.claims = true) ∨
    ∃ announcement t seen stage,
      a.current = some announcement ∧ announcement.registration = none ∧
      a.tasks.get? t = some (.supervise announcement.id seen false stage) ∧
      stage.reregisters = true
  single : ∀ t t' x x', a.tasks.get? t = some x → a.tasks.get? t' = some x' →
    x.claims = true → x'.claims = true → t = t'

/-- Nothing is in progress: no task has claimed the announcer, and none releases
    anything. -/
structure Idle (a : Announcer) : Prop where
  claims : ∀ {t x}, a.tasks.get? t = some x → x.claims = false
  releases : ∀ {t x}, a.tasks.get? t = some x → x.releases = false

/-- Whether an announcer is idle is a matter of the tasks that it has. -/
theorem Idle.of_bindings {a : Announcer}
    (h : ∀ p ∈ a.tasks.bindings, p.2.claims = false ∧ p.2.releases = false) : Idle a where
  claims hx := (h _ ((Association.mem_bindings_iff _).2 hx)).1
  releases hx := (h _ ((Association.mem_bindings_iff _).2 hx)).2

/-- A valid record is one without a fault. -/
theorem recordFault?_eq_none_iff {record : ServiceRecord} :
    recordFault? record = none ↔ ValidRecord record := by
  unfold recordFault? ValidRecord
  split
  · simp_all
  · split
    · simp_all
    · split <;> simp_all

/-- What is announced and active has a registration. -/
theorem Coherent.registered_of_active {a : Announcer} (h : a.Coherent)
    (hactive : a.status = .active) : ∃ announcement registration,
      a.current = some announcement ∧ announcement.registration = some registration := by
  obtain ⟨announcement, hc⟩ := Option.ne_none_iff_exists'.1 (h.active hactive)
  refine ⟨announcement, ?_⟩
  cases hregistration : announcement.registration with
  | none => cases hactive.symm.trans (h.status_of_lost hc hregistration)
  | some registration => exact ⟨registration, hc, rfl⟩

/-- Where nothing is announced, the status does not tell otherwise. -/
theorem Coherent.current_eq_none {a : Announcer} (h : a.Coherent)
    (hregistering : a.status ≠ .registering) (hactive : a.status ≠ .active) :
    a.current = none := by
  cases hc : a.current with
  | none => rfl
  | some announcement =>
    by_cases hlost : announcement.registration = none
    · exact absurd (h.status_of_lost hc hlost) hregistering
    · exact absurd (h.status_of_registered hc hlost) hactive

end Announcer

namespace Lifetime

open Announcer

section

variable {settings : AnnouncerSettings} {l l' : Lifetime}

namespace Steady

/-- What the status tells unless the announcer is stranded. -/
theorem tells (h : Steady l) (hkept : l.letGo = false) : l.announcer.StatusTells where
  active := h.status.registered_of_active
  unregistered hstatus := by
    refine ⟨h.status.current_eq_none ?_ ?_, fun t x hx => ?_⟩
    · rw [hstatus]
      exact fun he => by cases he
    · rw [hstatus]
      exact fun he => by cases he
    · cases hclaims : x.claims with
      | false => rfl
      | true => cases hstatus.symm.trans (h.status.claimed hx hclaims).2.1
  withdrawing hstatus := by
    have hholder : l.announcer.holder ≠ none := fun hfree => by
      rw [h.stranded.1 ⟨hstatus, hfree⟩] at hkept
      cases hkept
    obtain ⟨t, ht⟩ := Option.ne_none_iff_exists'.1 hholder
    obtain ⟨x, hx, hholds⟩ := (h.order.holder t).1 ht
    refine ⟨(h.status.held ht).1, t, ?_⟩
    cases x with
    | announce | supervise => cases hholds
    | release target stage =>
      cases stage with
      | handed | taking => cases hholds
      | withdrawing registration deadline => exact ⟨target, registration, deadline, ht, hx⟩
  registering hstatus := by
    cases hc : l.announcer.current with
    | none =>
      obtain hsome | hclaimed := h.explained.registering hstatus
      · exact absurd hc hsome
      · exact .inl ⟨rfl, hclaimed⟩
    | some announcement =>
      have hlost : announcement.registration = none := by
        by_cases hlost : announcement.registration = none
        · exact hlost
        · cases hstatus.symm.trans (h.status.status_of_registered hc hlost)
      obtain ⟨t, seen, stage, hx, hfits⟩ := h.supervision.supervisor hc
      exact .inr ⟨announcement, t, seen, stage, rfl, hlost, hx, hfits.reregisters hlost⟩
  single _ _ _ _ := h.status.alone

/-- The status stays in an event or goes through one of its changes. -/
theorem becomes (h : Steady l) (hl : l.Meets l') :
    l'.announcer.status = l.announcer.status ∨
      l.announcer.status.Becomes l'.announcer.status := by
  cases hl with
  | @step s s' ha ho hs ha' =>
    rw [← ha, ← ha']
    exact hs.status (ha ▸ h.status) (ha ▸ h.supervision) ho
  | abort hgives => exact hgives.step.status h.status h.supervision h.order
  | elsewhere ha => exact .inl (congrArg _ ha)

end Steady

/-- At any moment of a lifetime in which no release was given up while it held the
    lock, the status tells what is announced and what is in progress, and goes
    through no changes but the few. -/
theorem Lived.status_tells (h : Lived settings l) (hkept : l.letGo = false) :
    l.announcer.StatusTells ∧ ∀ event l', l.meet? event = some l' →
      l'.announcer.status = l.announcer.status ∨
        l.announcer.status.Becomes l'.announcer.status :=
  ⟨h.steady.tells hkept, fun _ _ hl => h.steady.becomes (.of_meet? h.steady.order hl)⟩

/-- Two announces, of which the second is refused and the first is answered; the
    directory restarts twice while the record is registered again, and a handle is
    withdrawn and the withdrawal given up before it begins. -/
theorem Lived.status_tells_reregistering :
    let record : ServiceRecord := { instanceName := "nas", serviceType := "t", port := 5000 }
    let events : List AnnouncerEvent :=
      [.announce record, .announce record, .react 0 0 0 .proceed, .react 1 0 0 .proceed,
        .react 0 0 0 .proceed, .elsewhere 3, .react 0 0 0 (.registered (.ok ⟨7, "nas.t"⟩)),
        .react 0 0 0 .proceed, .withdraw 3, .abort 3, .react 2 1 5 .proceed, .react 2 1 5 .proceed,
        .react 2 1 5 .proceed,
        .react 2 1 5 (.registered (.error (.unavailable .refusedRegistration)))]
    ∃ l, (Lifetime.start {} 0).meetAll? events = some l ∧ l.letGo = false ∧
      l.announcer.status = .registering ∧ l.announcer.StatusTells ∧
      ∀ event l', l.meet? event = some l' →
        l'.announcer.status = l.announcer.status ∨
          l.announcer.status.Becomes l'.announcer.status := by
  intro record events
  have hrun : ((Lifetime.start {} 0).meetAll? events).any
      (fun l => l.letGo = false ∧ l.announcer.status = .registering) = true := by decide +kernel
  obtain ⟨l, hl, hstate⟩ := (Option.any_eq_true _ _).1 hrun
  obtain ⟨hkept, hstatus⟩ := of_decide_eq_true hstate
  exact ⟨l, hl, hkept, hstatus, ((Lived.start 0).meetAll hl).status_tells hkept⟩

/-! ## Nothing in progress -/

/-- A release that holds the lock is in progress. -/
theorem Steady.holder_of_idle (h : Steady l) (hidle : l.announcer.Idle) :
    l.announcer.holder = none := by
  rw [Option.eq_none_iff_forall_ne_some]
  intro t ht
  obtain ⟨x, hx, hholds⟩ := (h.order.holder t).1 ht
  cases x with
  | announce | supervise => cases hholds
  | release => cases hidle.releases hx

/-- Where nothing is announced nor in progress, the announcer is unregistered or
    stranded. -/
theorem Steady.status_of_idle (h : Steady l) (hidle : l.announcer.Idle)
    (hc : l.announcer.current = none) :
    l.announcer.status = if l.letGo = true then .withdrawing else .unregistered := by
  split
  · rename_i hletGo
    exact (h.stranded.2 hletGo).status
  · rename_i hkept
    cases hstatus : l.announcer.status with
    | unregistered => rfl
    | withdrawing => exact absurd (h.stranded.1 ⟨hstatus, h.holder_of_idle hidle⟩) hkept
    | active => exact absurd hc (h.status.active hstatus)
    | registering =>
      obtain hsome | ⟨t, x, hx, hclaims⟩ := h.explained.registering hstatus
      · exact absurd hc hsome
      · cases (hidle.claims hx).symm.trans hclaims

/-- An announce of a valid record that enters the lock where nothing is announced is
    refused unless the announcer is unregistered. -/
theorem refused_iff {a : Announcer} {view : AnnouncerView} {t : Nat} {record : ServiceRecord}
    (hc : a.current = none) (hx : a.tasks.get? t = some (.announce record .claiming))
    (hvalid : recordFault? record = none) (hm : a.mayEnter t = true) :
    (∃ a', a.step? view t .proceed =
        some (a', [.ended t (.refused (.invalidState "announce" a.status))])) ↔
      a.status ≠ .unregistered := by
  have hstep : a.step? view t .proceed = some (claim t record (a.leaveLine t)) := by
    rw [step?, hx]
    simp only [stepAnnounce, hvalid, guarded, if_pos hm]
  have hfree : (a.leaveLine t).current = none := hc
  have hsame : (a.leaveLine t).status = a.status := rfl
  rw [hstep, claim, hfree, hsame]
  by_cases hstatus : a.status = .unregistered
  · simp [hstatus]
  · simp [hstatus, finish]

/-- Once nothing is in progress, the announcer is withdrawing if and only if a release
    was given up while it held the lock; and where nothing is announced, a further
    announce of a valid record is refused if and only if one was. -/
theorem Lived.withdrawing_iff (h : Lived settings l) (hidle : l.announcer.Idle) :
    (l.announcer.status = .withdrawing ↔ l.letGo = true) ∧
      ∀ t record view, l.announcer.current = none →
        l.announcer.tasks.get? t = some (.announce record .claiming) →
        ValidRecord record → l.announcer.mayEnter t = true →
        ((∃ a, l.announcer.step? view t .proceed =
            some (a, [.ended t (.refused (.invalidState "announce" l.announcer.status))])) ↔
          l.letGo = true) := by
  have hsteady := h.steady
  refine ⟨⟨fun hstatus => ?_, fun hletGo => (hsteady.stranded.2 hletGo).status⟩, ?_⟩
  · exact hsteady.stranded.1 ⟨hstatus, hsteady.holder_of_idle hidle⟩
  · intro t record view hc hx hvalid hm
    rw [refused_iff hc hx (recordFault?_eq_none_iff.2 hvalid) hm, hsteady.status_of_idle hidle hc]
    cases l.letGo <;> simp

/-- A shutdown is given up while the directory has not answered, and the record is
    announced again. -/
theorem Lived.withdrawing_iff_abandoned :
    let record : ServiceRecord := { instanceName := "nas", serviceType := "t", port := 5000 }
    let events : List AnnouncerEvent :=
      [.announce record, .react 0 0 0 .proceed, .react 0 0 0 .proceed,
        .react 0 0 0 (.registered (.ok ⟨1, "nas.t"⟩)), .react 0 0 0 .proceed, .shutdown,
        .react 2 0 0 .proceed, .abort 2, .react 1 0 0 .stopped, .announce record]
    ∃ l, (Lifetime.start {} 0).meetAll? events = some l ∧ l.announcer.Idle ∧
      l.announcer.current = none ∧ l.letGo = true ∧ l.announcer.status = .withdrawing ∧
      ∃ a, l.announcer.step? ⟨0, 0, l.nextId⟩ 3 .proceed =
        some (a, [.ended 3 (.refused (.invalidState "announce" l.announcer.status))]) := by
  intro record events
  have hrun : ((Lifetime.start {} 0).meetAll? events).any (fun l =>
      (∀ p ∈ l.announcer.tasks.bindings, p.2.claims = false ∧ p.2.releases = false) ∧
        l.announcer.current = none ∧ l.letGo = true ∧
        l.announcer.tasks.get? 3 = some (.announce record .claiming) ∧
        l.announcer.mayEnter 3 = true) = true := by decide +kernel
  obtain ⟨l, hl, hstate⟩ := (Option.any_eq_true _ _).1 hrun
  obtain ⟨htasks, hc, hletGo, hx, hm⟩ := of_decide_eq_true hstate
  have hidle : l.announcer.Idle := .of_bindings htasks
  have hvalid : ValidRecord record := ⟨by decide, by decide, by decide⟩
  have hiff := ((Lived.start 0).meetAll hl).withdrawing_iff hidle
  exact ⟨l, hl, hidle, hc, hletGo, hiff.1.2 hletGo,
    (hiff.2 3 record ⟨0, 0, l.nextId⟩ hc hx hvalid hm).2 hletGo⟩

/-- No task is left once a shutdown was given up, and nothing is announced; still the
    announcer is withdrawing. -/
theorem Lived.withdrawing_left :
    let record : ServiceRecord := { instanceName := "nas", serviceType := "t", port := 5000 }
    let events : List AnnouncerEvent :=
      [.announce record, .react 0 0 0 .proceed, .react 0 0 0 .proceed,
        .react 0 0 0 (.registered (.ok ⟨1, "nas.t"⟩)), .react 0 0 0 .proceed, .shutdown,
        .react 2 0 0 .proceed, .abort 2, .react 1 0 0 .stopped]
    ∃ l, (Lifetime.start {} 0).meetAll? events = some l ∧ Lived {} l ∧
      l.announcer.tasks.keys = [] ∧ l.announcer.current = none ∧
      l.announcer.status = .withdrawing := by
  intro record events
  have hrun : ((Lifetime.start {} 0).meetAll? events).any (fun l =>
      l.announcer.tasks.keys = [] ∧ l.announcer.current = none ∧
        l.announcer.status = .withdrawing) = true := by decide +kernel
  obtain ⟨l, hl, hstate⟩ := (Option.any_eq_true _ _).1 hrun
  exact ⟨l, hl, (Lived.start 0).meetAll hl, of_decide_eq_true hstate⟩

end

end Lifetime

end ServiceDiscovery
