import ServiceDiscovery.Proofs.Announcer.Bystanders
import ServiceDiscovery.Proofs.Announcer.Accounting

/-!
# Released announcements

A release that enters the lock takes what is announced, if it is meant for it, and keeps the
lock until the directory has answered or the time for that is up
(`Lifetime.CarriedOut`).

A supervisor that was not told to stop supervises what is announced
(`Announcer.Dutiful`), so nobody is left who would act for an announcement that is gone
(`Lifetime.Dismissed`). Main statement: however a release goes on, and whatever happens
beside it, it ends with nothing announced and one request to withdraw what was registered,
and no release and no supervisor of that announcement changes anything after it
(`Lifetime.Lived.carries_out`).
-/

namespace ServiceDiscovery

namespace Announcer

variable {a a' : Announcer} {t id : Nat} {x : AnnouncerTask} {y : Option AnnouncerTask}
  {stopped : Option Nat} {view : AnnouncerView} {signal : AnnouncerSignal} {stepped : Stepped}

/-! ## Supervisors that were not told to stop -/

/-- Whoever supervises, and was not told to stop, supervises what is announced. -/
structure Dutiful (a : Announcer) : Prop where
  current : ∀ {t id seen stage}, a.tasks.get? t = some (.supervise id seen false stage) →
    a.currentId? = some id

namespace Dutiful

/-- A task goes on or ends; what is announced stays so, or its supervisor is told to stop. -/
theorem moved (h : Dutiful a) (hx : a.tasks.get? t = some x)
    (htasks : ∀ t', a'.tasks.get? t' =
      if t' = t then y else (a.tasks.get? t').map (AnnouncerTask.told stopped))
    (hy : ∀ id seen stage, y = some (.supervise id seen false stage) →
      stopped = none ∧ ∃ seen' stage', x = .supervise id seen' false stage')
    (hc : ∀ id, a.currentId? = some id → stopped ≠ some id → a'.currentId? = some id) :
    Dutiful a' where
  current {t' id seen stage} hz := by
    rw [htasks] at hz
    split at hz
    · obtain ⟨rfl, seen', stage', rfl⟩ := hy id seen stage hz
      exact hc id (h.current hx) (Option.some_ne_none id).symm
    · obtain ⟨z, hwas, htold⟩ := Option.map_eq_some_iff.1 hz
      cases z with
      | announce | release => cases htold
      | supervise id' seen' cancelled stage' =>
        rw [AnnouncerTask.told] at htold
        injection htold with hid _ hcancelled
        obtain ⟨rfl, hstopped⟩ := Bool.or_eq_false_iff.1 hcancelled
        subst hid
        exact hc _ (h.current hwas) (of_decide_eq_false hstopped)

/-- A task ends or goes on, and what is announced stays. -/
theorem aside (h : Dutiful a) (hx : a.tasks.get? t = some x)
    (htasks : ∀ t', a'.tasks.get? t' =
      if t' = t then y else (a.tasks.get? t').map (AnnouncerTask.told none))
    (hy : ∀ id seen stage, y = some (.supervise id seen false stage) →
      ∃ seen' stage', x = .supervise id seen' false stage')
    (hc : a'.currentId? = a.currentId?) : Dutiful a' :=
  h.moved hx htasks (fun id seen stage he => ⟨rfl, hy id seen stage he⟩)
    fun _ hid _ => hc.trans hid

open Scene

theorem step {s s' : Scene} {prompt : Prop} (h : Dutiful s.announcer)
    (hcoh : Coherent s.announcer) (hs : s.Step prompt s') : Dutiful s'.announcer := by
  have hid {announcement : Announcement} {id : Nat}
      (hc : s.announcer.current = some announcement) (he : s.announcer.currentId? = some id) :
      announcement.id = id := by
    rw [currentId?, hc] at he
    exact Option.some.inj he
  have hnone {P : Nat → Nat → SuperviseStage → Prop} :
      ∀ id seen stage, none = some (AnnouncerTask.supervise id seen false stage) →
        P id seen stage :=
    fun _ _ _ he => by cases he
  cases hs with
  | script | restart | progress | commit | delay | unregister => exact h
  | join => exact ⟨h.current⟩
  | start hx =>
    refine ⟨fun hz => ?_⟩
    rcases Orderly.get?_spawn hz with ⟨-, rfl⟩ | hz
    · cases hx
    · exact h.current hz
  | advance hx ha =>
    refine h.aside hx get?_setTask (fun id seen stage he => ?_) rfl
    cases ha with
    | handed => cases he
    | noticed | rested => cases he; exact ⟨_, _, rfl⟩
  | quit hx hq ha =>
    rcases ha with rfl | ⟨-, rfl⟩ <;> exact h.aside hx get?_endTask hnone rfl
  | leave hx | refuse hx | released hx | abandon _ hx | letGo _ hx =>
    exact h.aside hx get?_endTask hnone rfl
  | ask hx ha =>
    refine h.aside hx get?_setTask (fun id seen stage he => ?_) rfl
    cases ha with
    | announce => cases he
    | supervise => cases he; exact ⟨_, _, rfl⟩
  | gain hx _ ha =>
    refine h.aside hx get?_setTask (fun id seen stage he => ?_) rfl
    cases ha with
    | announce => cases he
    | supervise => cases he; exact ⟨_, _, rfl⟩
  | fail hx _ ha =>
    refine h.aside hx get?_setTask (fun id seen stage he => ?_) rfl
    cases ha <;> cases he <;> exact ⟨_, _, rfl⟩
  | claim hx => exact h.aside hx get?_setTask (fun id seen stage he => by cases he) rfl
  | @store t _ _ _ hx =>
    refine ⟨fun {t' id seen stage} hz => ?_⟩
    replace hz : ((s.announcer.tasks.put s.announcer.nextTask _).erase t).get? t' =
      some (.supervise id seen false stage) := hz
    rw [Association.get?_erase, Association.get?_put] at hz
    split at hz
    · cases hz
    · split at hz
      · cases hz
        rfl
      · -- Nothing was announced before, so whoever supervised was told to stop.
        have hcurrent := h.current hz
        rw [currentId?, (hcoh.claimed hx rfl).1] at hcurrent
        cases hcurrent
  | @takeLost t _ announcement hx _ hc =>
    refine h.moved hx
      (get?_stopSupervisor_endTask (a := s.announcer) announcement.id) hnone fun id he hne => ?_
    exact absurd (congrArg some (hid hc he)) hne
  | @take t _ _ announcement _ hx _ hc =>
    refine h.moved hx
      (get?_stopSupervisor_setTask (a := s.announcer) announcement.id)
      (fun id seen stage he => by cases he) fun id he hne => ?_
    exact absurd (congrArg some (hid hc he)) hne
  | forget hx hc =>
    refine h.aside hx get?_setTask (fun id seen stage he => by cases he; exact ⟨_, _, rfl⟩) ?_
    rw [currentId?, currentId?, hc]
    rfl
  | @drop t id _ _ _ hx hc hcurrent =>
    refine h.moved hx (get?_stopSupervisor_endTask (a := s.announcer) id) hnone
      fun id' he hne => ?_
    exact absurd (congrArg some (hcurrent.symm.trans (hid hc he))) hne
  | adopt hx hc =>
    refine h.aside hx get?_setTask (fun id seen stage he => by cases he; exact ⟨_, _, rfl⟩) ?_
    rw [currentId?, currentId?, hc]
    rfl
  | giveBack hx =>
    exact h.aside hx get?_setTask (fun id seen stage he => by cases he; exact ⟨_, _, rfl⟩) rfl

end Dutiful

/-- A supervisor leaves what is announced as it is, unless that is what it supervises. -/
theorem stepSupervise_frame {seen : Nat} {cancelled : Bool} {stage : SuperviseStage}
    (hgone : a.currentId? ≠ some id)
    (h : a.stepSupervise view t id seen cancelled stage signal = some stepped) :
    stepped.1.current = a.current ∧ stepped.1.status = a.status := by
  have hfilter {announcement : Announcement}
      (hfound : (a.leaveLine t).current.filter (·.id = id) = some announcement) : False := by
    obtain ⟨hc, hid⟩ := filter_current_eq_some hfound
    refine hgone ?_
    rw [currentId?, show a.current = some announcement from hc, ← hid]
    rfl
  cases supervises_of_stepSupervise h with
  | noticed | goes | registered | ends => exact ⟨rfl, rfl⟩
  | forgets hguarded =>
    rcases guarded_eq_some hguarded with ⟨-, rfl⟩ | ⟨-, rfl⟩
    · rw [forget]
      split
      · exact ⟨rfl, rfl⟩
      · exact (hfilter ‹_›).elim
    · exact ⟨rfl, rfl⟩
  | drops hguarded =>
    rcases guarded_eq_some hguarded with ⟨-, rfl⟩ | ⟨-, rfl⟩
    · rw [drop]
      split
      · exact absurd (isCurrent_iff.1 ‹_›) hgone
      · exact ⟨rfl, rfl⟩
    · exact ⟨rfl, rfl⟩
  | adopts hguarded =>
    rcases guarded_eq_some hguarded with ⟨-, rfl⟩ | ⟨-, rfl⟩
    · rw [adopt]
      split
      · exact (hfilter ‹_›).elim
      · exact ⟨rfl, rfl⟩
    · exact ⟨rfl, rfl⟩

/-- To give one task up leaves the others. -/
theorem get?_abort_of_ne {t' : Nat} (hne : t' ≠ t) :
    (a.abort t).1.tasks.get? t' = a.tasks.get? t' := by
  rw [abort]
  split
  · rename_i record stage _
    cases stage <;> exact Association.get?_erase_of_ne _ hne
  · rename_i target stage _
    cases stage <;> exact Association.get?_erase_of_ne _ hne
  · rfl

/-- A release is what its number says of it. -/
theorem release?_eq_some_iff {target : Option Nat} {stage : ReleaseStage} :
    a.release? t = some (target, stage) ↔ a.tasks.get? t = some (.release target stage) := by
  rw [release?]
  cases a.tasks.get? t with
  | none => simp
  | some x => cases x <;> simp [AnnouncerTask.release?]

end Announcer

namespace Lifetime

open Announcer

variable {settings : AnnouncerSettings} {l l' l'' : Lifetime} {event : AnnouncerEvent}
  {t id now : Nat} {target : Option Nat} {announcement : Announcement}

/-! ## Announcements that are gone -/

theorem Lived.dutiful (h : Lived settings l) : l.announcer.Dutiful := by
  induction h with
  | start nextId => exact ⟨fun hx => by cases hx⟩
  | step h hl ih =>
    cases Meets.of_meet? h.steady.order hl with
    | step ha _ hs ha' => exact ha' ▸ (ha ▸ ih).step (ha ▸ h.steady.status) hs
    | abort hgives => exact Dutiful.step (s := Lifetime.scene _) ih h.steady.status hgives.step
    | elsewhere ha => exact ha ▸ ih

/-- An announcement was made and is not the current one any more. -/
structure Dismissed (l : Lifetime) (id : Nat) : Prop where
  made : id < l.nextId
  gone : l.announcer.currentId? ≠ some id

theorem foldl_nextId {effects : List AnnouncerEffect} (next : Nat)
    (h : ∀ effect ∈ effects, effect.announced? = none) :
    effects.foldl AnnouncerEffect.nextId next = next := by
  induction effects with
  | nil => rfl
  | cons effect effects ih =>
    obtain ⟨hfirst, hrest⟩ := List.forall_mem_cons.1 h
    have hsame : AnnouncerEffect.nextId next effect = next := by
      cases effect with
      | ended task result =>
        cases result with
        | announced => cases hfirst
        | refused | released | unattended => rfl
      | register | withdraw | forgo | drop => rfl
    rw [List.foldl_cons, hsame, ih hrest]

/-- What is gone does not come back. -/
theorem Dismissed.meet? (h : l.Dismissed id) (hsteady : Steady l)
    (hl : l.meet? event = some l') : l'.Dismissed id := by
  cases event with
  | announce | withdraw | shutdown | dropHandle =>
    obtain rfl := Option.some.inj hl
    exact ⟨h.made, h.gone⟩
  | abort task =>
    obtain rfl := Option.some.inj hl
    refine ⟨h.made, ?_⟩
    have hcurrent := (abort_frame l.announcer task).1
    dsimp only
    rw [currentId?, hcurrent]
    exact h.gone
  | elsewhere count =>
    obtain rfl := Option.some.inj hl
    exact ⟨Nat.lt_of_lt_of_le h.made (Nat.le_add_right ..), h.gone⟩
  | react task generation now signal =>
    obtain ⟨⟨a, effects⟩, hstep, rfl⟩ := Option.map_eq_some_iff.1 hl
    cases turn_of_step? hsteady.vacant hsteady.order.next hstep with
    | release _ hreleases _ heffects =>
      refine ⟨Nat.lt_of_lt_of_eq h.made (foldl_nextId _ heffects).symm, ?_⟩
      cases hreleases with
      | handed hc | joined _ hc | missed _ hc | ended hc =>
        rw [currentId?, hc]
        exact h.gone
      | taken _ _ _ hc =>
        rw [currentId?, hc]
        exact (Option.some_ne_none id).symm
    | other _ _ _ hc heffects =>
      exact ⟨Nat.lt_of_lt_of_eq h.made (foldl_nextId _ heffects).symm, hc ▸ h.gone⟩
    | stored _ _ _ _ hc =>
      refine ⟨Nat.lt_succ_of_lt h.made, fun he => ?_⟩
      exact absurd (Option.some.inj (hc.symm.trans he)) (Nat.ne_of_gt h.made)
    | dropped _ _ _ _ hc => exact ⟨h.made, hc ▸ (Option.some_ne_none id).symm⟩

theorem Dismissed.meetAll? {events : List AnnouncerEvent} (h : l.Dismissed id)
    (hlived : Lived settings l) (hl : l.meetAll? events = some l') : l'.Dismissed id := by
  induction events generalizing l with
  | nil => exact Option.some.inj hl ▸ h
  | cons event events ih =>
    obtain ⟨l₁, hfirst, hrest⟩ := Option.bind_eq_some_iff.1 hl
    exact ih (h.meet? hlived.steady hfirst) (hlived.step hfirst) hrest

/-- What is announced has its number. -/
theorem Steady.id_lt (h : Steady l) (hc : l.announcer.current = some announcement) :
    announcement.id < l.nextId := by
  obtain ⟨t, seen, stage, hx, -⟩ := h.supervision.supervisor hc
  exact h.order.ids hx rfl

/-! ## Releases in the lock -/

/-- What a task does outside of the announcer in an event. -/
def does (l : Lifetime) (t : Nat) : AnnouncerEvent → List AnnouncerEffect
  | .react task generation now signal =>
    if task = t then
      ((l.announcer.step? ⟨generation, now, l.nextId⟩ task signal).map Prod.snd).getD []
    else []
  | .abort task => if task = t then (l.announcer.abort task).2 else []
  | _ => []

/-- What comes of an announcer once a task has gone on at some moment, until that task ends,
    with what it did outside. Whatever happens meanwhile, the task is not given up. -/
inductive CarriedOut (l : Lifetime) (t now : Nat) : Lifetime → List AnnouncerEffect → Prop
  | first {l' : Lifetime} {generation : Nat} :
      l.meet? (.react t generation now .proceed) = some l' →
      CarriedOut l t now l' (l.does t (.react t generation now .proceed))
  | next {l' l'' : Lifetime} {event : AnnouncerEvent} {done : List AnnouncerEffect} :
      CarriedOut l t now l' done → l'.announcer.tasks.get? t ≠ none → event ≠ .abort t →
      l'.meet? event = some l'' → CarriedOut l t now l'' (done ++ l'.does t event)

theorem does_react {generation : Nat} {signal : AnnouncerSignal} {stepped : Stepped}
    (h : l.announcer.step? ⟨generation, now, l.nextId⟩ t signal = some stepped) :
    l.does t (.react t generation now signal) = stepped.2 := by
  rw [does, if_pos rfl, h]
  rfl

/-- A release leaves others in the lock alone, and goes on by its own steps only. -/
theorem Steady.get?_of_meet? (h : Steady l) {stage : ReleaseStage}
    (hx : l.announcer.tasks.get? t = some (.release target stage))
    (hevent : event ≠ .abort t)
    (hown : ∀ generation now signal, event ≠ .react t generation now signal)
    (hl : l.meet? event = some l') :
    l'.announcer.tasks.get? t = some (.release target stage) ∧ l.does t event = [] := by
  cases event with
  | announce | withdraw | shutdown | dropHandle =>
    obtain rfl := Option.some.inj hl
    exact ⟨h.order.get?_spawn_of_some hx, rfl⟩
  | abort task =>
    obtain rfl := Option.some.inj hl
    have hne : t ≠ task := fun he => hevent (he ▸ rfl)
    exact ⟨(get?_abort_of_ne hne).trans hx, if_neg (Ne.symm hne)⟩
  | elsewhere =>
    obtain rfl := Option.some.inj hl
    exact ⟨hx, rfl⟩
  | react task generation now signal =>
    have hne : task ≠ t := fun he => hown generation now signal (he ▸ rfl)
    obtain ⟨⟨a, effects⟩, hstep, rfl⟩ := Option.map_eq_some_iff.1 hl
    refine ⟨release?_eq_some_iff.1 ?_, if_neg hne⟩
    have hself := release?_eq_some_iff.2 hx
    cases turn_of_step? h.vacant h.order.next hstep with
    | release _ _ hreleases => exact (hreleases t).trans ((if_neg (Ne.symm hne)).trans hself)
    | other _ _ hreleases | stored _ _ hreleases | dropped _ _ hreleases =>
      exact (hreleases t).trans hself

/-- A release that waits in the lock goes on once the directory has answered, whatever that is,
    or the deadline has passed, and then it ends. -/
theorem step?_withdrawing {a : Announcer} {view : AnnouncerView} {signal : AnnouncerSignal}
    {registration : Registration} {deadline : Nat} {stepped : Stepped}
    (hx : a.tasks.get? t = some (.release target (.withdrawing registration deadline))) :
    a.step? view t signal = some stepped ↔
      stepped = a.released t ∧ (signal = .withdrawn ∨ signal = .expired ∧ deadline ≤ view.now) := by
  rw [step?, hx]
  cases signal with
  | withdrawn => simp [stepRelease, eq_comm]
  | expired => simp [stepRelease, eq_comm, and_comm]
  | proceed | registered | stopped => simp [stepRelease]

/-- A release that waits for the directory, in the lock, with what it did. -/
structure Waiting (l : Lifetime) (t deadline : Nat) (announcement : Announcement)
    (done : List AnnouncerEffect) : Prop where
  asked : ∃ registration, announcement.registration = some registration ∧
    done = [.withdraw t registration]
  status : l.announcer.status = .withdrawing
  holder : l.announcer.holder = some t
  /-- It goes on with any answer of the directory. -/
  answered : ∀ generation now, ∃ l', l.meet? (.react t generation now .withdrawn) = some l'
  /-- It goes on without one as soon as the time is up. -/
  expired : ∀ generation now,
    (∃ l', l.meet? (.react t generation now .expired) = some l') ↔ deadline ≤ now

/-- A release that has just ended, with what it did. -/
structure Settled (l : Lifetime) (t : Nat) (announcement : Announcement)
    (done : List AnnouncerEffect) : Prop where
  ended : l.announcer.tasks.get? t = none
  status : l.announcer.status = .unregistered
  holder : l.announcer.holder = none
  /-- It asked once for what was registered, and no more. -/
  asked : done = (announcement.registration.toList.flatMap fun registration =>
    [.withdraw t registration, .forgo t]) ++ [.ended t .released]

theorem Steady.waiting (h : Steady l) {registration : Registration} {deadline : Nat}
    (hx : l.announcer.tasks.get? t = some (.release target (.withdrawing registration deadline)))
    (hregistration : announcement.registration = some registration) :
    l.announcer.current = none ∧
      Waiting l t deadline announcement [.withdraw t registration] := by
  have hholder : l.announcer.holder = some t := (h.order.holder t).2 ⟨_, hx, rfl⟩
  obtain ⟨hcurrent, hstatus⟩ := h.status.held hholder
  refine ⟨hcurrent, ⟨registration, hregistration, rfl⟩, hstatus, hholder,
    fun generation now => ?_, fun generation now => ?_⟩
  · rw [meet?, (step?_withdrawing hx).2 ⟨rfl, .inl rfl⟩]
    exact ⟨_, rfl⟩
  · refine ⟨fun ⟨l', hl⟩ => ?_, fun hpassed => ?_⟩
    · obtain ⟨stepped, hstep, -⟩ := Option.map_eq_some_iff.1 hl
      obtain ⟨-, he | ⟨-, hpassed⟩⟩ := (step?_withdrawing hx).1 hstep
      · cases he
      · exact hpassed
    · rw [meet?, (step?_withdrawing hx).2 ⟨rfl, .inr ⟨rfl, hpassed⟩⟩]
      exact ⟨_, rfl⟩

/-- What a release does as it enters the lock. -/
theorem step?_taking {a : Announcer} (view : AnnouncerView)
    (hx : a.tasks.get? t = some (.release target .taking)) (hm : a.mayEnter t = true) :
    a.step? view t .proceed = some (take view t target (a.leaveLine t)) := by
  rw [step?, hx]
  exact if_pos hm

/-- How a release that has taken an announcement stands. -/
theorem CarriedOut.stands (h : Lived settings l)
    (hx : l.announcer.tasks.get? t = some (.release target .taking))
    (hm : l.announcer.mayEnter t = true)
    (hfound : l.announcer.current.filter (isTarget target) = some announcement)
    {done : List AnnouncerEffect} (hcarried : CarriedOut l t now l' done) :
    Lived settings l' ∧ l'.Dismissed announcement.id ∧
      ((∃ registration, announcement.registration = some registration ∧
          done = [.withdraw t registration] ∧
          l'.announcer.tasks.get? t = some (.release target
            (.withdrawing registration (now + l.announcer.settings.withdrawTimeout)))) ∨
        l'.announcer.current = none ∧ Settled l' t announcement done) := by
  induction hcarried with
  | @first l' generation hl =>
    have hstep := step?_taking ⟨generation, now, l.nextId⟩ hx hm
    have hfound' : (l.announcer.leaveLine t).current.filter (isTarget target) =
        some announcement := hfound
    rw [take, hfound'] at hstep
    dsimp only at hstep
    rw [does_react hstep]
    have hmade := h.steady.id_lt (Option.filter_eq_some_iff.1 hfound).1
    refine ⟨h.step hl, ?_⟩
    rw [meet?, hstep, Option.map_some] at hl
    obtain rfl := Option.some.inj hl
    cases hregistration : announcement.registration with
    | none =>
      have hfree : l.announcer.holder = none := holder_of_mayEnter hm
      refine ⟨⟨hmade, (Option.some_ne_none _).symm⟩,
        .inr ⟨rfl, Association.get?_erase_self .., rfl, hfree, ?_⟩⟩
      rw [hregistration]
      rfl
    | some registration =>
      exact ⟨⟨hmade, (Option.some_ne_none _).symm⟩,
        .inl ⟨registration, rfl, rfl, Association.get?_put_self ..⟩⟩
  | @next l' l'' event done _ hthere hevent hl ih =>
    obtain ⟨hlived, hgone, hstands⟩ := ih
    refine ⟨hlived.step hl, hgone.meet? hlived.steady hl, ?_⟩
    rcases hstands with ⟨registration, hregistration, rfl, hwaits⟩ | ⟨-, hsettled⟩
    · by_cases hown : ∃ generation now signal, event = .react t generation now signal
      · obtain ⟨generation, now', signal, rfl⟩ := hown
        obtain ⟨stepped, hstep, rfl⟩ := Option.map_eq_some_iff.1 hl
        rw [does_react hstep]
        obtain ⟨rfl, -⟩ := (step?_withdrawing hwaits).1 hstep
        have hholder : l'.announcer.holder = some t :=
          (hlived.steady.order.holder t).2 ⟨_, hwaits, rfl⟩
        refine .inr ⟨(hlived.steady.status.held hholder).1, Association.get?_erase_self .., rfl,
          rfl, ?_⟩
        rw [hregistration]
        rfl
      · have hothers : ∀ generation now signal, event ≠ .react t generation now signal :=
          fun generation now signal he => hown ⟨generation, now, signal, he⟩
        obtain ⟨hstill, hnothing⟩ := hlived.steady.get?_of_meet? hwaits hevent hothers hl
        rw [hnothing, List.append_nil]
        exact .inl ⟨registration, hregistration, rfl, hstill⟩
    · exact absurd hsettled.ended hthere

/-- A release that enters the lock where nothing is announced that it is meant for leaves
    everything as it is, and ends. -/
theorem CarriedOut.missed (hx : l.announcer.tasks.get? t = some (.release target .taking))
    (hm : l.announcer.mayEnter t = true)
    (hnone : l.announcer.current.filter (isTarget target) = none)
    {done : List AnnouncerEffect} (hcarried : CarriedOut l t now l' done) :
    l'.announcer = (l.announcer.leaveLine t).endTask t ∧ done = [.ended t .released] := by
  induction hcarried with
  | @first l' generation hl =>
    have hstep := step?_taking ⟨generation, now, l.nextId⟩ hx hm
    have hnone' : (l.announcer.leaveLine t).current.filter (isTarget target) = none := hnone
    rw [take, hnone'] at hstep
    rw [does_react hstep]
    rw [meet?, hstep, Option.map_some] at hl
    obtain rfl := Option.some.inj hl
    exact ⟨rfl, rfl⟩
  | next _ hthere _ _ ih =>
    rw [ih.1] at hthere
    exact absurd (Association.get?_erase_self ..) hthere

/-- A release that enters the lock, and is not given up, ends at once and leaves everything as it
    is, if it is not meant for what is announced. Otherwise it asks once for what is registered,
    if anything is, to be withdrawn, waits in the lock for any answer or for the deadline, and
    ends with nothing announced. Whatever happens later, a further release of that announcement
    is not meant for what is announced, and its supervisors were told to stop and change nothing
    of what is announced. -/
theorem Lived.carries_out (h : Lived settings l)
    (hx : l.announcer.tasks.get? t = some (.release target .taking))
    (hm : l.announcer.mayEnter t = true) :
    (∀ generation now, ∃ l', l.meet? (.react t generation now .proceed) = some l') ∧
      ∀ now l' done, CarriedOut l t now l' done →
        match l.announcer.current.filter (isTarget target) with
        | none =>
          l'.announcer = (l.announcer.leaveLine t).endTask t ∧ done = [.ended t .released]
        | some announcement =>
          l'.announcer.current = none ∧
          (Waiting l' t (now + l.announcer.settings.withdrawTimeout) announcement done ∨
            Settled l' t announcement done) ∧
          ∀ events l'', l'.meetAll? events = some l'' →
            l''.announcer.current.filter (isTarget (some announcement.id)) = none ∧
            ∀ t' seen cancelled stage,
              l''.announcer.tasks.get? t' =
                some (.supervise announcement.id seen cancelled stage) →
              cancelled = true ∧ ∀ view signal stepped,
                l''.announcer.step? view t' signal = some stepped →
                stepped.1.current = l''.announcer.current ∧
                  stepped.1.status = l''.announcer.status := by
  refine ⟨fun generation now => ?_, fun now l' done hcarried => ?_⟩
  · rw [meet?, step?_taking _ hx hm]
    exact ⟨_, rfl⟩
  · split
    · exact hcarried.missed hx hm ‹_›
    · rename_i announcement hfound
      obtain ⟨hlived, hgone, hstands⟩ := hcarried.stands h hx hm hfound
      have hnow : l'.announcer.current = none ∧
          (Waiting l' t (now + l.announcer.settings.withdrawTimeout) announcement done ∨
            Settled l' t announcement done) := by
        rcases hstands with ⟨registration, hregistration, rfl, hwaits⟩ | ⟨hcurrent, hsettled⟩
        · exact (hlived.steady.waiting hwaits hregistration).imp_right .inl
        · exact ⟨hcurrent, .inr hsettled⟩
      refine ⟨hnow.1, hnow.2, fun events l'' hlater => ?_⟩
      have hlived' := hlived.meetAll hlater
      have hgone' := (hgone.meetAll? hlived hlater).gone
      refine ⟨?_, fun t' seen cancelled stage hx' => ⟨?_, fun view signal stepped hstep => ?_⟩⟩
      · rw [Option.filter_eq_none_iff]
        rintro found hfound' hid
        refine hgone' ?_
        rw [currentId?, hfound', of_decide_eq_true hid]
        rfl
      · cases cancelled with
        | true => rfl
        | false => exact absurd (hlived'.dutiful.current hx') hgone'
      · rw [step?, hx'] at hstep
        exact stepSupervise_frame hgone' hstep

/-- The directory has restarted and never answers to the release, which ends at its deadline.
    The record is announced again before the supervisor of the first announcement goes on. -/
theorem Lived.carries_out_unanswered :
    let record : ServiceRecord := { instanceName := "nas", serviceType := "t", port := 5000 }
    let announcement : Announcement := ⟨0, record, some ⟨1, "nas.t"⟩⟩
    let before : List AnnouncerEvent :=
      [.announce record, .react 0 0 0 .proceed, .react 0 0 0 .proceed,
        .react 0 0 0 (.registered (.ok ⟨1, "nas.t"⟩)), .react 0 0 0 .proceed, .react 1 1 0 .proceed,
        .withdraw 0, .react 2 1 0 .proceed]
    let later : List AnnouncerEvent :=
      [.announce record, .react 3 1 0 .proceed, .react 3 1 0 .proceed,
        .react 3 1 0 (.registered (.ok ⟨2, "nas.t"⟩)), .react 3 1 0 .proceed]
    ∃ l l' l'' done, (Lifetime.start {} 0).meetAll? before = some l ∧
      l.announcer.current = some announcement ∧ CarriedOut l 2 7 l' done ∧
      Settled l' 2 announcement done ∧ l'.meetAll? later = some l'' ∧
      l''.announcer.currentId? = some 1 ∧
      l''.announcer.tasks.get? 1 = some (.supervise 0 1 true .forgetting) ∧
      ∀ view signal stepped, l''.announcer.step? view 1 signal = some stepped →
        stepped.1.current = l''.announcer.current ∧
          stepped.1.status = l''.announcer.status := by
  intro record announcement before later
  have hrun : ((Lifetime.start {} 0).meetAll? before).any fun l =>
      (l.announcer.tasks.get? 2 = some (.release (some 0) .taking) ∧
        l.announcer.mayEnter 2 = true ∧ l.announcer.current = some announcement) ∧
      (l.meet? (.react 2 1 7 .proceed)).any fun l₁ => l₁.announcer.tasks.get? 2 ≠ none ∧
      (l₁.meet? (.react 2 1 (7 + l.announcer.settings.withdrawTimeout) .expired)).any fun l' =>
        l'.announcer.holder = none ∧
      (l'.meetAll? later).any fun l'' => l''.announcer.currentId? = some 1 ∧
        l''.announcer.tasks.get? 1 = some (.supervise 0 1 true .forgetting) := by
    decide +kernel
  obtain ⟨l, hl, hfacts⟩ := (Option.any_eq_true ..).1 hrun
  obtain ⟨⟨hx, hm, hc⟩, hfacts⟩ := of_decide_eq_true hfacts
  obtain ⟨l₁, hl₁, hfacts⟩ := (Option.any_eq_true ..).1 hfacts
  obtain ⟨hthere, hfacts⟩ := of_decide_eq_true hfacts
  obtain ⟨l', hl', hfacts⟩ := (Option.any_eq_true ..).1 hfacts
  obtain ⟨hfree, hfacts⟩ := of_decide_eq_true hfacts
  obtain ⟨l'', hl'', hfacts⟩ := (Option.any_eq_true ..).1 hfacts
  obtain ⟨hid, hold⟩ := of_decide_eq_true hfacts
  have hcarried := (CarriedOut.first hl₁).next hthere (by simp) hl'
  have hstands := (((Lived.start 0).meetAll hl).carries_out hx hm).2 7 l' _ hcarried
  rw [hc] at hstands
  obtain ⟨-, hnow, hlater⟩ := hstands
  have hsettled := hnow.resolve_left fun hwaits => by
    cases hfree.symm.trans hwaits.holder
  exact ⟨l, l', l'', _, hl, hc, hcarried, hsettled, hl'', hid, hold,
    ((hlater later l'' hl'').2 1 1 true .forgetting hold).2⟩

end Lifetime

end ServiceDiscovery
