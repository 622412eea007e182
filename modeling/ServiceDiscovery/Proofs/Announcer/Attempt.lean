import ServiceDiscovery.Proofs.Announcer.Conduct
import ServiceDiscovery.Proofs.Announcer.Dismissal

/-!
# Announces until they are announced

What a step of an announce leads to, once and for all (`Announcer.Announces`). Until the
announcement is stored no other task has any part in it, nor has what is announced
(`Announcer.Alone`).

An announce gives its claim back as it fails or is given up (`Lifetime.Lived.tries`).
Whatever happens then, nothing is announced and the announcer stays unregistered until
somebody claims it (`Announcer.Free.step`), and the first to enter the lock with a valid
record does (`Lifetime.accepts_of_free`).
-/

namespace ServiceDiscovery

/-- What an announce does outside of the announcer before it is announced: it asks to have its
    record registered, gives that request up, or ends with an error. -/
inductive AnnouncerEffect.Tries (t : Nat) (record : ServiceRecord) : AnnouncerEffect → Prop
  | register : Tries t record (.register t record)
  | forgo : Tries t record (.forgo t)
  | refused {error : DiscoveryError} : Tries t record (.ended t (.refused error))

namespace Announcer

/-- What a step of an announce leads to. -/
inductive Announces (a : Announcer) (view : AnnouncerView) (t : Nat) (record : ServiceRecord) :
    AnnounceStage → AnnouncerSignal → Stepped → Prop
  /-- The record may not be announced. -/
  | faulty {fault : RecordFault} : recordFault? record = some fault →
      Announces a view t record .claiming .proceed (a.finish t (.refused (.invalidRecord fault)))
  | joins {stage : AnnounceStage} : a.mayEnter t = false →
      Announces a view t record stage .proceed (a.joinLine t, [])
  /-- Something is announced, or in progress. -/
  | late : a.mayEnter t = true → a.current ≠ none ∨ a.status ≠ .unregistered →
      Announces a view t record .claiming .proceed
        ((a.leaveLine t).finish t (.refused (.invalidState "announce" a.status)))
  | claims : recordFault? record = none → a.mayEnter t = true → a.current = none →
      a.status = .unregistered →
      Announces a view t record .claiming .proceed
        ({ a.leaveLine t with status := .registering }.setTask t (.announce record .subscribing),
          [])
  | asks : Announces a view t record .subscribing .proceed
      (a.setTask t (.announce record (.registering view.generation)), [.register t record])
  | hears {seen : Nat} {registration : Registration} :
      Announces a view t record (.registering seen) (.registered (.ok registration))
        (a.setTask t (.announce record (.storing seen registration)), [])
  /-- The directory refuses the registration. -/
  | fails {seen : Nat} {error : DiscoveryError} :
      Announces a view t record (.registering seen) (.registered (.error error))
        ({ a with status := .unregistered }.finish t (.refused error))
  | stores {seen : Nat} {registration : Registration} : a.mayEnter t = true →
      Announces a view t record (.storing seen registration) .proceed
        (store view t record seen registration (a.leaveLine t))

/-- What happens concerns one task alone: what is announced stays, and so do all other tasks,
    the lock, and the line for it. -/
structure Alone (a a' : Announcer) (t : Nat) : Prop where
  current : a'.current = a.current
  tasks : ∀ {t'}, t' ≠ t → a'.tasks.get? t' = a.tasks.get? t'
  holder : a'.holder = a.holder
  line : a'.line.filter (· ≠ t) = a.line.filter (· ≠ t)

/-- Nothing is announced or in progress, and the lock is free. -/
structure Free (a : Announcer) : Prop where
  current : a.current = none
  status : a.status = .unregistered
  holder : a.holder = none

/-- Whether an announce has claimed the announcer. -/
def claimed (a : Announcer) : Bool := a.tasks.bindings.any fun p => p.2.claims

variable {a a' : Announcer} {view : AnnouncerView} {t : Nat} {record : ServiceRecord}
  {stage : AnnounceStage} {signal : AnnouncerSignal} {stepped : Stepped} {x : AnnouncerTask}

theorem announces_of_stepAnnounce (h : a.stepAnnounce view t record stage signal = some stepped) :
    Announces a view t record stage signal stepped := by
  cases stage with
  | claiming =>
    cases signal with
    | registered | withdrawn | expired | stopped => cases h
    | proceed =>
      rw [stepAnnounce] at h
      split at h
      · obtain rfl := Option.some.inj h
        exact .faulty ‹_›
      · rcases guarded_eq_some h with ⟨hm, rfl⟩ | ⟨hm, rfl⟩
        · rw [claim]
          split
          · rename_i hbusy
            rw [Bool.or_eq_true, Option.isSome_iff_ne_none, bne_iff_ne] at hbusy
            exact .late hm hbusy
          · rename_i hfree
            rw [Bool.or_eq_true, not_or, Option.not_isSome_iff_eq_none, bne_iff_ne,
              not_not] at hfree
            exact .claims ‹_› hm hfree.1 hfree.2
        · exact .joins hm
  | subscribing =>
    cases signal with
    | registered | withdrawn | expired | stopped => cases h
    | proceed =>
      obtain rfl := Option.some.inj h
      exact .asks
  | registering seen =>
    cases signal with
    | proceed | withdrawn | expired | stopped => cases h
    | registered result =>
      cases result with
      | ok registration =>
        obtain rfl := Option.some.inj h
        exact .hears
      | error error =>
        obtain rfl := Option.some.inj h
        exact .fails
  | storing seen registration =>
    cases signal with
    | registered | withdrawn | expired | stopped => cases h
    | proceed =>
      rcases guarded_eq_some h with ⟨hm, rfl⟩ | ⟨hm, rfl⟩
      · exact .stores hm
      · exact .joins hm

/-! ## Alone -/

namespace Alone

theorem refl (a : Announcer) (t : Nat) : Alone a a t := ⟨rfl, fun _ => rfl, rfl, rfl⟩

theorem setTask (a : Announcer) (t : Nat) (x : AnnouncerTask) : Alone a (a.setTask t x) t :=
  ⟨rfl, fun hne => Association.get?_put_of_ne _ _ hne, rfl, rfl⟩

theorem endTask (a : Announcer) (t : Nat) : Alone a (a.endTask t) t :=
  ⟨rfl, fun hne => Association.get?_erase_of_ne _ hne, rfl, rfl⟩

theorem leaveLine (a : Announcer) (t : Nat) : Alone a (a.leaveLine t) t :=
  ⟨rfl, fun _ => rfl, rfl, by simp [Announcer.leaveLine]⟩

theorem joinLine (a : Announcer) (t : Nat) : Alone a (a.joinLine t) t :=
  ⟨rfl, fun _ => rfl, rfl, by simp [Announcer.joinLine]⟩

theorem trans {a'' : Announcer} (h : Alone a a' t) (h' : Alone a' a'' t) : Alone a a'' t :=
  ⟨h'.current.trans h.current, fun hne => (h'.tasks hne).trans (h.tasks hne),
    h'.holder.trans h.holder, h'.line.trans h.line⟩

/-- The status is another matter. -/
theorem withStatus (a : Announcer) (t : Nat) (status : AnnouncerStatus) :
    Alone a { a with status } t :=
  ⟨rfl, fun _ => rfl, rfl, rfl⟩

end Alone

/-- An announce concerns nobody else until it is announced. -/
theorem Announces.alone (h : Announces a view t record stage signal stepped) :
    stepped.2 = [.ended t (.announced view.nextId record)] ∨
      Alone a stepped.1 t ∧ ∀ effect ∈ stepped.2, effect.Tries t record := by
  have hnothing : ∀ effect ∈ ([] : List AnnouncerEffect), effect.Tries t record :=
    fun _ hm => absurd hm List.not_mem_nil
  have honly {effect : AnnouncerEffect} (he : effect.Tries t record) :
      ∀ effect' ∈ [effect], effect'.Tries t record :=
    fun _ hm => List.mem_singleton.1 hm ▸ he
  cases h with
  | faulty => exact .inr ⟨.endTask a t, honly .refused⟩
  | joins => exact .inr ⟨.joinLine a t, hnothing⟩
  | late => exact .inr ⟨(Alone.leaveLine a t).trans (.endTask _ t), honly .refused⟩
  | claims =>
    refine .inr ⟨(Alone.leaveLine a t).trans ?_, hnothing⟩
    exact (Alone.withStatus _ t _).trans (.setTask _ t _)
  | asks => exact .inr ⟨.setTask a t _, honly .register⟩
  | hears => exact .inr ⟨.setTask a t _, hnothing⟩
  | fails => exact .inr ⟨(Alone.withStatus a t _).trans (.endTask _ t), honly .refused⟩
  | stores => exact .inl rfl

/-- Nor does an announce that is given up. -/
theorem alone_abort (hx : a.tasks.get? t = some (.announce record stage)) :
    Alone a (a.abort t).1 t ∧ ∀ effect ∈ (a.abort t).2, effect.Tries t record := by
  rw [abort, hx]
  cases stage with
  | claiming =>
    exact ⟨(Alone.leaveLine a t).trans (.endTask _ t), fun _ hm => absurd hm List.not_mem_nil⟩
  | subscribing | registering | storing =>
    refine ⟨(Alone.withStatus a t _).trans ((Alone.leaveLine _ t).trans (.endTask _ t)), ?_⟩
    exact fun _ hm => List.mem_singleton.1 hm ▸ .forgo

/-! ## Claims that are given back -/

/-- With the end of an announce that is not announced, its claim is given back. Without a claim
    the status is as it was. -/
theorem Announces.status (h : Announces a view t record stage signal stepped)
    (hx : a.tasks.get? t = some (.announce record stage))
    (hgone : stepped.1.tasks.get? t = none) :
    stepped.2 = [.ended t (.announced view.nextId record)] ∨
      stepped.1.status =
        if (AnnouncerTask.announce record stage).claims then .unregistered else a.status := by
  cases h with
  | faulty | late | fails => exact .inr rfl
  | joins => cases hx.symm.trans hgone
  | claims | asks | hears => cases (Association.get?_put_self ..).symm.trans hgone
  | stores => exact .inl rfl

theorem status_abort (hx : a.tasks.get? t = some (.announce record stage)) :
    (a.abort t).1.status =
      if (AnnouncerTask.announce record stage).claims then .unregistered else a.status := by
  rw [abort, hx]
  cases stage <;> rfl

theorem claims_eq_false (h : a.claimed = false) (hx : a.tasks.get? t = some x) :
    x.claims = false := by
  rw [claimed, List.any_eq_false] at h
  exact eq_false_of_ne_true (h (t, x) ((Association.mem_bindings_iff _).2 hx))

namespace Free

open Scene

/-- Nobody has claimed the announcer then. -/
theorem unclaimed (h : Free a) (hcoh : Coherent a) (hx : a.tasks.get? t = some x) :
    x.claims = false := by
  cases hclaims : x.claims with
  | false => rfl
  | true => cases h.status.symm.trans (hcoh.claimed hx hclaims).2.1

/-- It stays so whatever happens, unless somebody claims the announcer. -/
theorem step {s s' : Scene} {prompt : Prop} (h : Free s.announcer) (ho : Orderly s)
    (hcoh : Coherent s.announcer) (hclaimed : s'.announcer.claimed = false)
    (hs : s.Step prompt s') : Free s'.announcer := by
  have hunclaimed {t : Nat} {x : AnnouncerTask} (hx : s.announcer.tasks.get? t = some x)
      (hclaims : x.claims = true) : False := by
    cases (h.unclaimed hcoh hx).symm.trans hclaims
  have hunheld {t : Nat} {x : AnnouncerTask} (hx : s.announcer.tasks.get? t = some x)
      (hholds : x.holdsLock = true) : False := by
    cases h.holder.symm.trans ((ho.holder t).2 ⟨x, hx, hholds⟩)
  have hnothing {announcement : Announcement} (hc : s.announcer.current = some announcement) :
      False := by
    cases h.current.symm.trans hc
  cases hs with
  | script | restart | start | join | advance | leave | ask | progress | commit | gain | fail
  | giveBack | delay | unregister => exact ⟨h.current, h.status, h.holder⟩
  | quit _ _ ha => rcases ha with rfl | ⟨-, rfl⟩ <;> exact ⟨h.current, h.status, h.holder⟩
  | refuse hx | store hx => exact (hunclaimed hx rfl).elim
  | abandon _ hx hclaims => exact (hunclaimed hx hclaims).elim
  | claim => cases (claims_eq_false hclaimed (Association.get?_put_self ..)).symm.trans rfl
  | takeLost _ _ hc | take _ _ hc | forget _ hc | drop _ hc | adopt _ hc =>
    exact (hnothing hc).elim
  | released hx => exact (hunheld hx rfl).elim
  | letGo _ hx hholds => exact (hunheld hx hholds).elim

end Free

end Announcer

/-- What is done with a task: it goes on, or is given up. -/
inductive AnnouncerEvent.Moves (t : Nat) : AnnouncerEvent → Prop
  | react {generation now : Nat} {signal : AnnouncerSignal} :
      Moves t (.react t generation now signal)
  | abort : Moves t (.abort t)

namespace Lifetime

open Announcer

/-- What comes of an announcer while nobody claims it. -/
inductive Unclaimed (l : Lifetime) : Lifetime → Prop
  | refl : Unclaimed l l
  | next {l' l'' : Lifetime} {event : AnnouncerEvent} : Unclaimed l l' →
      l'.meet? event = some l'' → l''.announcer.claimed = false → Unclaimed l l''

/-- Whoever enters the lock with a valid record claims the announcer. -/
def Accepts (l : Lifetime) : Prop :=
  ∀ t record generation now, l.announcer.tasks.get? t = some (.announce record .claiming) →
    ValidRecord record → l.announcer.mayEnter t = true →
    ∃ l', l.meet? (.react t generation now .proceed) = some l' ∧
      l'.announcer.tasks.get? t = some (.announce record .subscribing) ∧
      l'.announcer.status = .registering

variable {settings : AnnouncerSettings} {l l' l'' : Lifetime} {event : AnnouncerEvent} {t : Nat}
  {record : ServiceRecord} {stage : AnnounceStage}

theorem accepts_of_free (h : l.announcer.Free) : l.Accepts := by
  intro t record generation now hx hvalid hm
  have hclaim : claim t record (l.announcer.leaveLine t) =
      ({ l.announcer.leaveLine t with status := .registering }.setTask t
        (.announce record .subscribing), []) := by
    refine if_neg ?_
    rw [show (l.announcer.leaveLine t).current = none from h.current,
      show (l.announcer.leaveLine t).status = .unregistered from h.status]
    decide
  have hstep : l.announcer.step? ⟨generation, now, l.nextId⟩ t .proceed =
      some (claim t record (l.announcer.leaveLine t)) := by
    rw [step?, hx]
    simp only [stepAnnounce, recordFault?_eq_none_iff.2 hvalid, guarded, if_pos hm]
  rw [meet?, hstep, hclaim]
  exact ⟨_, rfl, Association.get?_put_self .., rfl⟩

theorem Unclaimed.free (h : Lived settings l) (hfree : l.announcer.Free) (hl : l.Unclaimed l') :
    Lived settings l' ∧ l'.announcer.Free := by
  induction hl with
  | refl => exact ⟨h, hfree⟩
  | @next l' l'' event _ hl hclaimed ih =>
    obtain ⟨hlived, hfree⟩ := ih
    refine ⟨hlived.step hl, ?_⟩
    have hsteady := hlived.steady
    cases Meets.of_meet? hsteady.order hl with
    | step ha ho hs ha' =>
      exact ha' ▸ (ha ▸ hfree).step ho (ha ▸ hsteady.status) (ha' ▸ hclaimed) hs
    | abort hgives => exact hfree.step hsteady.order hsteady.status hclaimed hgives.step
    | elsewhere ha => exact ha ▸ hfree

/-- An announce ends with the announcement or with nothing to show for it. -/
theorem Lived.tries (h : Lived settings l)
    (hx : l.announcer.tasks.get? t = some (.announce record stage)) (hmoves : event.Moves t)
    (hl : l.meet? event = some l') :
    l.does t event = [.ended t (.announced l.nextId record)] ∨
      (l.announcer.Alone l'.announcer t ∧ ∀ effect ∈ l.does t event, effect.Tries t record) ∧
      (l'.announcer.tasks.get? t = none →
        ((AnnouncerTask.announce record stage).claims = true → l'.announcer.Free) ∧
          ((AnnouncerTask.announce record stage).claims = false →
            l'.announcer.status = l.announcer.status)) := by
  have hends (halone : l.announcer.Alone l'.announcer t)
      (hstatus : l'.announcer.status =
        if (AnnouncerTask.announce record stage).claims then .unregistered
        else l.announcer.status) :
      ((AnnouncerTask.announce record stage).claims = true → l'.announcer.Free) ∧
        ((AnnouncerTask.announce record stage).claims = false →
          l'.announcer.status = l.announcer.status) := by
    refine ⟨fun hclaims => ?_, fun hclaims => ?_⟩
    · obtain ⟨hcurrent, -, hholder⟩ := h.steady.status.claimed hx hclaims
      exact ⟨halone.current.trans hcurrent, hstatus.trans (if_pos hclaims),
        halone.holder.trans hholder⟩
    · exact hstatus.trans (if_neg (ne_true_of_eq_false hclaims))
  cases hmoves with
  | @react generation now signal =>
    obtain ⟨⟨a, effects⟩, hstep, rfl⟩ := Option.map_eq_some_iff.1 hl
    rw [does_react hstep]
    rw [step?, hx] at hstep
    have hannounces := announces_of_stepAnnounce hstep
    rcases hannounces.alone with hannounced | ⟨halone, htries⟩
    · exact .inl hannounced
    · refine or_iff_not_imp_left.2 fun hnot => ⟨⟨halone, htries⟩, fun hgone => ?_⟩
      exact hends halone ((hannounces.status hx hgone).resolve_left hnot)
  | abort =>
    obtain rfl := Option.some.inj hl
    have hdoes : l.does t (.abort t) = (l.announcer.abort t).2 := if_pos rfl
    obtain ⟨halone, htries⟩ := alone_abort hx
    exact .inr ⟨⟨halone, hdoes ▸ htries⟩, fun _ => hends halone (status_abort hx)⟩

end Lifetime

end ServiceDiscovery
