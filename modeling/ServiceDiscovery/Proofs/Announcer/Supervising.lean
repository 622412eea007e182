import ServiceDiscovery.Proofs.Announcer.Scene

/-!
# The steps of a supervisor

What a step of a supervisor leads to, once and for all (`Announcer.Supervises`). Outside
the lock a supervisor goes on with nothing in hand, or ends; what it does about the
current announcement it does in the lock, where it forgets, drops or adopts.
-/

namespace ServiceDiscovery

namespace Announcer

/-- What a step of a supervisor leads to. -/
inductive Supervises (a : Announcer) (view : AnnouncerView) (t id seen : Nat) (cancelled : Bool) :
    SuperviseStage → AnnouncerSignal → Stepped → Prop
  /-- Another generation of the directory is noticed. -/
  | noticed : view.generation ≠ seen →
      Supervises a view t id seen cancelled .watching .proceed
        (a.setTask t (.supervise id view.generation cancelled .forgetting), [])
  /-- It goes on, and may have the directory register its record. -/
  | goes {stage next : SuperviseStage} {signal : AnnouncerSignal}
      {effects : List AnnouncerEffect} :
      (AnnouncerTask.supervise id seen cancelled stage).awaitsLock = false →
      (∀ registration, signal ≠ .registered (.ok registration)) →
      (AnnouncerTask.supervise id seen cancelled next).inHand? = none → next ≠ .forgetting →
      effects = [] ∨ (∃ record, effects = [.register t record]) →
      Supervises a view t id seen cancelled stage signal
        (a.setTask t (.supervise id seen cancelled next), effects)
  | registered {record : ServiceRecord} {backoff : Backoff} {registration : Registration} :
      Supervises a view t id seen cancelled (.registering record backoff)
        (.registered (.ok registration))
        (a.setTask t (.supervise id seen cancelled (.adopting registration)), [])
  /-- It ends, and may forgo a request that is under way. -/
  | ends {stage : SuperviseStage} {signal : AnnouncerSignal} {effects : List AnnouncerEffect} :
      (AnnouncerTask.supervise id seen cancelled stage).awaitsLock = false →
      (∀ registration, signal ≠ .registered (.ok registration)) →
      effects = [.ended t .unattended] ∨ effects = [.forgo t, .ended t .unattended] →
      Supervises a view t id seen cancelled stage signal (a.endTask t, effects)
  | forgets {stepped : Stepped} : a.guarded t (forget t id seen cancelled) = some stepped →
      Supervises a view t id seen cancelled .forgetting .proceed stepped
  | drops {stepped : Stepped} : a.guarded t (drop t id) = some stepped →
      Supervises a view t id seen cancelled .dropping .proceed stepped
  | adopts {registration : Registration} {stepped : Stepped} :
      a.guarded t (adopt view t id seen cancelled registration) = some stepped →
      Supervises a view t id seen cancelled (.adopting registration) .proceed stepped

variable {a : Announcer} {view : AnnouncerView} {t id seen : Nat} {cancelled : Bool}
  {stage : SuperviseStage} {signal : AnnouncerSignal} {stepped : Stepped}

theorem supervises_of_stepSupervise
    (h : a.stepSupervise view t id seen cancelled stage signal = some stepped) :
    Supervises a view t id seen cancelled stage signal stepped := by
  cases stage with
  | watching =>
    cases signal with
    | registered | withdrawn | expired => cases h
    | proceed =>
      obtain ⟨hnew, hstepped⟩ := Option.ite_none_left_eq_some.1 h
      obtain rfl := Option.some.inj hstepped
      exact .noticed hnew
    | stopped =>
      obtain ⟨-, hstepped⟩ := Option.ite_none_right_eq_some.1 h
      obtain rfl := Option.some.inj hstepped
      exact .ends rfl (by simp) (.inl rfl)
  | forgetting =>
    cases signal with
    | registered | withdrawn | expired | stopped => cases h
    | proceed => exact .forgets h
  | calling record backoff =>
    cases signal with
    | registered | withdrawn | expired => cases h
    | proceed =>
      obtain rfl := Option.some.inj h
      exact .goes rfl (by simp) rfl (by simp) (.inr ⟨record, rfl⟩)
    | stopped =>
      obtain ⟨-, hstepped⟩ := Option.ite_none_right_eq_some.1 h
      obtain rfl := Option.some.inj hstepped
      exact .ends rfl (by simp) (.inl rfl)
  | registering record backoff =>
    cases signal with
    | proceed | withdrawn | expired => cases h
    | registered result =>
      cases result with
      | ok registration =>
        obtain rfl := Option.some.inj h
        exact .registered
      | error error =>
        cases error with
        | collision =>
          obtain rfl := Option.some.inj h
          exact .goes rfl (by simp) rfl (by simp) (.inl rfl)
        | _ =>
          obtain rfl := Option.some.inj h
          exact .goes rfl (by simp) rfl (by simp) (.inl rfl)
    | stopped =>
      obtain ⟨-, hstepped⟩ := Option.ite_none_right_eq_some.1 h
      obtain rfl := Option.some.inj hstepped
      exact .ends rfl (by simp) (.inr rfl)
  | pausing record backoff moment =>
    cases signal with
    | proceed | registered | withdrawn => cases h
    | expired =>
      obtain ⟨-, hstepped⟩ := Option.ite_none_right_eq_some.1 h
      obtain rfl := Option.some.inj hstepped
      exact .goes rfl (by simp) rfl (by simp) (.inl rfl)
    | stopped =>
      obtain ⟨-, hstepped⟩ := Option.ite_none_right_eq_some.1 h
      obtain rfl := Option.some.inj hstepped
      exact .ends rfl (by simp) (.inl rfl)
  | dropping =>
    cases signal with
    | registered | withdrawn | expired | stopped => cases h
    | proceed => exact .drops h
  | adopting registration =>
    cases signal with
    | registered | withdrawn | expired | stopped => cases h
    | proceed => exact .adopts h
  | returning registration deadline =>
    cases signal with
    | proceed | registered | stopped => cases h
    | withdrawn =>
      obtain rfl := Option.some.inj h
      exact .ends rfl (by simp) (.inr rfl)
    | expired =>
      obtain ⟨-, hstepped⟩ := Option.ite_none_right_eq_some.1 h
      obtain rfl := Option.some.inj hstepped
      exact .ends rfl (by simp) (.inr rfl)

end Announcer

end ServiceDiscovery
