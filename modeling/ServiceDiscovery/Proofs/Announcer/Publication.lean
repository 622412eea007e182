import ServiceDiscovery.Proofs.Announcer.Supervision

/-!
# What an announcer publishes

The status of an announcer goes through few changes (`AnnouncerStatus.Becomes`),
whichever step is taken (`Scene.Step.status`). Two of the statuses are to pass:

* while an announcer is registering, a task has claimed it, or there is an
  announcement to be registered again (`Announcer.Explained`);
* while it is withdrawing, a release holds the lock. Where none does, the
  announcer is `Announcer.Stranded`: no step leads out of that, and only a release
  that is given up leads there (`Announcer.Stranded.step`,
  `Announcer.Stranded.of_step`).
-/

namespace ServiceDiscovery

/-- The changes that the status of an announcer goes through. -/
inductive AnnouncerStatus.Becomes : AnnouncerStatus → AnnouncerStatus → Prop
  | claimed : Becomes .unregistered .registering
  | registered : Becomes .registering .active
  | failed : Becomes .registering .unregistered
  | lost : Becomes .active .registering
  | released : Becomes .active .withdrawing
  | releasedLost : Becomes .registering .withdrawing
  | withdrawn : Becomes .withdrawing .unregistered

open Scene Announcer

section

variable {a : Announcer} {announcement : Announcement}

/-- What is announced and was lost is being registered. -/
theorem Announcer.Coherent.status_of_lost (h : a.Coherent)
    (hc : a.current = some announcement) (hlost : announcement.registration = none) :
    a.status = .registering := by
  rw [(h.current hc).2, if_pos hlost]

/-- What is announced and was not lost is active. -/
theorem Announcer.Coherent.status_of_registered (h : a.Coherent)
    (hc : a.current = some announcement) (hregistered : announcement.registration ≠ none) :
    a.status = .active := by
  rw [(h.current hc).2, if_neg hregistered]

end

variable {s s' : Scene} {prompt : Prop}

/-- Whatever happens, the status stays or goes through one of its changes. -/
theorem Scene.Step.status (hs : s.Step prompt s') (hcoh : s.announcer.Coherent)
    (htended : s.announcer.Tended) (ho : Orderly s) :
    s'.announcer.status = s.announcer.status ∨
      s.announcer.status.Becomes s'.announcer.status := by
  cases hs with
  | script | restart | start | join | advance | leave | ask | progress | commit | gain | fail
  | giveBack | delay | unregister | letGo =>
    exact .inl rfl
  | quit _ _ ha =>
    rcases ha with rfl | ⟨-, rfl⟩ <;> exact .inl rfl
  -- The announcer is claimed, or a claim comes to its end.
  | claim _ _ _ _ hstatus =>
    rw [hstatus]
    exact .inr .claimed
  | store hx =>
    rw [(hcoh.claimed hx rfl).2.1]
    exact .inr .registered
  | refuse hx =>
    rw [(hcoh.claimed hx rfl).2.1]
    exact .inr .failed
  | abandon _ hx hclaims =>
    rw [(hcoh.claimed hx hclaims).2.1]
    exact .inr .failed
  -- Whether the announcement is registered tells the status before.
  | takeLost _ _ hc hlost =>
    rw [hcoh.status_of_lost hc hlost]
    exact .inr .failed
  | take _ _ hc hregistration =>
    rw [hcoh.status_of_registered hc (hregistration ▸ Option.some_ne_none _)]
    exact .inr .released
  | released hx =>
    rw [(hcoh.held ((ho.holder _).2 ⟨_, hx, rfl⟩)).2]
    exact .inr .withdrawn
  | forget hx hc hid =>
    rw [hcoh.status_of_registered hc (htended.fits ho hx hc hid).2]
    exact .inr .lost
  | drop hx hc hid =>
    rw [hcoh.status_of_lost hc (htended.fits ho hx hc hid).2]
    exact .inr .failed
  | adopt hx hc hid =>
    rw [hcoh.status_of_lost hc (htended.fits ho hx hc hid).2]
    exact .inr .registered

namespace Announcer

/-! ## Registering -/

/-- There is a reason for an announcer to be registering. -/
structure Explained (a : Announcer) : Prop where
  registering : a.status = .registering →
    a.current ≠ none ∨ ∃ t x, a.tasks.get? t = some x ∧ x.claims = true

namespace Explained

variable {a a' : Announcer}

theorem of_status (h : a.status ≠ .registering) : Explained a := ⟨fun he => absurd he h⟩

/-- A task goes on, and keeps its claim if it has one. -/
theorem moved {t : Nat} {x : AnnouncerTask} {y : Option AnnouncerTask} {stopped : Option Nat}
    (h : Explained a) (hm : a.Moved a' t x y stopped)
    (hy : x.claims = true → ∃ z, y = some z ∧ z.claims = true) (hc : a'.current = a.current)
    (hs : a'.status = a.status) : Explained a' := by
  refine ⟨fun hregistering => ?_⟩
  rw [hs] at hregistering
  rw [hc]
  refine (h.registering hregistering).imp id ?_
  rintro ⟨t', z, hz, hclaims⟩
  by_cases ht : t' = t
  · subst ht
    rw [hm.was] at hz
    obtain rfl := Option.some.inj hz
    obtain ⟨z', rfl, hclaims'⟩ := hy hclaims
    exact ⟨t', z', hm.get?_self, hclaims'⟩
  · refine ⟨t', z.told stopped, ?_, (z.claims_told stopped).trans hclaims⟩
    rw [hm.get?_of_ne ht, hz]
    rfl

/-- A task that never had a claim goes on. -/
theorem unclaimed {t : Nat} {x : AnnouncerTask} {y : Option AnnouncerTask} {stopped : Option Nat}
    (h : Explained a) (hm : a.Moved a' t x y stopped) (hx : x.claims = false)
    (hc : a'.current = a.current) (hs : a'.status = a.status) : Explained a' :=
  h.moved hm (fun he => by rw [hx] at he; cases he) hc hs

/-- Every step leaves a reason. -/
theorem step (h : Explained s.announcer) (ho : Orderly s) (hs : s.Step prompt s') :
    Explained s'.announcer := by
  cases hs with
  | script | restart | progress | commit | delay | unregister | join => exact ⟨h.registering⟩
  | start =>
    refine ⟨fun hregistering => (h.registering hregistering).imp id ?_⟩
    rintro ⟨t, x, hx, hclaims⟩
    exact ⟨t, x, ho.get?_spawn_of_some hx, hclaims⟩
  | advance hx ha =>
    cases ha with
    | handed | noticed | rested =>
      exact h.unclaimed (.outside hx rfl get?_setTask rfl rfl) rfl rfl rfl
  | @quit t x a hx hq ha =>
    have hclaims : x.claims = false := by cases hq <;> rfl
    rcases ha with rfl | ⟨hw, rfl⟩
    · exact h.unclaimed (.inside hx get?_endTask rfl rfl) hclaims rfl rfl
    · exact h.unclaimed (.outside hx hw get?_endTask rfl rfl) hclaims rfl rfl
  | leave hx hl =>
    cases hl with
    | registering | returning =>
      exact h.unclaimed (.outside hx rfl get?_endTask rfl rfl) rfl rfl rfl
  | ask hx ha =>
    cases ha with
    | announce =>
      exact h.moved (.outside hx rfl get?_setTask rfl rfl) (fun _ => ⟨_, rfl, rfl⟩) rfl rfl
    | supervise => exact h.unclaimed (.outside hx rfl get?_setTask rfl rfl) rfl rfl rfl
  | gain hx _ hg =>
    cases hg with
    | announce =>
      exact h.moved (.outside hx rfl get?_setTask rfl rfl) (fun _ => ⟨_, rfl, rfl⟩) rfl rfl
    | supervise => exact h.unclaimed (.outside hx rfl get?_setTask rfl rfl) rfl rfl rfl
  | fail hx _ hf =>
    cases hf with
    | collision | again => exact h.unclaimed (.outside hx rfl get?_setTask rfl rfl) rfl rfl rfl
  | giveBack hx => exact h.unclaimed (.inside hx get?_setTask rfl rfl) rfl rfl rfl
  | @letGo t x _ hx hholds =>
    have hclaims : x.claims = false := by
      cases x with
      | release => rfl
      | announce | supervise => cases hholds
    exact h.unclaimed (.outside hx (AnnouncerTask.awaitsLock_of_holdsLock hholds) get?_endTask
      rfl rfl) hclaims rfl rfl
  | refuse | abandon | store | takeLost | take | released | drop | adopt =>
    exact of_status fun he => by cases he
  | @claim t => exact ⟨fun _ => .inr ⟨t, _, s.announcer.tasks.get?_put_self .., rfl⟩⟩
  | forget => exact ⟨fun _ => .inl (Option.some_ne_none _)⟩

end Explained

/-! ## Withdrawing -/

/-- The announcer is withdrawing, and nobody withdraws anything. -/
structure Stranded (a : Announcer) : Prop where
  status : a.status = .withdrawing
  holder : a.holder = none

namespace Stranded

/-- No step leads out. -/
theorem step (h : Stranded s.announcer) (hcoh : s.announcer.Coherent) (ho : Orderly s)
    (hs : s.Step prompt s') : Stranded s'.announcer := by
  have hcurrent {announcement : Announcement} (hc : s.announcer.current = some announcement) :
      False := by
    by_cases hlost : announcement.registration = none
    · cases h.status.symm.trans (hcoh.status_of_lost hc hlost)
    · cases h.status.symm.trans (hcoh.status_of_registered hc hlost)
  have hclaims {t : Nat} {x : AnnouncerTask} (hx : s.announcer.tasks.get? t = some x)
      (hclaims : x.claims = true) : False := by
    cases h.status.symm.trans (hcoh.claimed hx hclaims).2.1
  have hholds {t : Nat} {x : AnnouncerTask} (hx : s.announcer.tasks.get? t = some x)
      (hholds : x.holdsLock = true) : False := by
    cases h.holder.symm.trans ((ho.holder t).2 ⟨x, hx, hholds⟩)
  cases hs with
  | script | restart | start | join | advance | leave | ask | progress | commit | gain | fail
  | giveBack | delay | unregister =>
    exact ⟨h.status, h.holder⟩
  | quit _ _ ha =>
    rcases ha with rfl | ⟨-, rfl⟩ <;> exact ⟨h.status, h.holder⟩
  | claim _ _ _ _ hstatus => cases h.status.symm.trans hstatus
  | refuse hx => exact (hclaims hx rfl).elim
  | store hx => exact (hclaims hx rfl).elim
  | abandon _ hx hx' => exact (hclaims hx hx').elim
  | takeLost _ _ hc => exact (hcurrent hc).elim
  | take _ _ hc => exact (hcurrent hc).elim
  | forget _ hc => exact (hcurrent hc).elim
  | drop _ hc => exact (hcurrent hc).elim
  | adopt _ hc => exact (hcurrent hc).elim
  | released hx => exact (hholds hx rfl).elim
  | letGo _ hx hx' => exact (hholds hx hx').elim

/-- Nothing leads there but a task that is given up. -/
theorem of_step (h : Stranded s'.announcer) (hprompt : prompt) (hs : s.Step prompt s') :
    Stranded s.announcer := by
  cases hs with
  | script | restart | start | join | advance | leave | ask | progress | commit | gain | fail
  | giveBack | delay | unregister =>
    exact ⟨h.status, h.holder⟩
  | quit _ _ ha =>
    rcases ha with rfl | ⟨-, rfl⟩ <;> exact ⟨h.status, h.holder⟩
  | claim | refuse | store | takeLost | forget | drop | adopt | released => cases h.status
  | take => cases h.holder
  | abandon hnot | letGo hnot => exact absurd hprompt hnot

end Stranded

end Announcer

end ServiceDiscovery
