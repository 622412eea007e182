import ServiceDiscovery.Proofs.Announcer.Status

/-!
# Supervision

Whatever is announced has a supervisor that was not told to stop
(`Announcer.Tended`). How far this supervisor is agrees with whether there is a
registration behind the announcement (`Announcement.Fits`), and while there is
none it works on the record that is announced. Every step keeps that
(`Announcer.Tended.step`).
-/

namespace ServiceDiscovery

/-- A supervisor at this stage may supervise an announcement. -/
def Announcement.Fits (announcement : Announcement) : SuperviseStage → Prop
  | .watching | .forgetting => announcement.registration ≠ none
  | .calling record _ | .registering record _ | .pausing record _ _ =>
    announcement.registration = none ∧ record = announcement.record
  | .dropping | .adopting _ => announcement.registration = none
  | .returning _ _ => False

namespace Announcer

/-- What is announced has a supervisor. -/
structure Tended (a : Announcer) : Prop where
  supervisor : ∀ {announcement}, a.current = some announcement → ∃ t seen stage,
    a.tasks.get? t = some (.supervise announcement.id seen false stage) ∧ announcement.Fits stage

namespace Tended

variable {a a' : Announcer} {t : Nat} {x : AnnouncerTask} {y : Option AnnouncerTask}

theorem of_none (h : a.current = none) : Tended a where
  supervisor hc := by
    rw [h] at hc
    cases hc

/-- A task goes on: another one than the supervisor, or the supervisor to a stage
    that fits. -/
theorem moved (h : Tended a) (hm : a.Moved a' t x y none) (hc : a'.current = a.current)
    (hself : ∀ {announcement seen stage}, a.current = some announcement →
      x = .supervise announcement.id seen false stage → announcement.Fits stage →
      ∃ seen' stage', y = some (.supervise announcement.id seen' false stage') ∧
        announcement.Fits stage') : Tended a' := by
  refine ⟨?_⟩
  intro announcement hcurrent
  rw [hc] at hcurrent
  obtain ⟨t₀, seen, stage, ht₀, hfits⟩ := h.supervisor hcurrent
  by_cases ht : t₀ = t
  · -- The supervisor itself goes on.
    subst ht
    have hx := hm.was
    rw [ht₀] at hx
    obtain ⟨seen', stage', hy, hfits'⟩ := hself hcurrent (Option.some.inj hx).symm hfits
    exact ⟨t₀, seen', stage', hm.get?_self.trans hy, hfits'⟩
  · refine ⟨t₀, seen, stage, ?_, hfits⟩
    rw [hm.get?_of_ne ht, ht₀, map_told_none]

/-- The supervisor of what is announced goes on with it. -/
theorem replaced {announcement : Announcement} {seen : Nat} {stage : SuperviseStage}
    (hc : a'.current = some announcement)
    (hx : a'.tasks.get? t = some (.supervise announcement.id seen false stage))
    (hfits : announcement.Fits stage) : Tended a' where
  supervisor hc' := by
    rw [hc] at hc'
    obtain rfl := Option.some.inj hc'
    exact ⟨t, seen, stage, hx, hfits⟩

open Scene

/-- A supervisor of what is announced was not told to stop, and its stage fits. -/
theorem fits {s : Scene} (h : Tended s.announcer) (ho : Orderly s) {announcement : Announcement}
    {t id seen : Nat} {cancelled : Bool} {stage : SuperviseStage}
    (hx : s.announcer.tasks.get? t = some (.supervise id seen cancelled stage))
    (hc : s.announcer.current = some announcement) (hid : announcement.id = id) :
    cancelled = false ∧ announcement.Fits stage := by
  obtain ⟨t₀, seen₀, stage₀, hx₀, hfits⟩ := h.supervisor hc
  have ht : t = t₀ := ho.single hx hx₀ rfl (congrArg some hid)
  rw [ht, hx₀] at hx
  cases hx
  exact ⟨rfl, hfits⟩

theorem isCurrent_eq_true {announcement : Announcement} (hc : a.current = some announcement) :
    a.isCurrent announcement.id = true := by
  rw [isCurrent, hc]
  exact decide_eq_true rfl

/-- Every step leaves what is announced with a supervisor. -/
theorem step {s s' : Scene} {prompt : Prop} (h : Tended s.announcer)
    (hcoh : Coherent s.announcer) (ho : Orderly s) (hs : s.Step prompt s') :
    Tended s'.announcer := by
  cases hs with
  | script | restart | progress | commit | delay | unregister => exact h
  | join => exact ⟨h.supervisor⟩
  | start =>
    refine ⟨?_⟩
    intro announcement hc
    obtain ⟨t₀, seen, stage, ht₀, hfits⟩ := h.supervisor hc
    exact ⟨t₀, seen, stage, ho.get?_spawn_of_some ht₀, hfits⟩
  | advance hx ha =>
    cases ha with
    | handed =>
      exact h.moved (.outside hx rfl get?_setTask rfl rfl) rfl fun _ he => by cases he
    | noticed | rested =>
      refine h.moved (.outside hx rfl get?_setTask rfl rfl) rfl fun _ he hfits => ?_
      cases he
      exact ⟨_, _, rfl, hfits⟩
  | @quit t x a hx hq ha =>
    -- A supervisor that quits was told to stop, or its announcement is gone.
    have hself {announcement : Announcement} {seen : Nat} {stage : SuperviseStage}
        (hc : s.announcer.current = some announcement)
        (he : x = .supervise announcement.id seen false stage) : False := by
      cases hq with
      | refused | handed | taking | watching | calling | pausing => cases he
      | forgetting hgone | dropping hgone =>
        cases he
        rw [isCurrent_eq_true hc] at hgone
        cases hgone
    rcases ha with rfl | ⟨hw, rfl⟩
    · exact h.moved (.inside hx get?_endTask rfl rfl) rfl fun hc he => (hself hc he).elim
    · exact h.moved (.outside hx hw get?_endTask rfl rfl) rfl fun hc he => (hself hc he).elim
  | leave hx hl =>
    cases hl with
    | registering =>
      exact h.moved (.outside hx rfl get?_endTask rfl rfl) rfl fun _ he => by cases he
    | returning =>
      refine h.moved (.outside hx rfl get?_endTask rfl rfl) rfl fun _ he hfits => ?_
      cases he
      exact hfits.elim
  | ask hx ha =>
    cases ha with
    | announce =>
      exact h.moved (.outside hx rfl get?_setTask rfl rfl) rfl fun _ he => by cases he
    | supervise =>
      refine h.moved (.outside hx rfl get?_setTask rfl rfl) rfl fun _ he hfits => ?_
      cases he
      exact ⟨_, _, rfl, hfits⟩
  | gain hx _ hg =>
    cases hg with
    | announce =>
      exact h.moved (.outside hx rfl get?_setTask rfl rfl) rfl fun _ he => by cases he
    | supervise =>
      refine h.moved (.outside hx rfl get?_setTask rfl rfl) rfl fun _ he hfits => ?_
      cases he
      exact ⟨_, _, rfl, hfits.1⟩
  | fail hx _ hf =>
    cases hf with
    | collision =>
      refine h.moved (.outside hx rfl get?_setTask rfl rfl) rfl fun _ he hfits => ?_
      cases he
      exact ⟨_, _, rfl, hfits.1⟩
    | again =>
      refine h.moved (.outside hx rfl get?_setTask rfl rfl) rfl fun _ he hfits => ?_
      cases he
      exact ⟨_, _, rfl, hfits⟩
  | refuse hx =>
    exact h.moved (.outside hx rfl get?_endTask rfl rfl) rfl fun _ he => by cases he
  | claim hx =>
    exact h.moved (.inside hx get?_setTask rfl rfl) rfl fun _ he => by cases he
  | giveBack hx hgone =>
    refine h.moved (.inside hx get?_setTask rfl rfl) rfl fun hc he => ?_
    cases he
    rw [isCurrent_eq_true hc] at hgone
    cases hgone
  | released hx =>
    exact h.moved (.outside hx rfl get?_endTask rfl rfl) rfl fun _ he => by cases he
  -- Nothing is announced while a task has claimed the announcer or holds the lock.
  | abandon _ hx hclaims => exact of_none (hcoh.claimed hx hclaims).1
  | @letGo t x _ hx hholds => exact of_none (hcoh.held ((ho.holder t).2 ⟨x, hx, hholds⟩)).1
  | takeLost | take | drop => exact of_none rfl
  | @store t seen record registration hx =>
    -- The new supervisor is not the task that ends.
    have hne : s.announcer.nextTask ≠ t := Nat.ne_of_gt (ho.tasks hx)
    have hnew {a : Announcer} {y : AnnouncerTask} (hnext : a.nextTask = s.announcer.nextTask) :
        ((a.spawn y).1.endTask t).tasks.get? s.announcer.nextTask = some y := by
      rw [endTask, Association.get?_erase, if_neg hne, ← hnext]
      exact a.tasks.get?_put_self ..
    refine replaced rfl (hnew rfl) ?_
    exact Option.some_ne_none registration
  -- The supervisor works on the announcement itself, and was not told to stop.
  | @forget t id seen cancelled announcement backoff hx hc hid =>
    obtain ⟨rfl, -⟩ := h.fits ho hx hc hid
    subst hid
    exact replaced (t := t) rfl (s.announcer.tasks.get?_put_self ..) ⟨rfl, rfl⟩
  | @adopt t id seen cancelled announcement registration hx hc hid =>
    obtain ⟨rfl, -⟩ := h.fits ho hx hc hid
    subst hid
    refine replaced (t := t) rfl (s.announcer.tasks.get?_put_self ..) ?_
    exact Option.some_ne_none registration

end Tended

end Announcer

end ServiceDiscovery
