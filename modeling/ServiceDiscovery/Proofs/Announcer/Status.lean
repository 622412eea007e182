import ServiceDiscovery.Proofs.Announcer.Order

/-!
# What the status of an announcer tells

At most one task has claimed the announcer, and as long as it has, nothing is
announced. Of an announcement that is current, the status tells whether there is
a registration behind it. `Announcer.Coherent` holds in every scene
(`Announcer.Coherent.step`).
-/

namespace ServiceDiscovery

namespace Announcer

/-- The status agrees with what is current and with what the tasks do. -/
structure Coherent (a : Announcer) : Prop where
  claimed : ∀ {t x}, a.tasks.get? t = some x → x.claims = true →
    a.current = none ∧ a.status = .registering ∧ a.holder = none
  alone : ∀ {t t' x x'}, a.tasks.get? t = some x → a.tasks.get? t' = some x' →
    x.claims = true → x'.claims = true → t = t'
  held : ∀ {t}, a.holder = some t → a.current = none ∧ a.status = .withdrawing
  current : ∀ {announcement}, a.current = some announcement → a.holder = none ∧
    a.status = if announcement.registration = none then .registering else .active
  active : a.status = .active → a.current ≠ none

namespace Coherent

variable {a a' : Announcer} {t : Nat} {x : AnnouncerTask} {y : Option AnnouncerTask}
  {stopped : Option Nat}

/-- While something is current, no task has claimed the announcer. -/
theorem not_claims (h : Coherent a) {announcement : Announcement}
    (hc : a.current = some announcement) {t : Nat} {x : AnnouncerTask}
    (hx : a.tasks.get? t = some x) : x.claims = false := by
  cases hclaims : x.claims with
  | false => rfl
  | true =>
    rw [(h.claimed hx hclaims).1] at hc
    cases hc

/-- A task goes on, and nothing else changes. -/
theorem moved (h : Coherent a) (hm : a.Moved a' t x y stopped)
    (hy : ∀ z, y = some z → z.claims = true → x.claims = true) (hc : a'.current = a.current)
    (hs : a'.status = a.status) (hh : a'.holder = a.holder) : Coherent a' := by
  -- Whoever has claimed the announcer had before.
  have hclaims {t' : Nat} {z : AnnouncerTask} (hz : a'.tasks.get? t' = some z)
      (hclaims : z.claims = true) :
      ∃ z₀, a.tasks.get? t' = some z₀ ∧ z₀.claims = true := by
    rcases hm.get?_eq_some hz with ⟨rfl, he⟩ | ⟨-, z₀, hz₀, rfl⟩
    · exact ⟨x, hm.was, hy z he hclaims⟩
    · exact ⟨z₀, hz₀, z₀.claims_told stopped ▸ hclaims⟩
  refine ⟨?_, ?_, ?_, ?_, ?_⟩
  · intro t' z hz hz'
    obtain ⟨z₀, hz₀, hz₀'⟩ := hclaims hz hz'
    rw [hc, hs, hh]
    exact h.claimed hz₀ hz₀'
  · intro t₁ t₂ z₁ z₂ hz₁ hz₂ hc₁ hc₂
    obtain ⟨w₁, hw₁, hw₁'⟩ := hclaims hz₁ hc₁
    obtain ⟨w₂, hw₂, hw₂'⟩ := hclaims hz₂ hc₂
    exact h.alone hw₁ hw₂ hw₁' hw₂'
  · rw [hc, hs, hh]
    exact h.held
  · rw [hc, hs, hh]
    exact h.current
  · rw [hc, hs]
    exact h.active

/-- No task has claimed the announcer, and the lock is free. -/
theorem of_unclaimed (hnone : ∀ {t x}, a'.tasks.get? t = some x → x.claims = false)
    (hh : a'.holder = none)
    (hc : ∀ {announcement}, a'.current = some announcement →
      a'.status = if announcement.registration = none then .registering else .active)
    (hactive : a'.status = .active → a'.current ≠ none) : Coherent a' where
  claimed {t x} hx hclaims := by
    rw [hnone hx] at hclaims
    cases hclaims
  alone {t t' x x'} hx _ hclaims := by
    rw [hnone hx] at hclaims
    cases hclaims
  held {t} ht := by
    rw [hh] at ht
    cases ht
  current {announcement} hcurrent := ⟨hh, hc hcurrent⟩
  active := hactive

/-- The task that claimed the announcer ends, and the claim with it. -/
theorem unclaim (h : Coherent a) (hm : a.Moved a' t x none stopped) (hx : x.claims = true)
    (hc : a'.current = a.current) (hh : a'.holder = a.holder) (hs : a'.status = .unregistered) :
    Coherent a' := by
  obtain ⟨hnone, -, hfree⟩ := h.claimed hm.was hx
  refine of_unclaimed ?_ (hh.trans hfree) ?_ ?_
  · -- Another task that had claimed it would be the one that ends.
    intro t' z hz
    rcases hm.get?_eq_some hz with ⟨-, he⟩ | ⟨hne, z₀, hz₀, rfl⟩
    · cases he
    · rw [z₀.claims_told]
      cases hclaims : z₀.claims with
      | false => rfl
      | true => exact absurd (h.alone hz₀ hm.was hclaims hx) hne
  · intro announcement hsome
    rw [hc, hnone] at hsome
    cases hsome
  · intro he
    rw [hs] at he
    cases he

/-- No task has claimed the announcer, and this does not change when one goes
    on. -/
theorem unclaimed_moved (hnone : ∀ {t x}, a.tasks.get? t = some x → x.claims = false)
    (hm : a.Moved a' t x y stopped) (hy : ∀ z, y = some z → z.claims = false) {t' : Nat}
    {z : AnnouncerTask} (hz : a'.tasks.get? t' = some z) : z.claims = false := by
  rcases hm.get?_eq_some hz with ⟨-, he⟩ | ⟨-, z₀, hz₀, rfl⟩
  · exact hy z he
  · exact (z₀.claims_told stopped).trans (hnone hz₀)

/-- What was announced changes, or is announced no more. -/
theorem replace (h : Coherent a) {announcement : Announcement}
    (hcurrent : a.current = some announcement) (hm : a.Moved a' t x y stopped)
    (hy : ∀ z, y = some z → z.claims = false) (hh : a'.holder = a.holder)
    (hc : ∀ {announcement}, a'.current = some announcement →
      a'.status = if announcement.registration = none then .registering else .active)
    (hactive : a'.status = .active → a'.current ≠ none) : Coherent a' :=
  of_unclaimed (unclaimed_moved (h.not_claims hcurrent) hm hy) (hh.trans (h.current hcurrent).1)
    hc hactive

/-- The lock is given free. -/
theorem release (h : Coherent a) (hholder : a.holder = some t) (hm : a.Moved a' t x none stopped)
    (hc : a'.current = a.current) (hh : a'.holder = none) (hs : a'.status ≠ .active) :
    Coherent a' := by
  have hnone {t' : Nat} {z : AnnouncerTask} (hz : a.tasks.get? t' = some z) :
      z.claims = false := by
    cases hclaims : z.claims with
    | false => rfl
    | true =>
      rw [(h.claimed hz hclaims).2.2] at hholder
      cases hholder
  refine of_unclaimed (unclaimed_moved hnone hm Scene.none_eq_some) hh ?_ fun he => absurd he hs
  intro announcement hsome
  rw [hc, (h.held hholder).1] at hsome
  cases hsome

/-- What was announced is being withdrawn under the lock. -/
theorem withdraw (h : Coherent a) {announcement : Announcement}
    (hcurrent : a.current = some announcement) (hm : a.Moved a' t x y stopped)
    (hy : ∀ z, y = some z → z.claims = false) (hc : a'.current = none)
    (hs : a'.status = .withdrawing) : Coherent a' := by
  have hnone {t' : Nat} {z : AnnouncerTask} (hz : a'.tasks.get? t' = some z) : z.claims = false :=
    unclaimed_moved (h.not_claims hcurrent) hm hy hz
  refine ⟨?_, ?_, fun _ => ⟨hc, hs⟩, ?_, ?_⟩
  · intro t' z hz hclaims
    rw [hnone hz] at hclaims
    cases hclaims
  · intro t' t'' z z' hz _ hclaims
    rw [hnone hz] at hclaims
    cases hclaims
  · intro announcement hsome
    rw [hc] at hsome
    cases hsome
  · intro he
    rw [hs] at he
    cases he

/-- A task claims the announcer, which was unregistered. -/
theorem claim (h : Coherent a) (hstatus : a.status = .unregistered) (hnone : a.current = none)
    (hfree : a.holder = none) (hm : a.Moved a' t x y stopped) (hc : a'.current = a.current)
    (hh : a'.holder = a.holder) (hs : a'.status = .registering) : Coherent a' := by
  -- Had another task claimed the announcer, the status would tell.
  have hself {t' : Nat} {z : AnnouncerTask} (hz : a'.tasks.get? t' = some z)
      (hclaims : z.claims = true) : t' = t := by
    rcases hm.get?_eq_some hz with ⟨rfl, -⟩ | ⟨-, z₀, hz₀, rfl⟩
    · rfl
    · rw [(h.claimed hz₀ (z₀.claims_told stopped ▸ hclaims)).2.1] at hstatus
      cases hstatus
  refine ⟨fun _ _ => ⟨hc.trans hnone, hs, hh.trans hfree⟩,
    fun hz₁ hz₂ hc₁ hc₂ => (hself hz₁ hc₁).trans (hself hz₂ hc₂).symm, ?_, ?_, ?_⟩
  · intro t' he
    rw [hh, hfree] at he
    cases he
  · intro announcement hsome
    rw [hc, hnone] at hsome
    cases hsome
  · intro he
    rw [hs] at he
    cases he

open Scene

/-- Every step keeps the status in agreement. -/
theorem step {s s' : Scene} {prompt : Prop} (h : Coherent s.announcer) (ho : Orderly s)
    (hs : s.Step prompt s') :
    Coherent s'.announcer := by
  cases hs with
  -- The directory works, or a task gets in line.
  | script | restart | progress | commit | delay | unregister => exact h
  | join => exact ⟨h.claimed, h.alone, h.held, h.current, h.active⟩
  | @start x hx =>
    have hclaims {t : Nat} {z : AnnouncerTask}
        (hz : (s.announcer.spawn x).1.tasks.get? t = some z) (hz' : z.claims = true) :
        s.announcer.tasks.get? t = some z := by
      rcases Orderly.get?_spawn hz with ⟨-, rfl⟩ | hz
      · cases hx <;> cases hz'
      · exact hz
    exact ⟨fun hz hz' => h.claimed (hclaims hz hz') hz',
      fun hz₁ hz₂ hc₁ hc₂ => h.alone (hclaims hz₁ hc₁) (hclaims hz₂ hc₂) hc₁ hc₂, h.held,
      h.current, h.active⟩
  -- Tasks go on or end, and neither the status nor the announcement changes.
  | advance hx ha =>
    cases ha with
    | handed | noticed | rested =>
      exact h.moved (.outside hx rfl get?_setTask rfl rfl)
        (fun z he hz => by cases he; cases hz) rfl rfl rfl
  | @quit t x a hx _ ha =>
    rcases ha with rfl | ⟨hw, rfl⟩
    · exact h.moved (.inside hx get?_endTask rfl rfl) none_eq_some rfl rfl rfl
    · exact h.moved (.outside hx hw get?_endTask rfl rfl) none_eq_some rfl rfl rfl
  | leave hx hl =>
    cases hl with
    | registering | returning =>
      exact h.moved (.outside hx rfl get?_endTask rfl rfl) none_eq_some rfl rfl rfl
  | ask hx ha =>
    cases ha with
    | announce | supervise =>
      exact h.moved (.outside hx rfl get?_setTask rfl rfl)
        (fun z he hz => by cases he; exact hz) rfl rfl rfl
  | gain hx _ hg =>
    cases hg with
    | announce | supervise =>
      exact h.moved (.outside hx rfl get?_setTask rfl rfl)
        (fun z he hz => by cases he; exact hz) rfl rfl rfl
  | fail hx _ hf =>
    cases hf with
    | collision | again =>
      exact h.moved (.outside hx rfl get?_setTask rfl rfl)
        (fun z he hz => by cases he; exact hz) rfl rfl rfl
  | giveBack hx =>
    exact h.moved (.inside hx get?_setTask rfl rfl) (fun z he hz => by cases he; cases hz)
      rfl rfl rfl
  -- A claim is given back.
  | refuse hx => exact h.unclaim (.outside hx rfl get?_endTask rfl rfl) rfl rfl rfl rfl
  | abandon _ hx hclaims =>
    exact h.unclaim (.inside hx get?_endTask rfl rfl) hclaims rfl rfl rfl
  -- The announcement changes.
  | takeLost hx _ hc =>
    exact h.replace hc (.inside hx (get?_stopSupervisor_endTask (a := s.announcer) _) rfl rfl)
      none_eq_some rfl (fun he => by cases he) fun he => by cases he
  | forget hx hc =>
    exact h.replace hc (.inside hx get?_setTask rfl rfl) (fun z he => by cases he; rfl) rfl
      (fun he => by cases he; rfl) fun he => by cases he
  | drop hx hc =>
    exact h.replace hc (.inside hx (get?_stopSupervisor_endTask (a := s.announcer) _) rfl rfl)
      none_eq_some rfl (fun he => by cases he) fun he => by cases he
  | adopt hx hc =>
    exact h.replace hc (.inside hx get?_setTask rfl rfl) (fun z he => by cases he; rfl) rfl
      (fun he => by cases he; rfl) fun _ he => by cases he
  -- The lock changes hands, or the announcer is claimed.
  | released hx =>
    exact h.release ((ho.holder _).2 ⟨_, hx, rfl⟩) (.outside hx rfl get?_endTask rfl rfl) rfl rfl
      fun he => by cases he
  | @letGo t x _ hx hholds =>
    have hheld := (ho.holder t).2 ⟨x, hx, hholds⟩
    have hwaits := AnnouncerTask.awaitsLock_of_holdsLock hholds
    refine h.release hheld (.outside hx hwaits get?_endTask rfl rfl) rfl rfl fun he => ?_
    have hactive : s.announcer.status = .active := he
    cases (h.held hheld).2.symm.trans hactive
  | claim hx _ hfree hnone hstatus =>
    exact h.claim hstatus hnone hfree (.inside hx get?_setTask rfl rfl) rfl rfl rfl
  | take hx _ hc =>
    exact h.withdraw hc (.inside hx (get?_stopSupervisor_setTask (a := s.announcer) _) rfl rfl)
      (fun z he => by cases he; rfl) rfl rfl
  | @store t seen record registration hx hfree =>
    -- The task that had claimed the announcer was the one that stored.
    refine .of_unclaimed ?_ hfree (fun he => by cases he; rfl) fun _ he => by cases he
    intro t' z hz
    rw [endTask, Association.get?_erase] at hz
    split at hz
    · cases hz
    · rename_i hne
      rcases Orderly.get?_spawn hz with ⟨-, rfl⟩ | hz
      · rfl
      · cases hclaims : z.claims with
        | false => rfl
        | true => exact absurd (h.alone hz hx hclaims rfl) hne

end Coherent

end Announcer

end ServiceDiscovery
