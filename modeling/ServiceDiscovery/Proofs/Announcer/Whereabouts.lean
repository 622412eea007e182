import ServiceDiscovery.Proofs.Announcer.Late

/-!
# The whereabouts of registrations

A registration that is kept somewhere came from a certain place: an answer goes
into the hand of the task that asked, from there behind the announcement, and from
either of these into a request to withdraw it. And it is lost in two ways only:
forgotten by the supervisor of its announcement (`Scene.Forgets`), or together with
a task that ends (`Scene.Whereabouts.fate`).

`Scene.Whereabouts` says so of two scenes, one of which comes from the other by a
step, prompt or not (`Scene.Step.whereabouts`).
-/

namespace ServiceDiscovery

namespace Scene

/-- What is announced stays so while its registration is forgotten. -/
def Forgets (s s' : Scene) (id : Nat) : Prop :=
  ∃ announcement announcement' registration, s.announcer.current = some announcement ∧
    announcement.registration = some registration ∧ registration.id = id ∧
    s'.announcer.current = some announcement' ∧ announcement'.id = announcement.id ∧
    announcement'.registration = none

/-- Where the registrations are that were kept before, and where those that are
    kept come from. -/
structure Whereabouts (s s' : Scene) : Prop where
  supervises : ∀ {t x z}, s.announcer.tasks.get? t = some x → s'.announcer.tasks.get? t = some z →
    z.supervises? = x.supervises?
  answer : ∀ {t id}, s'.keeps? (.answer t) = some id →
    s.keeps? (.answer t) = some id ∨ s.registry.lastId < id
  hand : ∀ {t id}, s'.keeps? (.hand t) = some id →
    s.keeps? (.hand t) = some id ∨ s.keeps? (.answer t) = some id
  /-- The supervisor of an announcement attaches a registration to it, or an announce
      that supervises none. -/
  announcement : ∀ {a' r}, s'.announcer.current = some a' → a'.registration = some r →
    (∃ a, s.announcer.current = some a ∧ a.id = a'.id ∧ a.registration = some r) ∨
    ∃ t x, s.announcer.tasks.get? t = some x ∧ x.inHand? = some r ∧
      ∀ i, x.supervises? = some i → i = a'.id
  withdrawal : ∀ {t id}, s'.keeps? (.withdrawal t) = some id →
    s.keeps? (.withdrawal t) = some id ∨ s.keeps? (.hand t) = some id ∨
    s.keeps? .announcement = some id ∧ s'.announcer.current = none
  fate : ∀ {k id}, s.keeps? k = some id → (∃ k', s'.keeps? k' = some id) ∨
    s'.registry.registrations.get? id = none ∨ s.Forgets s' id ∨
    ∃ t x, s.announcer.tasks.get? t = some x ∧ s'.announcer.tasks.get? t = none ∧
      (k = .answer t ∨ k = .withdrawal t ∨ k = .hand t ∧ x.supervises? = none)
  held : ∀ {id}, s'.registry.registrations.get? id ≠ none →
    s.registry.registrations.get? id ≠ none ∨ s.registry.lastId < id
  /-- What is held stays so until it is withdrawn or the directory restarts. -/
  stands : ∀ {id}, s.registry.registrations.get? id ≠ none →
    (∀ t, s.keeps? (.withdrawal t) ≠ some id) →
    s'.registry.registrations.get? id ≠ none ∨ s'.registry.generation ≠ s.registry.generation
  generation : ∀ {id}, s'.registry.registrations.get? id ≠ none →
    s'.registry.generation = s.registry.generation
  lastId : s.registry.lastId ≤ s'.registry.lastId

/-- How a registration goes from one place to another. -/
inductive Passes (s' : Scene) : Keeper → Keeper → Prop
  | heard {t : Nat} : Passes s' (.answer t) (.hand t)
  | attached {t : Nat} : Passes s' (.hand t) .announcement
  | returned {t : Nat} : Passes s' (.hand t) (.withdrawal t)
  | taken {t : Nat} : s'.announcer.current = none → Passes s' .announcement (.withdrawal t)

open Announcer AnnouncerTask

variable {s s' : Scene} {prompt : Prop}

theorem keeps?_announcement {a : Announcement} {r : Registration}
    (hc : s.announcer.current = some a) (hr : a.registration = some r) :
    s.keeps? .announcement = some r.id := by
  rw [keeps?, registration?_of_current hc, hr]
  rfl

theorem keeps?_hand {t : Nat} {x : AnnouncerTask} {r : Registration}
    (hx : s.announcer.tasks.get? t = some x) (hr : x.inHand? = some r) :
    s.keeps? (.hand t) = some r.id := by
  rw [keeps?, inHand?_of_get? hx, hr]
  rfl

/-- What is kept was kept before, or is new. -/
theorem Whereabouts.source (h : Whereabouts s s') {k : Keeper} {id : Nat}
    (hk : s'.keeps? k = some id) : (∃ k₀, s.keeps? k₀ = some id) ∨ s.registry.lastId < id := by
  cases k with
  | announcement =>
    obtain ⟨r, hr, rfl⟩ := Option.map_eq_some_iff.1 hk
    obtain ⟨a', hc', hr'⟩ := Option.bind_eq_some_iff.1 hr
    rcases h.announcement hc' hr' with ⟨a, hc, -, hra⟩ | ⟨t, x, hx, hhand, -⟩
    · exact .inl ⟨_, keeps?_announcement hc hra⟩
    · exact .inl ⟨_, keeps?_hand hx hhand⟩
  | hand t => exact .inl ((h.hand hk).elim (fun he => ⟨_, he⟩) fun he => ⟨_, he⟩)
  | answer t => exact (h.answer hk).imp_left fun he => ⟨_, he⟩
  | withdrawal t =>
    rcases h.withdrawal hk with he | he | ⟨he, -⟩ <;> exact .inl ⟨_, he⟩

/-- What was kept in one place before is kept there after, or in a place to which it
    goes from there. -/
theorem Whereabouts.passes (h : Whereabouts s s') (howned : Owned s) {k k' : Keeper} {id : Nat}
    (hk : s.keeps? k = some id) (hk' : s'.keeps? k' = some id) : k' = k ∨ s'.Passes k k' := by
  cases k' with
  | announcement =>
    obtain ⟨r, hr, rfl⟩ := Option.map_eq_some_iff.1 hk'
    obtain ⟨a', hc', hr'⟩ := Option.bind_eq_some_iff.1 hr
    rcases h.announcement hc' hr' with ⟨a, hc, -, hra⟩ | ⟨t, x, hx, hhand, -⟩
    · exact .inl (howned.single (keeps?_announcement hc hra) hk)
    · obtain rfl := howned.single (keeps?_hand hx hhand) hk
      exact .inr .attached
  | hand t =>
    rcases h.hand hk' with he | he
    · exact .inl (howned.single he hk)
    · obtain rfl := howned.single he hk
      exact .inr .heard
  | answer t =>
    rcases h.answer hk' with he | hnew
    · exact .inl (howned.single he hk)
    · exact absurd (howned.old hk) (Nat.not_le_of_lt hnew)
  | withdrawal t =>
    rcases h.withdrawal hk' with he | he | ⟨he, hnone⟩
    · exact .inl (howned.single he hk)
    · obtain rfl := howned.single he hk
      exact .inr .returned
    · obtain rfl := howned.single he hk
      exact .inr (.taken hnone)

/-! ## Where they come from -/

/-- A task goes on supervising what it did. -/
theorem Step.supervises (hs : s.Step prompt s') (ho : Orderly s) {t : Nat} {x z : AnnouncerTask}
    (hx : s.announcer.tasks.get? t = some x) (hz : s'.announcer.tasks.get? t = some z) :
    z.supervises? = x.supervises? := by
  have hsame (h : s.announcer.tasks.get? t = some z) : z.supervises? = x.supervises? := by
    rw [Option.some.inj (h.symm.trans hx)]
  cases hs.shape with
  | still ha => exact hsame (ha ▸ hz)
  | join _ _ he =>
    subst he
    exact hsame hz
  | start _ he =>
    subst he
    exact hsame ((ho.get?_spawn_of_some hx).symm.trans hz ▸ hx)
  | moved hm hcontinues =>
    rcases hm.get?_eq_some hz with ⟨rfl, he⟩ | ⟨-, z₀, hz₀, rfl⟩
    · rw [Option.some.inj (hx.symm.trans hm.was)]
      exact (hcontinues z he).supervises
    · rw [supervises?_told, Option.some.inj (hx.symm.trans hz₀)]
  | stored _ htasks =>
    rw [htasks] at hz
    split at hz
    · cases hz
    · split at hz
      · rename_i ht
        rw [ht, ho.next] at hx
        cases hx
      · exact hsame hz

theorem Hands.before (h : Hands prompt s s') {k : Keeper} {id : Nat}
    (hid : s'.keeps? k = some id) : s.keeps? k = some id ∨ s.keeps? k = none := by
  cases h with
  | stay _ hk =>
    rcases hk k with he | ⟨he, -⟩ <;> rw [he] at hid
    · exact .inl hid
    · cases hid
  | passed src dst _ hnone hk =>
    rcases passed_source hk hid with ⟨rfl, -⟩ | ⟨-, hid⟩
    · exact .inr hnone
    · exact .inl hid
  | fresh dst _ hnone hk =>
    rcases fresh_source hk hid with ⟨rfl, -⟩ | hid
    · exact .inr hnone
    · exact .inl hid

/-- What a task has in hand it had before, or it has just got the answer. -/
theorem Step.hand (hs : s.Step prompt s') (ho : Orderly s) {t id : Nat}
    (hid : s'.keeps? (.hand t) = some id) :
    s.keeps? (.hand t) = some id ∨ s.keeps? (.answer t) = some id := by
  have hmoved {t' : Nat} {x : AnnouncerTask} {y : Option AnnouncerTask} {stopped : Option Nat}
      (hm : s.announcer.Moved s'.announcer t' x y stopped)
      (hy : y.bind AnnouncerTask.inHand? = none) :
      s.keeps? (.hand t) = some id ∨ s.keeps? (.answer t) = some id := by
    rw [keeps?, inHand?_gone hm hy] at hid
    split at hid
    · cases hid
    · exact .inl hid
  have hgained {t' due : Nat} {x y : AnnouncerTask} {registration : Registration}
      (hm : s.announcer.Moved s'.announcer t' x (some y) none)
      (hcall : s.registers t' = some (.answered (.ok registration) due))
      (hy : y.inHand? = some registration) :
      s.keeps? (.hand t) = some id ∨ s.keeps? (.answer t) = some id := by
    rw [keeps?, inHand?_of_moved hm, Option.bind_some, hy] at hid
    split at hid
    · rename_i ht
      rw [ht, keeps?, keeps?, hcall]
      exact .inr hid
    · exact .inl hid
  cases hs with
  | script | restart | join | progress | commit | delay | unregister => exact .inl hid
  | start hx =>
    rw [keeps?, inHand?, inHand?_spawn ho (by cases hx <;> rfl)] at hid
    exact .inl hid
  | advance hx ha =>
    cases ha with
    | handed | noticed | rested => exact hmoved (.outside hx rfl get?_setTask rfl rfl) rfl
  | quit hx _ ha =>
    rcases ha with rfl | ⟨hw, rfl⟩
    · exact hmoved (.inside hx get?_endTask rfl rfl) rfl
    · exact hmoved (.outside hx hw get?_endTask rfl rfl) rfl
  | leave hx hl =>
    cases hl with
    | registering | returning => exact hmoved (.outside hx rfl get?_endTask rfl rfl) rfl
  | ask hx ha =>
    cases ha with
    | announce | supervise => exact hmoved (.outside hx rfl get?_setTask rfl rfl) rfl
  | fail hx _ hf =>
    cases hf with
    | collision | again => exact hmoved (.outside hx rfl get?_setTask rfl rfl) rfl
  | refuse hx | released hx => exact hmoved (.outside hx rfl get?_endTask rfl rfl) rfl
  | claim hx | giveBack hx | adopt hx | forget hx =>
    exact hmoved (.inside hx get?_setTask rfl rfl) rfl
  | takeLost hx | drop hx =>
    exact hmoved (.inside hx (get?_stopSupervisor_endTask (a := s.announcer) _) rfl rfl) rfl
  | take hx =>
    exact hmoved (.inside hx (get?_stopSupervisor_setTask (a := s.announcer) _) rfl rfl) rfl
  | abandon _ hx => exact hmoved (.inside hx get?_endTask rfl rfl) rfl
  | letGo _ hx hholds =>
    exact hmoved (.outside hx (awaitsLock_of_holdsLock hholds) get?_endTask rfl rfl) rfl
  | @store t' seen record registration hx =>
    rw [keeps?, inHand?, endTask, Association.get?_erase] at hid
    split at hid
    · cases hid
    · have hsame := inHand?_spawn ho (x := .supervise s.nextId seen false .watching) rfl t
      rw [keeps?, ← hsame]
      exact .inl hid
  | gain hx hcall hg =>
    cases hg with
    | announce | supervise =>
      exact hgained (.outside hx rfl get?_setTask rfl rfl) hcall rfl

/-- A registration behind what is announced was there before, or in the hand of a task
    that supervises nothing else. -/
theorem Step.announcement (hs : s.Step prompt s') {a' : Announcement} {r : Registration}
    (hc' : s'.announcer.current = some a') (hr : a'.registration = some r) :
    (∃ a, s.announcer.current = some a ∧ a.id = a'.id ∧ a.registration = some r) ∨
    ∃ t x, s.announcer.tasks.get? t = some x ∧ x.inHand? = some r ∧
      ∀ i, x.supervises? = some i → i = a'.id := by
  cases hs with
  | script | restart | start | join | advance | leave | ask | progress | commit | gain | fail
  | refuse | claim | released | giveBack | delay | unregister | abandon | letGo =>
    exact .inl ⟨a', hc', rfl, hr⟩
  | quit _ _ ha =>
    rcases ha with rfl | ⟨-, rfl⟩ <;> exact .inl ⟨a', hc', rfl, hr⟩
  | takeLost | take | drop => cases hc'
  | forget =>
    cases hc'
    cases hr
  | store hx =>
    cases hc'
    exact .inr ⟨_, _, hx, hr, fun i he => by cases he⟩
  | adopt hx _ hid =>
    cases hc'
    exact .inr ⟨_, _, hx, hr, fun i he => by cases he; exact hid.symm⟩

/-- A registration is withdrawn that was being withdrawn before, or that the task had
    in hand, or that was announced. -/
theorem Step.withdrawal (hs : s.Step prompt s') {t id : Nat}
    (hid : s'.keeps? (.withdrawal t) = some id) :
    s.keeps? (.withdrawal t) = some id ∨ s.keeps? (.hand t) = some id ∨
      s.keeps? .announcement = some id ∧ s'.announcer.current = none := by
  have hassign {P : Prop} {t' : Nat} {value : Option WithdrawCall}
      (h : (assign s.withdrawals t' value t).bind WithdrawCall.pending? = some id)
      (hself : t = t' → value.bind WithdrawCall.pending? = some id →
        s.keeps? (.withdrawal t) = some id ∨ P) : s.keeps? (.withdrawal t) = some id ∨ P := by
    rw [bind_assign_eq] at h
    split at h
    · exact hself ‹_› h
    · exact .inl h
  cases hs with
  | script | restart | start | join | advance | quit | ask | progress | commit | gain | fail
  | refuse | claim | store | takeLost | forget | drop | adopt =>
    exact .inl hid
  | leave | released | abandon | letGo => exact hassign hid fun _ he => by cases he
  | delay hcall =>
    refine hassign hid fun ht he => .inl ?_
    rw [keeps?, ht, hcall]
    exact he
  | unregister => exact hassign hid fun _ he => by cases he
  | take _ _ hc hregistration =>
    refine hassign hid fun _ he => .inr (.inr ⟨?_, rfl⟩)
    rw [keeps?, registration?_of_current hc, hregistration]
    exact he
  | giveBack hx =>
    refine hassign hid fun ht he => .inr (.inl ?_)
    rw [keeps?, ht, inHand?_of_get? hx]
    exact he

/-! ## What becomes of them -/

/-- What is registered behind the announcement stays there, or is withdrawn or
    forgotten. -/
theorem Step.fate_announcement (hs : s.Step prompt s') (hcoh : Coherent s.announcer)
    (htended : Tended s.announcer) (ho : Orderly s) {id : Nat}
    (hid : s.keeps? .announcement = some id) :
    s'.keeps? .announcement = some id ∨ (∃ t, s'.keeps? (.withdrawal t) = some id) ∨
      s.Forgets s' id := by
  -- The announcement has a registration, as it has none if it is claimed or lost.
  have hlost {P : Prop} {announcement : Announcement} (hc : s.announcer.current = some announcement)
      (h : announcement.registration = none) : P := by
    rw [keeps?, registration?_of_current hc, h] at hid
    cases hid
  cases hs with
  | script | restart | start | join | advance | leave | ask | progress | commit | gain | fail
  | refuse | claim | released | giveBack | delay | unregister | abandon | letGo =>
    exact .inl hid
  | quit _ _ ha =>
    rcases ha with rfl | ⟨-, rfl⟩ <;> exact .inl hid
  | store hx =>
    rw [keeps?, Announcer.registration?, (hcoh.claimed hx rfl).1] at hid
    cases hid
  | takeLost _ _ hc h => exact hlost hc h
  | drop hx hc he => exact hlost hc (htended.fits ho hx hc he).2
  | adopt hx hc he => exact hlost hc (htended.fits ho hx hc he).2
  | @take t _ _ _ registration _ _ hc hregistration =>
    refine .inr (.inl ⟨t, ?_⟩)
    rw [keeps?, registration?_of_current hc, hregistration] at hid
    rw [keeps?, bind_assign_eq, if_pos rfl]
    exact hid
  | forget _ hc =>
    obtain ⟨registration, hsome, he⟩ := Option.map_eq_some_iff.1 hid
    rw [registration?_of_current hc] at hsome
    exact .inr (.inr ⟨_, _, registration, hc, hsome, he, rfl, rfl, rfl⟩)

/-- A task ends, and its requests are given up. -/
structure Ends (s s' : Scene) (t : Nat) : Prop where
  was : ∃ x, s.announcer.tasks.get? t = some x ∧ (x.inHand? ≠ none → x.supervises? = none)
  tasks : ∀ t', s'.announcer.tasks.get? t' =
    if t' = t then none else s.announcer.tasks.get? t'
  current : s'.announcer.current = s.announcer.current
  registers : s'.registers = assign s.registers t none
  withdrawals : s'.withdrawals = assign s.withdrawals t none

/-- A step is prompt, or a task ends. -/
theorem Step.prompt_or_ends (hs : s.Step prompt s') : s.Step True s' ∨ ∃ t, s.Ends s' t := by
  have hget {a : Announcer} {t t' : Nat} (htasks : a.tasks = s.announcer.tasks) :
      (a.endTask t).tasks.get? t' = if t' = t then none else s.announcer.tasks.get? t' := by
    rw [endTask, htasks, Association.get?_erase]
  cases hs with
  | script hsame => exact .inl (.script hsame)
  | restart => exact .inl .restart
  | start hx => exact .inl (.start hx)
  | join hx hw => exact .inl (.join hx hw)
  | advance hx ha => exact .inl (.advance hx ha)
  | quit hx hq ha => exact .inl (.quit hx hq ha)
  | ask hx ha hcall => exact .inl (.ask hx ha hcall)
  | progress hcall hg hg' hr hsame => exact .inl (.progress hcall hg hg' hr hsame)
  | commit hcall => exact .inl (.commit hcall)
  | gain hx hcall hg => exact .inl (.gain hx hcall hg)
  | fail hx hcall hf => exact .inl (.fail hx hcall hf)
  | refuse hx hcall => exact .inl (.refuse hx hcall)
  | claim hx hv hh hc hs => exact .inl (.claim hx hv hh hc hs)
  | store hx hh => exact .inl (.store hx hh)
  | takeLost hx hh hc hr => exact .inl (.takeLost hx hh hc hr)
  | take hx hh hc hr => exact .inl (.take hx hh hc hr)
  | forget hx hc hid => exact .inl (.forget hx hc hid)
  | drop hx hc hid => exact .inl (.drop hx hc hid)
  | adopt hx hc hid => exact .inl (.adopt hx hc hid)
  | giveBack hx hc => exact .inl (.giveBack hx hc)
  | delay hcall => exact .inl (.delay hcall)
  | unregister hcall hp => exact .inl (.unregister hcall hp)
  | leave hx hl =>
    refine .inr ⟨_, ⟨_, hx, fun h => ?_⟩, fun _ => hget rfl, rfl, rfl, rfl⟩
    cases hl <;> exact absurd rfl h
  | released hx => exact .inr ⟨_, ⟨_, hx, fun _ => rfl⟩, fun _ => hget rfl, rfl, rfl, rfl⟩
  | @abandon t x _ hx hclaims =>
    refine .inr ⟨t, ⟨x, hx, fun _ => ?_⟩, fun _ => hget rfl, rfl, rfl, rfl⟩
    cases x with
    | announce => rfl
    | release | supervise => cases hclaims
  | @letGo t x _ hx hholds =>
    refine .inr ⟨t, ⟨x, hx, fun _ => ?_⟩, fun _ => hget rfl, rfl, rfl, rfl⟩
    cases x with
    | release => rfl
    | announce | supervise => cases hholds

/-- What a task does not take with it as it ends is kept. -/
theorem Ends.fate {t : Nat} (h : s.Ends s' t) {k : Keeper} {id : Nat}
    (hid : s.keeps? k = some id) : s'.keeps? k = some id ∨
      ∃ t x, s.announcer.tasks.get? t = some x ∧ s'.announcer.tasks.get? t = none ∧
        (k = .answer t ∨ k = .withdrawal t ∨ k = .hand t ∧ x.supervises? = none) := by
  obtain ⟨x, hx, hempty⟩ := h.was
  have hgone : s'.announcer.tasks.get? t = none := (h.tasks t).trans (if_pos rfl)
  cases k with
  | announcement =>
    rw [keeps?, Announcer.registration?, h.current]
    exact .inl hid
  | hand t' =>
    by_cases ht : t' = t
    · subst ht
      refine .inr ⟨t', x, hx, hgone, .inr (.inr ⟨rfl, hempty fun hnone => ?_⟩)⟩
      rw [keeps?, inHand?_of_get? hx, hnone] at hid
      cases hid
    · rw [keeps?, inHand?, h.tasks, if_neg ht]
      exact .inl hid
  | answer t' =>
    by_cases ht : t' = t
    · subst ht
      exact .inr ⟨t', x, hx, hgone, .inl rfl⟩
    · rw [keeps?, h.registers, bind_assign_eq, if_neg ht]
      exact .inl hid
  | withdrawal t' =>
    by_cases ht : t' = t
    · subst ht
      exact .inr ⟨t', x, hx, hgone, .inr (.inl rfl)⟩
    · rw [keeps?, h.withdrawals, bind_assign_eq, if_neg ht]
      exact .inl hid

/-- What is held stays so until it is withdrawn, or the directory restarts. -/
theorem Step.stands (hs : s.Step prompt s') {id : Nat}
    (hheld : s.registry.registrations.get? id ≠ none)
    (hkept : ∀ t, s.keeps? (.withdrawal t) ≠ some id) :
    s'.registry.registrations.get? id ≠ none ∨
      s'.registry.generation ≠ s.registry.generation := by
  cases hs with
  | script hsame | progress _ _ _ _ hsame => exact .inl (hsame.1 ▸ hheld)
  | restart => exact .inr (Nat.succ_ne_self _)
  | commit =>
    refine .inl ?_
    rw [Association.get?_put]
    split
    · exact Option.some_ne_none _
    · exact hheld
  | @unregister t id' call hcall hpending =>
    refine .inl ?_
    rw [Registry.unregister, Association.get?_erase, if_neg]
    · exact hheld
    · rintro rfl
      exact hkept t (by rw [keeps?, hcall]; exact hpending)
  | _ => exact .inl hheld

/-- A step tells of every registration where it is and where it comes from. -/
theorem Step.whereabouts (hs : s.Step prompt s') (h : Sound s) : Whereabouts s s' := by
  have hhands := hs.hands h.order h.status h.supervision
  refine ⟨hs.supervises h.order, fun {t id} hid => ?_, hs.hand h.order, hs.announcement,
    hs.withdrawal, fun {k id} hid => ?_, fun {id} hheld => ?_, hs.stands, hs.generation_eq, ?_⟩
  · rcases hhands.before hid with hwas | hnone
    · exact .inl hwas
    · obtain ⟨rfl, -⟩ := hs.answer hnone hid
      exact .inr (Nat.lt_succ_self _)
  · by_cases hk : k = .announcement
    · subst hk
      rcases hs.fate_announcement h.status h.supervision h.order hid with hkept | ⟨t, hw⟩ | hf
      · exact .inl ⟨_, hkept⟩
      · exact .inl ⟨_, hw⟩
      · exact .inr (.inr (.inl hf))
    · rcases hs.prompt_or_ends with hprompt | ⟨t, hends⟩
      · rcases (hprompt.hands h.order h.status h.supervision).target trivial hid with
          hkept | ⟨announcement, registration, hdoomed, rfl⟩ | hgone
        · exact .inl hkept
        · -- What is about to be forgotten is the announcement's.
          have hc := keeps?_announcement hdoomed.current hdoomed.registration
          exact absurd (h.ownership.single hid hc) hk
        · exact .inr (.inl hgone)
      · rcases hends.fate hid with hkept | hended
        · exact .inl ⟨k, hkept⟩
        · exact .inr (.inr (.inr hended))
  · rcases hs.stock hheld with hwas | ⟨rfl, -⟩
    · exact .inl hwas
    · exact .inr (Nat.lt_succ_self _)
  · rcases hhands.lastId with hl | ⟨hl, -⟩
    · exact Nat.le_of_eq hl.symm
    · exact hl ▸ Nat.le_succ _

/-- A task that is started after a step changes nothing about registrations. -/
theorem Whereabouts.spawn (h : Whereabouts s s') (ho' : Orderly s') {x : AnnouncerTask}
    (hx : x.Starts) (hnew : s.announcer.tasks.get? s'.announcer.nextTask = none) :
    Whereabouts s { s' with announcer := (s'.announcer.spawn x).1 } := by
  have hkeeps (k : Keeper) :
      ({ s' with announcer := (s'.announcer.spawn x).1 } : Scene).keeps? k = s'.keeps? k := by
    cases k with
    | hand t =>
      rw [keeps?, inHand?, inHand?_spawn ho' (by cases hx <;> rfl)]
      rfl
    | announcement | answer | withdrawal => rfl
  refine ⟨fun {t x₀ z} hx₀ hz => ?_, fun {t id} hid => h.answer (hkeeps _ ▸ hid),
    fun {t id} hid => h.hand (hkeeps _ ▸ hid), h.announcement,
    fun {t id} hid => h.withdrawal (hkeeps _ ▸ hid), fun {k id} hid => ?_, h.held, h.stands,
    h.generation, h.lastId⟩
  · rcases Orderly.get?_spawn hz with ⟨rfl, -⟩ | hz
    · cases hnew.symm.trans hx₀
    · exact h.supervises hx₀ hz
  · rcases h.fate hid with ⟨k', hkept⟩ | hgone | hf | ⟨t, x₀, hx₀, hended, hk⟩
    · exact .inl ⟨k', (hkeeps k').trans hkept⟩
    · exact .inr (.inl hgone)
    · exact .inr (.inr (.inl hf))
    · have ht : t ≠ s'.announcer.nextTask := by
        rintro rfl
        cases hnew.symm.trans hx₀
      exact .inr (.inr (.inr ⟨t, x₀, hx₀,
        (s'.announcer.tasks.get?_put_of_ne x ht).trans hended, hk⟩))

end Scene

end ServiceDiscovery
