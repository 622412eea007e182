import ServiceDiscovery.Proofs.Announcer.Ownership

/-!
# No restart is lost

A registration on its way to the announcement is meant for a record, and whoever
has it has noticed the directory's generation of some time before it was made
(`Scene.Meant`). The directory still has it, or has restarted since, which the
supervisor is then yet to notice (`Scene.Backed`). `Scene.Fresh` says so of every
registration that is meant for a record and not about to be forgotten:

* a restart takes the registrations away, and makes every generation noticed so
  far an old one;
* a request is only committed after the generation was noted, and under a new
  number;
* what a task has withdrawn is nobody else's.
-/

namespace ServiceDiscovery

namespace AnnouncerTask

/-- Whether a task looks after a registration that is announced. -/
def attends : AnnouncerTask → Bool
  | supervise _ _ _ .watching | supervise _ _ _ .forgetting => true
  | _ => false

/-- A task goes on with nothing in its care, or notices a restart. -/
inductive Unburdened (generation : Nat) : AnnouncerTask → AnnouncerTask → Prop
  | free {x y : AnnouncerTask} : y.inHand? = none → y.attends = false → Unburdened generation x y
  | noticed {id seen : Nat} {cancelled : Bool} : generation ≠ seen →
      Unburdened generation (.supervise id seen cancelled .watching)
        (.supervise id generation cancelled .forgetting)

variable {stopped : Option Nat} {x : AnnouncerTask}

theorem eq_announce_of_told {record : ServiceRecord} {stage : AnnounceStage}
    (h : x.told stopped = .announce record stage) : x = .announce record stage := by
  cases x with
  | announce => exact h
  | release | supervise => cases h

theorem eq_supervise_of_told {id seen : Nat} {cancelled : Bool} {stage : SuperviseStage}
    (h : x.told stopped = .supervise id seen cancelled stage) :
    ∃ cancelled₀, x = .supervise id seen cancelled₀ stage := by
  cases x with
  | supervise _ _ cancelled₀ _ =>
    cases h
    exact ⟨cancelled₀, rfl⟩
  | announce | release => cases h

end AnnouncerTask

namespace Announcer

variable {a a' : Announcer} {t t' : Nat} {x : AnnouncerTask} {y : Option AnnouncerTask}
  {stopped : Option Nat}

/-- A task that announces is the one that moved, or did so before. -/
theorem Moved.announces {record : ServiceRecord} {stage : AnnounceStage}
    (hm : a.Moved a' t x y stopped) (hz : a'.tasks.get? t' = some (.announce record stage)) :
    (t' = t ∧ y = some (.announce record stage)) ∨
      a.tasks.get? t' = some (.announce record stage) := by
  rcases hm.get?_eq_some hz with hy | ⟨-, z₀, hz₀, htold⟩
  · exact .inl hy
  · exact .inr (AnnouncerTask.eq_announce_of_told htold ▸ hz₀)

/-- A supervisor is the task that moved, or was at the same stage before, perhaps not yet told
    to stop. -/
theorem Moved.supervises {id seen : Nat} {cancelled : Bool} {stage : SuperviseStage}
    (hm : a.Moved a' t x y stopped)
    (hz : a'.tasks.get? t' = some (.supervise id seen cancelled stage)) :
    (t' = t ∧ y = some (.supervise id seen cancelled stage)) ∨
      (t' ≠ t ∧ ∃ cancelled₀, a.tasks.get? t' = some (.supervise id seen cancelled₀ stage)) := by
  rcases hm.get?_eq_some hz with hy | ⟨hne, z₀, hz₀, htold⟩
  · exact .inl hy
  · obtain ⟨cancelled₀, rfl⟩ := AnnouncerTask.eq_supervise_of_told htold
    exact .inr ⟨hne, cancelled₀, hz₀⟩

/-- When a task starts another one and ends, all tasks are that one or were there before. -/
theorem get?_spawn_endTask {z : AnnouncerTask}
    (hz : ((a.spawn x).1.endTask t).tasks.get? t' = some z) :
    z = x ∨ a.tasks.get? t' = some z := by
  rw [endTask, Association.get?_erase] at hz
  split at hz
  · cases hz
  · exact (Scene.Orderly.get?_spawn hz).imp_left fun he => he.2.symm

end Announcer

namespace Scene

/-- The registration `id` in a place is meant for a record, and is in the care of
    a task that has noticed the generation `seen`, or of one that is about to
    forget it. -/
inductive Meant (s : Scene) : Keeper → (id : Nat) → (seen : Option Nat) → ServiceRecord → Prop
  | answer {t due seen : Nat} {x : AnnouncerTask} {registration : Registration}
      {record : ServiceRecord} : s.announcer.tasks.get? t = some x →
      s.registers t = some (.answered (.ok registration) due) → x.seen? = some seen →
      x.asked? = some record → Meant s (.answer t) registration.id (some seen) record
  | storing {t seen : Nat} {record : ServiceRecord} {registration : Registration} :
      s.announcer.tasks.get? t = some (.announce record (.storing seen registration)) →
      Meant s (.hand t) registration.id (some seen) record
  | adopting {t seen : Nat} {cancelled : Bool} {announcement : Announcement}
      {registration : Registration} : s.announcer.current = some announcement →
      s.announcer.tasks.get? t =
        some (.supervise announcement.id seen cancelled (.adopting registration)) →
      Meant s (.hand t) registration.id (some seen) announcement.record
  | watching {t seen : Nat} {cancelled : Bool} {announcement : Announcement}
      {registration : Registration} : s.announcer.current = some announcement →
      s.announcer.tasks.get? t = some (.supervise announcement.id seen cancelled .watching) →
      announcement.registration = some registration →
      Meant s .announcement registration.id (some seen) announcement.record
  | forgetting {announcement : Announcement} {registration : Registration} :
      s.Doomed announcement registration →
      Meant s .announcement registration.id none announcement.record

/-- In a step, the registration `id` is made for a record, at the request of a
    task that has noticed the generation `seen`. -/
structure Made (s s' : Scene) (t id seen : Nat) (record : ServiceRecord) : Prop where
  task : (s.announcer.tasks.get? t).bind AnnouncerTask.seen? = some seen
  before : s.keeps? (.answer t) = none
  after : s'.keeps? (.answer t) = some id
  registered : s'.registry.registrations.get? id = some record

/-- How it came that the registration `id` is meant for a record after a step. -/
inductive Comes (s s' : Scene) (id : Nat) : (seen : Option Nat) → ServiceRecord → Prop
  | kept {k : Keeper} {seen : Option Nat} {record : ServiceRecord} :
      s.Meant k id seen record → Comes s s' id seen record
  /-- A restart was noticed. -/
  | noticed {k : Keeper} {seen : Nat} {record : ServiceRecord} :
      s.Meant k id (some seen) record → s.registry.generation ≠ seen → Comes s s' id none record
  | made {t seen : Nat} {record : ServiceRecord} : Made s s' t id seen record →
      Comes s s' id (some seen) record

/-- The directory has a registration for a record, or has restarted since the
    generation `seen`. -/
def Backed (s : Scene) (id seen : Nat) (record : ServiceRecord) : Prop :=
  s.registry.registrations.get? id = some record ∨ seen < s.registry.generation

/-- What is meant for a record is registered, unless a restart is yet to be
    noticed. -/
structure Fresh (s : Scene) : Prop where
  seen : ∀ {t x seen}, s.announcer.tasks.get? t = some x → x.seen? = some seen →
    seen ≤ s.registry.generation
  backed : ∀ {k id seen record}, s.Meant k id (some seen) record → s.Backed id seen record

variable {s s' : Scene} {prompt : Prop}

/-- What a task has noticed as it has a registration made is not newer than the
    directory. -/
theorem Fresh.noticed_le (h : Fresh s) {t id seen : Nat} {record : ServiceRecord}
    (hmade : Made s s' t id seen record) : seen ≤ s.registry.generation := by
  obtain ⟨x, hx, hseen⟩ := Option.bind_eq_some_iff.1 hmade.task
  exact h.seen hx hseen

/-- What is meant for a record is kept, and not to be withdrawn. -/
theorem Meant.keeps? {k : Keeper} {id : Nat} {seen : Option Nat} {record : ServiceRecord}
    (h : s.Meant k id seen record) : s.keeps? k = some id ∧ ∀ t, k ≠ .withdrawal t := by
  cases h with
  | answer _ hcall =>
    refine ⟨?_, fun _ he => by cases he⟩
    rw [Scene.keeps?, hcall]
    rfl
  | storing hx | adopting _ hx =>
    refine ⟨?_, fun _ he => by cases he⟩
    rw [Scene.keeps?, inHand?_of_get? hx]
    rfl
  | watching hc _ hregistration =>
    refine ⟨?_, fun _ he => by cases he⟩
    rw [Scene.keeps?, Announcer.registration?, hc, Option.bind_some, hregistration]
    rfl
  | forgetting hdoomed =>
    refine ⟨?_, fun _ he => by cases he⟩
    rw [Scene.keeps?, Announcer.registration?, hdoomed.current, Option.bind_some,
      hdoomed.registration]
    rfl

/-- Whoever cares for a registration has noticed a generation. -/
theorem Meant.seen {k : Keeper} {id seen : Nat} {record : ServiceRecord}
    (h : s.Meant k id (some seen) record) :
    ∃ t x, s.announcer.tasks.get? t = some x ∧ x.seen? = some seen := by
  cases h with
  | answer hx _ hseen => exact ⟨_, _, hx, hseen⟩
  | storing hx | adopting _ hx | watching _ hx => exact ⟨_, _, hx, rfl⟩

/-- A registration that is kept, and not to be withdrawn, stays in the directory
    until this restarts. -/
theorem Backed.step {k : Keeper} {id seen : Nat} {record : ServiceRecord}
    (h : s.Backed id seen record) (howned : Owned s) (hk : s.keeps? k = some id)
    (hstays : ∀ t, k ≠ .withdrawal t) (hseen : seen ≤ s.registry.generation)
    (hs : s.Step prompt s') : s'.Backed id seen record := by
  cases hs with
  | script hsame | progress _ _ _ _ hsame =>
    obtain ⟨hregistrations, -, hgeneration⟩ := hsame
    rw [Backed, hregistrations, hgeneration]
    exact h
  -- Whatever was noticed is outdated by a restart.
  | restart => exact .inr (Nat.lt_succ_of_le hseen)
  | commit =>
    refine h.imp_left fun hget => ?_
    exact (s.registry.registrations.get?_put_of_ne _ (Nat.ne_of_lt
      (Nat.lt_succ_of_le (howned.old hk)))).trans hget
  | @unregister t id' _ hcall hpending =>
    refine h.imp_left fun hget => ?_
    -- What is withdrawn is kept by the request, and by nobody else.
    have hne : id ≠ id' := by
      rintro rfl
      have hk' : s.keeps? (.withdrawal t) = some id := by
        rw [Scene.keeps?, hcall, Option.bind_some, hpending]
      exact hstays t (howned.single hk hk')
    exact (s.registry.registrations.get?_erase_of_ne hne).trans hget
  | _ => exact h

/-! ## Steps -/

section

variable {k : Keeper} {id : Nat} {n : Option Nat} {record : ServiceRecord}

/-- An answer that tells of a registration belongs to a task that does not move. -/
theorem AsksMove.gained {t t' : Nat} {x : AnnouncerTask} {y : Option AnnouncerTask}
    {call : RegisterCall} {registration : Registration}
    (hr : AsksMove s.registers s'.registers t x y) (ho : Orderly s)
    (hx : s.announcer.tasks.get? t = some x) (hcall : s'.registers t' = some call)
    (hgained : call.gained? = some registration) : t' ≠ t ∧ s.registers t' = some call := by
  rcases hr with ⟨hr, hasked⟩ | ⟨hr, -, hasks, hrecord⟩ | ⟨hr⟩ <;> rw [hr] at hcall
  · refine ⟨?_, hcall⟩
    rintro rfl
    rw [ho.registers_eq_none hx hasked] at hcall
    cases hcall
  · rcases assign_eq_some hcall with ⟨-, he⟩ | hother
    · cases he
      obtain ⟨record, hsome⟩ := Option.ne_none_iff_exists'.1 hasks
      rw [gained?_of_record? (hrecord.trans hsome)] at hgained
      cases hgained
    · exact hother
  · rcases assign_eq_some hcall with ⟨-, he⟩ | hother
    · cases he
    · exact hother

theorem Meant.answer_of_moved {t t' due seen : Nat} {x z : AnnouncerTask} {y : Option AnnouncerTask}
    {stopped : Option Nat} {registration : Registration} (ho : Orderly s)
    (hz : s'.announcer.tasks.get? t' = some z)
    (hcall : s'.registers t' = some (.answered (.ok registration) due))
    (hseen : z.seen? = some seen) (hasked : z.asked? = some record)
    (hm : s.announcer.Moved s'.announcer t x y stopped)
    (hr : AsksMove s.registers s'.registers t x y) :
    s.Meant (.answer t') registration.id (some seen) record := by
  obtain ⟨hne, hcall⟩ := hr.gained ho hm.was hcall rfl
  rcases hm.get?_eq_some hz with ⟨he, -⟩ | ⟨-, z₀, hz₀, rfl⟩
  · exact absurd he hne
  · rw [AnnouncerTask.seen?_told] at hseen
    rw [AnnouncerTask.asked?_told] at hasked
    exact .answer hz₀ hcall hseen hasked

/-- What is meant after a task went on was meant before, if the task has nothing
    in its care then or notices a restart. -/
theorem Meant.moved {t : Nat} {x : AnnouncerTask} {y : Option AnnouncerTask}
    {stopped : Option Nat} (h : s'.Meant k id n record) (ho : Orderly s)
    (hm : s.announcer.Moved s'.announcer t x y stopped)
    (hy : ∀ z, y = some z → x.Unburdened s.registry.generation z)
    (hc : ∀ {announcement'}, s'.announcer.current = some announcement' → ∃ announcement,
      s.announcer.current = some announcement ∧ announcement'.id = announcement.id ∧
        announcement'.record = announcement.record ∧
        (announcement'.registration ≠ none → announcement' = announcement))
    (hr : AsksMove s.registers s'.registers t x y) : Comes s s' id n record := by
  cases h with
  | answer hz hcall hseen hasked =>
    exact .kept (.answer_of_moved ho hz hcall hseen hasked hm hr)
  | storing hz =>
    rcases hm.announces hz with ⟨-, he⟩ | hz
    · cases hy _ he with
      | free hempty => cases hempty
    · exact .kept (.storing hz)
  | adopting hcurrent hz =>
    rcases hm.supervises hz with ⟨-, he⟩ | ⟨-, cancelled, hz⟩
    · cases hy _ he with
      | free hempty => cases hempty
    · obtain ⟨announcement, hcurrent, hid, hrecord, -⟩ := hc hcurrent
      rw [hrecord]
      exact .kept (.adopting hcurrent (hid ▸ hz))
  | watching hcurrent hz hregistration =>
    obtain ⟨announcement, hcurrent, -, -, hsame⟩ := hc hcurrent
    obtain rfl := hsame (hregistration ▸ Option.some_ne_none _)
    rcases hm.supervises hz with ⟨-, he⟩ | ⟨-, cancelled, hz⟩
    · cases hy _ he with
      | free _ hattends => cases hattends
    · exact .kept (.watching hcurrent hz hregistration)
  | forgetting hdoomed =>
    obtain ⟨hcurrent, hregistration, t', seen, cancelled, hz⟩ := hdoomed
    obtain ⟨announcement, hcurrent, -, -, hsame⟩ := hc hcurrent
    obtain rfl := hsame (hregistration ▸ Option.some_ne_none _)
    rcases hm.supervises hz with ⟨-, he⟩ | ⟨-, cancelled, hz⟩
    · cases hy _ he with
      | free _ hattends => cases hattends
      | noticed hne => exact .noticed (.watching hcurrent hm.was hregistration) hne
    · exact .kept (.forgetting ⟨hcurrent, hregistration, _, _, _, hz⟩)

theorem current_kept {a a' : Announcer} (h : a'.current = a.current)
    {announcement' : Announcement} (hc : a'.current = some announcement') :
    ∃ announcement, a.current = some announcement ∧ announcement'.id = announcement.id ∧
      announcement'.record = announcement.record ∧
      (announcement'.registration ≠ none → announcement' = announcement) :=
  ⟨announcement', h ▸ hc, rfl, rfl, fun _ => rfl⟩

/-- What is meant after a step in which no task moves was meant before. -/
theorem Meant.still (h : s'.Meant k id n record)
    (htasks : ∀ {t x}, s'.announcer.tasks.get? t = some x →
      x.inHand? = none ∧ x.attends = false ∧ x.asked? = none ∨ s.announcer.tasks.get? t = some x)
    (hc : s'.announcer.current = s.announcer.current)
    (hr : ∀ {t call registration}, s'.registers t = some call →
      call.gained? = some registration → s.registers t = some call) :
    s.Meant k id n record := by
  cases h with
  | answer hz hcall hseen hasked =>
    rcases htasks hz with ⟨-, -, hnone⟩ | hz
    · rw [hasked] at hnone
      cases hnone
    · exact .answer hz (hr hcall rfl) hseen hasked
  | storing hz =>
    rcases htasks hz with ⟨hnone, -, -⟩ | hz
    · cases hnone
    · exact .storing hz
  | adopting hcurrent hz =>
    rcases htasks hz with ⟨hnone, -, -⟩ | hz
    · cases hnone
    · exact .adopting (hc ▸ hcurrent) hz
  | watching hcurrent hz hregistration =>
    rcases htasks hz with ⟨-, hnone, -⟩ | hz
    · cases hnone
    · exact .watching (hc ▸ hcurrent) hz hregistration
  | forgetting hdoomed =>
    obtain ⟨hcurrent, hregistration, t, seen, cancelled, hz⟩ := hdoomed
    rcases htasks hz with ⟨-, hnone, -⟩ | hz
    · cases hnone
    · exact .forgetting ⟨hc ▸ hcurrent, hregistration, _, _, _, hz⟩

open Announcer

/-- What is meant after a request was committed was meant before, or is what was registered on
    the request. -/
theorem Meant.committed {t due lag : Nat} {record₀ : ServiceRecord} {fullName : String}
    (h : s'.Meant k id n record) (ho : Orderly s)
    (hcall : s.registers t = some (.admitted record₀ lag))
    (hannouncer : s'.announcer = s.announcer)
    (hregistered : s'.registry.registrations.get? (s.registry.lastId + 1) = some record₀)
    (hr : s'.registers = assign s.registers t
      (some (.answered (.ok ⟨s.registry.lastId + 1, fullName⟩) due))) :
    Comes s s' id n record := by
  cases h with
  | @answer t _ _ x registration _ hz hcall' hseen hasked =>
    rw [hannouncer] at hz
    have hanswered := hcall'
    rw [hr] at hcall'
    rcases assign_eq_some hcall' with ⟨rfl, he⟩ | ⟨-, hcall'⟩
    · -- The record that was committed is the one that the task asked for.
      cases he
      obtain ⟨x', record', hz', hasked', hsame⟩ := ho.registers hcall
      have hx' : x = x' := Option.some.inj (hz.symm.trans hz')
      rw [hx', hasked'] at hasked
      obtain rfl := Option.some.inj hasked
      obtain rfl := hsame _ rfl
      refine .made (t := t) ⟨?_, ?_, ?_, hregistered⟩
      · rw [hz, Option.bind_some, hseen]
      · rw [Scene.keeps?, hcall]
        rfl
      · rw [Scene.keeps?, hanswered]
        rfl
    · exact .kept (.answer hz hcall' hseen hasked)
  | storing hz => exact .kept (.storing (hannouncer ▸ hz))
  | adopting hcurrent hz => exact .kept (.adopting (hannouncer ▸ hcurrent) (hannouncer ▸ hz))
  | watching hcurrent hz hregistration =>
    exact .kept (.watching (hannouncer ▸ hcurrent) (hannouncer ▸ hz) hregistration)
  | forgetting hdoomed =>
    obtain ⟨hcurrent, hregistration, hsupervisor⟩ := hdoomed
    rw [hannouncer] at hcurrent hsupervisor
    exact .kept (.forgetting ⟨hcurrent, hregistration, hsupervisor⟩)

/-- What is meant after a task took the answer to its request was meant before: what the task
    has in hand, while it was still in the answer. -/
theorem Meant.gained {t due : Nat} {x y : AnnouncerTask} {registration : Registration}
    (h : s'.Meant k id n record) (ho : Orderly s) (htended : Tended s.announcer)
    (hm : s.announcer.Moved s'.announcer t x (some y) none) (hg : x.Gains registration y)
    (hcall : s.registers t = some (.answered (.ok registration) due))
    (hc : s'.announcer.current = s.announcer.current)
    (hr : s'.registers = assign s.registers t none) : ∃ k₀, s.Meant k₀ id n record := by
  have hx := hm.was
  cases h with
  | answer hz hcall' hseen hasked =>
    exact ⟨_, .answer_of_moved ho hz hcall' hseen hasked hm (.ended hr)⟩
  | storing hz =>
    rcases hm.announces hz with ⟨rfl, he⟩ | hz
    · cases he
      cases hg
      exact ⟨_, .answer hx hcall rfl rfl⟩
    · exact ⟨_, .storing hz⟩
  | adopting hcurrent hz =>
    rw [hc] at hcurrent
    rcases hm.supervises hz with ⟨rfl, he⟩ | ⟨-, cancelled, hz⟩
    · cases he
      cases hg
      -- While there is no registration, the supervisor works on what is announced.
      obtain ⟨-, -, hrecord⟩ := htended.fits ho hx hcurrent rfl
      rw [← hrecord]
      exact ⟨_, .answer hx hcall rfl rfl⟩
    · exact ⟨_, .adopting hcurrent hz⟩
  | watching hcurrent hz hregistration =>
    rcases hm.supervises hz with ⟨rfl, he⟩ | ⟨-, cancelled, hz⟩
    · cases he
      cases hg
    · exact ⟨_, .watching (hc ▸ hcurrent) hz hregistration⟩
  | forgetting hdoomed =>
    obtain ⟨hcurrent, hregistration, t', seen, cancelled, hz⟩ := hdoomed
    rcases hm.supervises hz with ⟨rfl, he⟩ | ⟨-, cancelled, hz⟩
    · cases he
      cases hg
    · exact ⟨_, .forgetting ⟨hc ▸ hcurrent, hregistration, _, _, _, hz⟩⟩

/-- What is meant after a task stored what it announces was meant before: what is announced,
    while the task had it in hand. -/
theorem Meant.stored {t seen : Nat} {record₀ : ServiceRecord} {registration : Registration}
    (h : s'.Meant k id n record) (ho : Orderly s)
    (hx : s.announcer.tasks.get? t = some (.announce record₀ (.storing seen registration)))
    (htasks : ∀ {t' z}, s'.announcer.tasks.get? t' = some z →
      z = .supervise s.nextId seen false .watching ∨ s.announcer.tasks.get? t' = some z)
    (hc : s'.announcer.current =
      some { id := s.nextId, record := record₀, registration := some registration })
    (hr : s'.registers = s.registers) : ∃ k₀, s.Meant k₀ id n record := by
  -- The number of the new announcement was not supervised before.
  have hnew {t' seen' : Nat} {cancelled' : Bool} {stage : SuperviseStage} :
      s.announcer.tasks.get? t' ≠ some (.supervise s.nextId seen' cancelled' stage) :=
    fun hz => Nat.lt_irrefl _ (ho.ids hz rfl)
  cases h with
  | answer hz hcall hseen hasked =>
    rcases htasks hz with rfl | hz
    · cases hasked
    · exact ⟨_, .answer hz (hr ▸ hcall) hseen hasked⟩
  | storing hz =>
    rcases htasks hz with he | hz
    · cases he
    · exact ⟨_, .storing hz⟩
  | adopting hcurrent hz =>
    obtain rfl := Option.some.inj (hc.symm.trans hcurrent)
    rcases htasks hz with he | hz
    · cases he
    · exact absurd hz hnew
  | watching hcurrent hz hregistration =>
    obtain rfl := Option.some.inj (hc.symm.trans hcurrent)
    cases hregistration
    rcases htasks hz with he | hz
    · cases he
      exact ⟨_, .storing hx⟩
    · exact absurd hz hnew
  | forgetting hdoomed =>
    obtain ⟨hcurrent, -, t', seen', cancelled, hz⟩ := hdoomed
    obtain rfl := Option.some.inj (hc.symm.trans hcurrent)
    rcases htasks hz with he | hz
    · cases he
    · exact absurd hz hnew

/-- What is meant after a supervisor renewed the announcement was meant before: what is
    announced, while the supervisor had it in hand. -/
theorem Meant.adopted {t seen : Nat} {cancelled : Bool} {announcement : Announcement}
    {registration : Registration} (h : s'.Meant k id n record) (ho : Orderly s)
    (hm : s.announcer.Moved s'.announcer t
      (.supervise announcement.id seen cancelled (.adopting registration))
      (some (.supervise announcement.id seen cancelled .watching)) none)
    (hc : s.announcer.current = some announcement)
    (hc' : s'.announcer.current = some { announcement with registration := some registration })
    (hr : s'.registers = s.registers) : ∃ k₀, s.Meant k₀ id n record := by
  have hx := hm.was
  -- No other task supervises the announcement.
  have hsingle {t' seen' : Nat} {cancelled' : Bool} {stage : SuperviseStage}
      (hz : s.announcer.tasks.get? t' =
        some (.supervise announcement.id seen' cancelled' stage)) :
      t' = t := ho.single hz hx rfl rfl
  cases h with
  | answer hz hcall hseen hasked =>
    exact ⟨_, .answer_of_moved ho hz hcall hseen hasked hm (.none hr rfl)⟩
  | storing hz =>
    rcases hm.announces hz with ⟨-, he⟩ | hz
    · cases he
    · exact ⟨_, .storing hz⟩
  | adopting hcurrent hz =>
    obtain rfl := Option.some.inj (hc'.symm.trans hcurrent)
    rcases hm.supervises hz with ⟨-, he⟩ | ⟨hne, cancelled', hz⟩
    · cases he
    · exact absurd (hsingle hz) hne
  | watching hcurrent hz hregistration =>
    obtain rfl := Option.some.inj (hc'.symm.trans hcurrent)
    cases hregistration
    rcases hm.supervises hz with ⟨rfl, he⟩ | ⟨hne, cancelled', hz⟩
    · cases he
      have hmeant := Meant.adopting hc hx
      exact ⟨_, hmeant⟩
    · exact absurd (hsingle hz) hne
  | forgetting hdoomed =>
    obtain ⟨hcurrent, -, t', seen', cancelled', hz⟩ := hdoomed
    obtain rfl := Option.some.inj (hc'.symm.trans hcurrent)
    rcases hm.supervises hz with ⟨-, he⟩ | ⟨hne, cancelled', hz⟩
    · cases he
    · exact absurd (hsingle hz) hne

/-- What is meant after a step was meant before, perhaps in another place, or was
    just made. -/
theorem Step.meant (ho : Orderly s) (htended : Tended s.announcer)
    (hs : s.Step prompt s') (h : s'.Meant k id n record) : Comes s s' id n record := by
  cases hs with
  | script | restart | join | delay | unregister =>
    exact .kept (h.still .inr rfl fun hcall _ => hcall)
  | start hx =>
    refine .kept (h.still (fun hz => ?_) rfl fun hcall _ => hcall)
    rcases Orderly.get?_spawn hz with ⟨-, rfl⟩ | hz
    · cases hx <;> exact .inl ⟨rfl, rfl, rfl⟩
    · exact .inr hz
  | progress hcall hgained hgained' =>
    refine .kept (h.still .inr rfl fun hcall' hsome => ?_)
    rcases assign_eq_some hcall' with ⟨-, he⟩ | ⟨-, hcall'⟩
    · cases he
      rw [hgained'] at hsome
      cases hsome
    · exact hcall'
  | advance hx ha =>
    cases ha with
    | handed | rested =>
      exact h.moved ho (.outside hx rfl get?_setTask rfl rfl)
        (fun z he => by cases he; exact .free rfl rfl) (current_kept rfl) (.none rfl rfl)
    | noticed hne =>
      exact h.moved ho (.outside hx rfl get?_setTask rfl rfl)
        (fun z he => by cases he; exact .noticed hne) (current_kept rfl) (.none rfl rfl)
  | @quit t x a hx hq ha =>
    have hasked : x.asked? = none := by cases hq <;> rfl
    rcases ha with rfl | ⟨hw, rfl⟩
    · exact h.moved ho (.inside hx get?_endTask rfl rfl) none_eq_some
        (current_kept rfl) (.none rfl hasked)
    · exact h.moved ho (.outside hx hw get?_endTask rfl rfl) none_eq_some
        (current_kept rfl) (.none rfl hasked)
  | leave hx hl =>
    cases hl with
    | registering | returning =>
      exact h.moved ho (.outside hx rfl get?_endTask rfl rfl) none_eq_some
        (current_kept rfl) (.ended rfl)
  | ask hx ha hcall =>
    cases ha with
    | announce | supervise =>
      exact h.moved ho (.outside hx rfl get?_setTask rfl rfl)
        (fun z he => by cases he; exact .free rfl rfl) (current_kept rfl)
        (.made rfl rfl (Option.some_ne_none _) hcall)
  | fail hx _ hf =>
    cases hf with
    | collision | again =>
      exact h.moved ho (.outside hx rfl get?_setTask rfl rfl)
        (fun z he => by cases he; exact .free rfl rfl) (current_kept rfl) (.ended rfl)
  | refuse hx =>
    exact h.moved ho (.outside hx rfl get?_endTask rfl rfl) none_eq_some
      (current_kept rfl) (.ended rfl)
  | claim hx =>
    exact h.moved ho (.inside hx get?_setTask rfl rfl)
      (fun z he => by cases he; exact .free rfl rfl) (current_kept rfl) (.none rfl rfl)
  | takeLost hx =>
    exact h.moved ho
      (.inside hx (get?_stopSupervisor_endTask (a := s.announcer) _) rfl rfl) none_eq_some
      (fun he => by cases he) (.none rfl rfl)
  | take hx =>
    exact h.moved ho
      (.inside hx (get?_stopSupervisor_setTask (a := s.announcer) _) rfl rfl)
      (fun z he => by cases he; exact .free rfl rfl) (fun he => by cases he) (.none rfl rfl)
  | released hx =>
    exact h.moved ho (.outside hx rfl get?_endTask rfl rfl) none_eq_some
      (current_kept rfl) (.ended rfl)
  | forget hx hc =>
    refine h.moved ho (.inside hx get?_setTask rfl rfl)
      (fun z he => by cases he; exact .free rfl rfl) (fun he => ?_) (.none rfl rfl)
    cases he
    exact ⟨_, hc, rfl, rfl, fun hne => absurd rfl hne⟩
  | drop hx =>
    exact h.moved ho
      (.inside hx (get?_stopSupervisor_endTask (a := s.announcer) _) rfl rfl) none_eq_some
      (fun he => by cases he) (.none rfl rfl)
  | giveBack hx =>
    exact h.moved ho (.inside hx get?_setTask rfl rfl)
      (fun z he => by cases he; exact .free rfl rfl) (current_kept rfl) (.none rfl rfl)
  | abandon _ hx =>
    exact h.moved ho (.inside hx get?_endTask rfl rfl) none_eq_some (current_kept rfl)
      (.ended rfl)
  | letGo _ hx hholds =>
    exact h.moved ho
      (.outside hx (AnnouncerTask.awaitsLock_of_holdsLock hholds) get?_endTask rfl rfl)
      none_eq_some (current_kept rfl) (.ended rfl)
  | commit hcall =>
    exact h.committed ho hcall rfl (s.registry.registrations.get?_put_self ..) rfl
  | gain hx hcall hg =>
    obtain ⟨_, h⟩ := h.gained ho htended
      (.outside hx (by cases hg <;> rfl) get?_setTask rfl rfl) hg hcall rfl rfl
    exact .kept h
  | store hx =>
    obtain ⟨_, h⟩ := h.stored ho hx get?_spawn_endTask rfl rfl
    exact .kept h
  | adopt hx hc hid =>
    subst hid
    obtain ⟨_, h⟩ := h.adopted ho (.inside hx get?_setTask rfl rfl) hc rfl rfl
    exact .kept h

/-- The generation of the directory never falls. -/
theorem Step.generation_le (hs : s.Step prompt s') :
    s.registry.generation ≤ s'.registry.generation := by
  cases hs with
  | script hsame | progress _ _ _ _ hsame => exact Nat.le_of_eq hsame.2.2.symm
  | restart => exact Nat.le_succ _
  | _ => exact Nat.le_refl _

/-- A generation that is noticed is that of the directory, or was noticed before. -/
theorem Step.seen {t n : Nat} {z : AnnouncerTask} (hs : s.Step prompt s')
    (hz : s'.announcer.tasks.get? t = some z) (hn : z.seen? = some n) :
    n = s.registry.generation ∨
      ∃ t₀ x₀, s.announcer.tasks.get? t₀ = some x₀ ∧ x₀.seen? = some n := by
  cases hs.shape with
  | still ha => exact .inr ⟨t, z, ha ▸ hz, hn⟩
  | join _ _ he =>
    subst he
    exact .inr ⟨t, z, hz, hn⟩
  | start hx he =>
    subst he
    rcases Orderly.get?_spawn hz with ⟨-, rfl⟩ | hz
    · cases hx <;> cases hn
    · exact .inr ⟨t, z, hz, hn⟩
  | moved hm hgoes =>
    rcases hm.get?_eq_some hz with ⟨-, hy⟩ | ⟨-, z₀, hz₀, rfl⟩
    · rcases (hgoes z hy).seen with hseen | hseen
      · exact .inr ⟨_, _, hm.was, hseen.symm.trans hn⟩
      · exact .inl (Option.some.inj (hn.symm.trans hseen))
    · exact .inr ⟨t, z₀, hz₀, z₀.seen?_told _ ▸ hn⟩
  | stored hx htasks =>
    rw [htasks] at hz
    split at hz
    · cases hz
    · split at hz
      · cases hz
        exact .inr ⟨_, _, hx, hn⟩
      · exact .inr ⟨t, z, hz, hn⟩

theorem Fresh.step (h : Fresh s) (howned : Owned s) (ho : Orderly s)
    (htended : Tended s.announcer) (hs : s.Step prompt s') : Fresh s' := by
  refine ⟨?_, ?_⟩
  · intro t x n hx hn
    refine Nat.le_trans ?_ hs.generation_le
    rcases hs.seen hx hn with rfl | ⟨t₀, x₀, hx₀, hn₀⟩
    · exact Nat.le_refl _
    · exact h.seen hx₀ hn₀
  · intro k id n record hmeant
    cases hs.meant ho htended hmeant with
    | kept hmeant₀ =>
      obtain ⟨t, x, hx, hn⟩ := hmeant₀.seen
      obtain ⟨hk, hstays⟩ := hmeant₀.keeps?
      exact (h.backed hmeant₀).step howned hk hstays (h.seen hx hn) hs
    | made hmade => exact .inl hmade.registered

end

end Scene

end ServiceDiscovery
