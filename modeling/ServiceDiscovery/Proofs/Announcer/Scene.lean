import ServiceDiscovery.Scenario.World

/-!
# An announcer at its directory

A `Scene` is what matters to an announcer: its own state, the directory, and the
requests that its tasks have under way there. `Scene.Step` lists everything that
can happen in a scene, once and for all:

* the directory is scripted, or restarts;
* a task is started, waits in line for the lock, or goes on;
* a request is worked on, and its answer is taken;
* a task is given up.

A step is *prompt* if nothing is given up in it, and no request is while the
directory owes the answer.
-/

namespace ServiceDiscovery

namespace AnnouncerTask

/-- Whether a task has to enter the lock to go on. -/
def awaitsLock : AnnouncerTask → Bool
  | announce record .claiming => (Announcer.recordFault? record).isNone
  | announce _ (.storing _ _) => true
  | release _ .taking => true
  | supervise _ _ _ .forgetting | supervise _ _ _ .dropping | supervise _ _ _ (.adopting _) => true
  | _ => false

/-- Whether a task holds the lock. -/
def holdsLock : AnnouncerTask → Bool
  | release _ (.withdrawing _ _) => true
  | _ => false

/-- Whether a task has claimed the announcer. -/
def claims : AnnouncerTask → Bool
  | announce _ .claiming => false
  | announce _ _ => true
  | _ => false

/-- The record that a task waits to have registered. -/
def asked? : AnnouncerTask → Option ServiceRecord
  | announce record (.registering _) => some record
  | supervise _ _ _ (.registering record _) => some record
  | _ => none

/-- Whether a task waits to have a registration withdrawn. -/
def givesBack : AnnouncerTask → Bool
  | release _ (.withdrawing _ _) => true
  | supervise _ _ _ (.returning _ _) => true
  | _ => false

/-- The registration that a task has in hand. -/
def inHand? : AnnouncerTask → Option Registration
  | announce _ (.storing _ registration) => some registration
  | supervise _ _ _ (.adopting registration) => some registration
  | _ => none

/-- The generation of the directory that a task has noticed. -/
def seen? : AnnouncerTask → Option Nat
  | announce _ (.registering seen) | announce _ (.storing seen _) => some seen
  | supervise _ seen _ _ => some seen
  | _ => none

/-- The announcement that a task supervises. -/
def supervises? : AnnouncerTask → Option Nat
  | supervise id _ _ _ => some id
  | _ => none

/-- A task that holds the lock does not wait for it. -/
theorem awaitsLock_of_holdsLock {x : AnnouncerTask} (h : x.holdsLock = true) :
    x.awaitsLock = false := by
  cases x with
  | release target stage =>
    cases stage with
    | withdrawing => rfl
    | handed | taking => cases h
  | announce | supervise => cases h

/-- A task that has a registration in hand waits for the lock. -/
theorem awaitsLock_of_inHand? {x : AnnouncerTask} {registration : Registration}
    (h : x.inHand? = some registration) : x.awaitsLock = true := by
  cases x with
  | announce record stage =>
    cases stage with
    | storing => rfl
    | claiming | subscribing | registering => cases h
  | release => cases h
  | supervise id seen cancelled stage =>
    cases stage with
    | adopting => rfl
    | watching | forgetting | calling | registering | pausing | dropping | returning => cases h

/-! ## How tasks go on -/

/-- A task goes on without the lock and without a request. -/
inductive Advances (generation : Nat) : AnnouncerTask → AnnouncerTask → Prop
  | handed {target : Option Nat} :
      Advances generation (.release target .handed) (.release target .taking)
  /-- A supervisor notices that the directory has restarted. -/
  | noticed {id seen : Nat} {cancelled : Bool} : generation ≠ seen →
      Advances generation (.supervise id seen cancelled .watching)
        (.supervise id generation cancelled .forgetting)
  | rested {id seen moment : Nat} {cancelled : Bool} {record : ServiceRecord} {backoff : Backoff} :
      Advances generation (.supervise id seen cancelled (.pausing record backoff moment))
        (.supervise id seen cancelled (.calling record backoff))

/-- A task asks the directory to register a record. -/
inductive Asks (generation : Nat) (record : ServiceRecord) : AnnouncerTask → AnnouncerTask → Prop
  | announce : Asks generation record (.announce record .subscribing)
      (.announce record (.registering generation))
  | supervise {id seen : Nat} {cancelled : Bool} {backoff : Backoff} :
      Asks generation record (.supervise id seen cancelled (.calling record backoff))
        (.supervise id seen cancelled (.registering record backoff))

/-- A task gets the registration that it asked for. -/
inductive Gains (registration : Registration) : AnnouncerTask → AnnouncerTask → Prop
  | announce {seen : Nat} {record : ServiceRecord} :
      Gains registration (.announce record (.registering seen))
        (.announce record (.storing seen registration))
  | supervise {id seen : Nat} {cancelled : Bool} {record : ServiceRecord} {backoff : Backoff} :
      Gains registration (.supervise id seen cancelled (.registering record backoff))
        (.supervise id seen cancelled (.adopting registration))

/-- A supervisor is refused the registration that it asked for. -/
inductive Fails : AnnouncerTask → AnnouncerTask → Prop
  | collision {id seen : Nat} {cancelled : Bool} {record : ServiceRecord} {backoff : Backoff} :
      Fails (.supervise id seen cancelled (.registering record backoff))
        (.supervise id seen cancelled .dropping)
  | again {id seen moment : Nat} {cancelled : Bool} {record : ServiceRecord}
      {backoff backoff' : Backoff} :
      Fails (.supervise id seen cancelled (.registering record backoff))
        (.supervise id seen cancelled (.pausing record backoff' moment))

/-- A task may end that has nothing in hand and no request under way. -/
inductive Quits (a : Announcer) : AnnouncerTask → Prop
  | refused {record : ServiceRecord} : Quits a (.announce record .claiming)
  | handed {target : Option Nat} : Quits a (.release target .handed)
  | taking {target : Option Nat} : Quits a (.release target .taking)
  | watching {id seen : Nat} : Quits a (.supervise id seen true .watching)
  | calling {id seen : Nat} {record : ServiceRecord} {backoff : Backoff} :
      Quits a (.supervise id seen true (.calling record backoff))
  | pausing {id seen moment : Nat} {record : ServiceRecord} {backoff : Backoff} :
      Quits a (.supervise id seen true (.pausing record backoff moment))
  /-- The announcement is not the current one any more. -/
  | forgetting {id seen : Nat} {cancelled : Bool} : a.isCurrent id = false →
      Quits a (.supervise id seen cancelled .forgetting)
  | dropping {id seen : Nat} {cancelled : Bool} : a.isCurrent id = false →
      Quits a (.supervise id seen cancelled .dropping)

/-- A task may end that has a request under way, which is given up. -/
inductive Leaves : AnnouncerTask → Prop
  | registering {id seen : Nat} {record : ServiceRecord} {backoff : Backoff} :
      Leaves (.supervise id seen true (.registering record backoff))
  | returning {id seen deadline : Nat} {cancelled : Bool} {registration : Registration} :
      Leaves (.supervise id seen cancelled (.returning registration deadline))

/-- A task that was just started. -/
inductive Starts : AnnouncerTask → Prop
  | announce {record : ServiceRecord} : Starts (.announce record .claiming)
  | handed {target : Option Nat} : Starts (.release target .handed)
  | taking {target : Option Nat} : Starts (.release target .taking)

end AnnouncerTask

/-- The record that is still to be registered on a request. -/
def RegisterCall.record? : RegisterCall → Option ServiceRecord
  | delayed record _ | requested record _ | admitted record _ => some record
  | _ => none

/-- The registration that the answer to a request tells of. -/
def RegisterCall.gained? : RegisterCall → Option Registration
  | answered (.ok registration) _ => some registration
  | _ => none

/-- The registration that is still to be withdrawn on a request. -/
def WithdrawCall.pending? : WithdrawCall → Option Nat
  | requested id | delayed id _ => some id
  | answered => none

/-- An announcer, its directory, and the requests of its tasks. -/
structure Scene where
  announcer : Announcer
  registry : Registry
  registers : Nat → Option RegisterCall
  withdrawals : Nat → Option WithdrawCall
  /-- The number of the next announcement. -/
  nextId : Nat

namespace Scene

/-- A function with another value for one task. -/
def assign {α : Type} (f : Nat → Option α) (task : Nat) (value : Option α) : Nat → Option α :=
  fun t => if t = task then value else f t

theorem assign_assign {α : Type} (f : Nat → Option α) (t : Nat) (u v : Option α) :
    assign (assign f t u) t v = assign f t v := by
  funext t'
  unfold assign
  split <;> rfl

theorem assign_eq_some {α : Type} {f : Nat → Option α} {t t' : Nat} {value : Option α} {x : α}
    (h : assign f t value t' = some x) : (t' = t ∧ value = some x) ∨ (t' ≠ t ∧ f t' = some x) := by
  unfold assign at h
  split at h
  · exact .inl ⟨‹_›, h⟩
  · exact .inr ⟨‹_›, h⟩

/-- Directories that hold the same registrations and are as old. -/
def SameStock (r r' : Registry) : Prop :=
  r'.registrations = r.registrations ∧ r'.lastId = r.lastId ∧ r'.generation = r.generation

/-- The directory owes a task nothing that would be lost with the task. -/
def Settles (s : Scene) (task : Nat) : Prop :=
  (s.registers task).bind RegisterCall.gained? = none ∧
    (s.withdrawals task).bind WithdrawCall.pending? = none

/-- What can happen in a scene. -/
inductive Step (prompt : Prop) (s : Scene) : Scene → Prop
  | script {registry : Registry} : SameStock s.registry registry →
      Step prompt s { s with registry }
  | restart : Step prompt s { s with registry := s.registry.restart }
  | start {x : AnnouncerTask} : x.Starts →
      Step prompt s { s with announcer := (s.announcer.spawn x).1 }
  | join {t : Nat} {x : AnnouncerTask} : s.announcer.tasks.get? t = some x →
      x.awaitsLock = true → Step prompt s { s with announcer := s.announcer.joinLine t }
  | advance {t : Nat} {x y : AnnouncerTask} : s.announcer.tasks.get? t = some x →
      x.Advances s.registry.generation y →
      Step prompt s { s with announcer := s.announcer.setTask t y }
  | quit {t : Nat} {x : AnnouncerTask} {a : Announcer} : s.announcer.tasks.get? t = some x →
      x.Quits s.announcer → a = s.announcer.leaveLine t ∨ x.awaitsLock = false ∧ a = s.announcer →
      Step prompt s { s with announcer := a.endTask t }
  | leave {t : Nat} {x : AnnouncerTask} : s.announcer.tasks.get? t = some x → x.Leaves →
      (prompt → s.Settles t) →
      Step prompt s
        { s with
          announcer := s.announcer.endTask t
          registers := assign s.registers t none
          withdrawals := assign s.withdrawals t none }
  -- Requests to register.
  | ask {t : Nat} {x y : AnnouncerTask} {record : ServiceRecord} {call : RegisterCall} :
      s.announcer.tasks.get? t = some x → x.Asks s.registry.generation record y →
      call.record? = some record →
      Step prompt s
        { s with
          announcer := s.announcer.setTask t y
          registers := assign s.registers t (some call) }
  | progress {t : Nat} {call call' : RegisterCall} {registry : Registry} :
      s.registers t = some call → call.gained? = none → call'.gained? = none →
      (∀ record, call'.record? = some record → call.record? = some record) →
      SameStock s.registry registry →
      Step prompt s { s with registry, registers := assign s.registers t (some call') }
  | commit {t due lag : Nat} {record : ServiceRecord} {fullName : String} :
      s.registers t = some (.admitted record lag) →
      Step prompt s
        { s with
          registry :=
            { s.registry with
              lastId := s.registry.lastId + 1
              registrations := s.registry.registrations.put (s.registry.lastId + 1) record }
          registers :=
            assign s.registers t (some (.answered (.ok ⟨s.registry.lastId + 1, fullName⟩) due)) }
  | gain {t due : Nat} {x y : AnnouncerTask} {registration : Registration} :
      s.announcer.tasks.get? t = some x →
      s.registers t = some (.answered (.ok registration) due) → x.Gains registration y →
      Step prompt s
        { s with
          announcer := s.announcer.setTask t y
          registers := assign s.registers t none }
  | fail {t due : Nat} {x y : AnnouncerTask} {error : DiscoveryError} :
      s.announcer.tasks.get? t = some x → s.registers t = some (.answered (.error error) due) →
      x.Fails y →
      Step prompt s
        { s with
          announcer := s.announcer.setTask t y
          registers := assign s.registers t none }
  | refuse {t due seen : Nat} {record : ServiceRecord} {error : DiscoveryError} :
      s.announcer.tasks.get? t = some (.announce record (.registering seen)) →
      s.registers t = some (.answered (.error error) due) →
      Step prompt s
        { s with
          announcer := { s.announcer with status := .unregistered }.endTask t
          registers := assign s.registers t none }
  -- The announcement.
  | claim {t : Nat} {record : ServiceRecord} :
      s.announcer.tasks.get? t = some (.announce record .claiming) →
      Announcer.recordFault? record = none → s.announcer.holder = none →
      s.announcer.current = none → s.announcer.status = .unregistered →
      Step prompt s
        { s with
          announcer := { s.announcer.leaveLine t with status := .registering }.setTask t
            (.announce record .subscribing) }
  | store {t seen : Nat} {record : ServiceRecord} {registration : Registration} :
      s.announcer.tasks.get? t = some (.announce record (.storing seen registration)) →
      s.announcer.holder = none →
      Step prompt s
        { s with
          announcer :=
            ({ s.announcer.leaveLine t with
                current := some { id := s.nextId, record, registration := some registration }
                status := .active }.spawn
              (.supervise s.nextId seen false .watching)).1.endTask t
          nextId := s.nextId + 1 }
  | takeLost {t : Nat} {target : Option Nat} {announcement : Announcement} :
      s.announcer.tasks.get? t = some (.release target .taking) →
      s.announcer.holder = none → s.announcer.current = some announcement →
      announcement.registration = none →
      Step prompt s
        { s with
          announcer :=
            { { s.announcer.leaveLine t with
                current := none
                status := .withdrawing }.stopSupervisor announcement.id with
              status := .unregistered }.endTask t }
  | take {t deadline : Nat} {target : Option Nat} {announcement : Announcement}
      {registration : Registration} :
      s.announcer.tasks.get? t = some (.release target .taking) →
      s.announcer.holder = none → s.announcer.current = some announcement →
      announcement.registration = some registration →
      Step prompt s
        { s with
          announcer :=
            { { s.announcer.leaveLine t with
                current := none
                status := .withdrawing }.stopSupervisor announcement.id with
              holder := some t }.setTask t (.release target (.withdrawing registration deadline))
          withdrawals := assign s.withdrawals t (some (.requested registration.id)) }
  | released {t deadline : Nat} {target : Option Nat} {registration : Registration} :
      s.announcer.tasks.get? t = some (.release target (.withdrawing registration deadline)) →
      (prompt → s.Settles t) →
      Step prompt s
        { s with
          announcer := { s.announcer with status := .unregistered, holder := none }.endTask t
          registers := assign s.registers t none
          withdrawals := assign s.withdrawals t none }
  | forget {t id seen : Nat} {cancelled : Bool} {announcement : Announcement} {backoff : Backoff} :
      s.announcer.tasks.get? t = some (.supervise id seen cancelled .forgetting) →
      s.announcer.current = some announcement → announcement.id = id →
      Step prompt s
        { s with
          announcer :=
            { s.announcer.leaveLine t with
              current := some { announcement with registration := none }
              status := .registering }.setTask t
                (.supervise id seen cancelled (.calling announcement.record backoff)) }
  | drop {t id seen : Nat} {cancelled : Bool} {announcement : Announcement} :
      s.announcer.tasks.get? t = some (.supervise id seen cancelled .dropping) →
      s.announcer.current = some announcement → announcement.id = id →
      Step prompt s
        { s with
          announcer :=
            ({ s.announcer.leaveLine t with
                current := none
                status := .unregistered }.stopSupervisor id).endTask t }
  | adopt {t id seen : Nat} {cancelled : Bool} {announcement : Announcement}
      {registration : Registration} :
      s.announcer.tasks.get? t = some (.supervise id seen cancelled (.adopting registration)) →
      s.announcer.current = some announcement → announcement.id = id →
      Step prompt s
        { s with
          announcer :=
            { s.announcer.leaveLine t with
              current := some { announcement with registration := some registration }
              status := .active }.setTask t (.supervise id seen cancelled .watching) }
  -- Requests to withdraw.
  | giveBack {t id seen deadline : Nat} {cancelled : Bool} {registration : Registration} :
      s.announcer.tasks.get? t = some (.supervise id seen cancelled (.adopting registration)) →
      s.announcer.isCurrent id = false →
      Step prompt s
        { s with
          announcer := (s.announcer.leaveLine t).setTask t
            (.supervise id seen cancelled (.returning registration deadline))
          withdrawals := assign s.withdrawals t (some (.requested registration.id)) }
  | delay {t id moment : Nat} : s.withdrawals t = some (.requested id) →
      Step prompt s { s with withdrawals := assign s.withdrawals t (some (.delayed id moment)) }
  | unregister {t id : Nat} {call : WithdrawCall} : s.withdrawals t = some call →
      call.pending? = some id →
      Step prompt s
        { s with
          registry := s.registry.unregister id
          withdrawals := assign s.withdrawals t (some .answered) }
  -- Giving up.
  | abandon {t : Nat} {x : AnnouncerTask} : ¬prompt → s.announcer.tasks.get? t = some x →
      x.claims = true →
      Step prompt s
        { s with
          announcer := ({ s.announcer with status := .unregistered }.leaveLine t).endTask t
          registers := assign s.registers t none
          withdrawals := assign s.withdrawals t none }
  | letGo {t : Nat} {x : AnnouncerTask} : ¬prompt → s.announcer.tasks.get? t = some x →
      x.holdsLock = true →
      Step prompt s
        { s with
          announcer := { s.announcer with holder := none }.endTask t
          registers := assign s.registers t none
          withdrawals := assign s.withdrawals t none }

end Scene

end ServiceDiscovery
