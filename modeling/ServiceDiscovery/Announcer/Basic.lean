import ServiceDiscovery.Directory.Event
import ServiceDiscovery.Error
import ServiceDiscovery.Settings

/-!
# Announcers

An announcer keeps at most one record registered with a directory. What it
publishes is its status; what it holds under its lock is the current
announcement.

Everything it does is done by *tasks*, which run concurrently:

* an `announce` task claims the announcer, registers the record without the
  lock, and stores the announcement;
* a `release` task takes the current announcement and withdraws it, holding
  the lock until the directory answers or the time for it is up;
* a `supervise` task, one for each announcement, registers the record again
  when the directory has restarted, until the announcement is released.

A task stands at one of the stages below, between which other tasks may run.
The lock is fair: a task that finds it taken waits in line, and only the first
in line may enter.
-/

namespace ServiceDiscovery

/-- What is announced. -/
structure Announcement where
  /-- The number of the announcement, never used again. -/
  id : Nat
  record : ServiceRecord
  /-- The registration behind it; none while the directory has lost the record
      and it is being registered again. -/
  registration : Option Registration
  deriving DecidableEq

/-- How far an `announce` task is. -/
inductive AnnounceStage
  /-- About to check the record and to claim the announcer. -/
  | claiming
  /-- Claimed; about to note the directory's generation and to register. -/
  | subscribing
  /-- Waiting for the directory, whose generation was `seen` before. -/
  | registering (seen : Nat)
  /-- Registered; about to store the announcement. -/
  | storing (seen : Nat) (registration : Registration)
  deriving DecidableEq, Repr

/-- How far a `release` task is. -/
inductive ReleaseStage
  /-- Handed a handle, and nothing done with it yet. -/
  | handed
  /-- About to take the announcement. -/
  | taking
  /-- Holding the lock and waiting for the directory, until the deadline. -/
  | withdrawing (registration : Registration) (deadline : Nat)
  deriving DecidableEq, Repr

/-- How far a `supervise` task is. -/
inductive SuperviseStage
  /-- Waiting for the directory to restart. -/
  | watching
  /-- It restarted; about to forget the registration. -/
  | forgetting
  /-- About to register the record again. -/
  | calling (record : ServiceRecord) (backoff : Backoff)
  /-- Waiting for the directory. -/
  | registering (record : ServiceRecord) (backoff : Backoff)
  /-- Refused; waiting until a moment for the next attempt. -/
  | pausing (record : ServiceRecord) (backoff : Backoff) (until_ : Nat)
  /-- The name is taken; about to drop the announcement. -/
  | dropping
  /-- Registered again; about to attach the registration. -/
  | adopting (registration : Registration)
  /-- The announcement was released meanwhile; withdrawing what was registered
      for it, until the deadline. -/
  | returning (registration : Registration) (deadline : Nat)
  deriving DecidableEq

/-- One activity of an announcer. -/
inductive AnnouncerTask
  | announce (record : ServiceRecord) (stage : AnnounceStage)
  /-- Releases the announcement of a number, or any. -/
  | release (target : Option Nat) (stage : ReleaseStage)
  /-- Supervises the announcement `id`; `seen` is the directory generation it
      has noticed, `cancelled` whether it was told to stop. -/
  | supervise (id seen : Nat) (cancelled : Bool) (stage : SuperviseStage)
  deriving DecidableEq

/-- An announcer with its tasks. -/
structure Announcer where
  settings : AnnouncerSettings := {}
  status : AnnouncerStatus := .unregistered
  current : Option Announcement := none
  /-- The release that holds the lock across its stages. -/
  holder : Option Nat := none
  /-- The tasks in line for the lock. -/
  line : List Nat := []
  tasks : Association Nat AnnouncerTask := .empty
  nextTask : Nat := 0
  deriving DecidableEq, Inhabited

namespace Announcer

/-- What is wrong with a record, if anything; of several faults the first of
    instance, service type and port. -/
def recordFault? (record : ServiceRecord) : Option RecordFault :=
  if record.instanceName.isEmpty then some .emptyInstance
  else if record.serviceType.isEmpty then some .emptyServiceType
  else if record.port = 0 then some .zeroPort
  else none

/-- Whether a record may be announced. -/
def ValidRecord (record : ServiceRecord) : Prop :=
  record.instanceName ≠ "" ∧ record.serviceType ≠ "" ∧ record.port ≠ 0

/-- Whether the lock is taken or spoken for. -/
def locked (a : Announcer) : Bool := a.holder.isSome || !a.line.isEmpty

/-- Whether a task may enter the lock now. -/
def mayEnter (a : Announcer) (task : Nat) : Bool :=
  a.holder.isNone && (a.line.isEmpty || a.line.head? = some task)

/-- The announcer with a task out of the line. -/
def leaveLine (a : Announcer) (task : Nat) : Announcer :=
  { a with line := a.line.filter (· ≠ task) }

/-- The announcer with a task last in line. -/
def joinLine (a : Announcer) (task : Nat) : Announcer := { a with line := a.line ++ [task] }

/-- The announcer with a task at another stage. -/
def setTask (a : Announcer) (task : Nat) (activity : AnnouncerTask) : Announcer :=
  { a with tasks := a.tasks.put task activity }

/-- The announcer without a task. -/
def endTask (a : Announcer) (task : Nat) : Announcer := { a with tasks := a.tasks.erase task }

/-- The announcer with a new task, and its number. -/
def spawn (a : Announcer) (activity : AnnouncerTask) : Announcer × Nat :=
  ({ a with tasks := a.tasks.put a.nextTask activity, nextTask := a.nextTask + 1 }, a.nextTask)

/-- Tell the supervisor of an announcement to stop. -/
def stopSupervisor (a : Announcer) (id : Nat) : Announcer :=
  { a with
    tasks := a.tasks.mapValues fun _ activity =>
      match activity with
      | .supervise i seen cancelled stage => .supervise i seen (cancelled || i = id) stage
      | other => other }

end Announcer

end ServiceDiscovery
