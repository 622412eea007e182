import ServiceDiscovery.Announcer.Basic

/-!
# Steps of an announcer

`Announcer.step?` takes one task of an announcer one stage further. What a task
reacts to is a `Signal`: to go on by itself, the directory's answer, a timer,
or the order to stop; a signal that the task does not wait for is refused. A
step may put requests to the directory, and end the task with a result
(`AnnouncerEffect`).

`Announcer.abort` gives a task up between two steps. An announce that had
claimed the announcer gives the claim back; a release that was handed a handle
and did nothing yet drops the handle; a release that is given up while it waits
for the directory frees the lock and leaves the status as it is.

The steps that use the lock are those through `guarded`: a task that may not
enter joins the line instead, and has no further step until it may.
-/

namespace ServiceDiscovery

/-- What a task reacts to. -/
inductive AnnouncerSignal
  /-- Nothing from outside: the task goes on by itself. -/
  | proceed
  /-- The directory answered the request to register. -/
  | registered (result : Except DiscoveryError Registration)
  /-- The directory answered the request to withdraw, one way or the other. -/
  | withdrawn
  /-- The time waited for is up. -/
  | expired
  /-- The order to stop is noticed. -/
  | stopped

/-- How a task ended. -/
inductive AnnouncerResult
  /-- The record is announced, under a number. -/
  | announced (id : Nat) (record : ServiceRecord)
  | refused (error : DiscoveryError)
  | released
  /-- There is nothing left to supervise. -/
  | unattended

/-- What a step does outside of the announcer. -/
inductive AnnouncerEffect
  | register (task : Nat) (record : ServiceRecord)
  | withdraw (task : Nat) (registration : Registration)
  /-- The request of a task, if it has one under way, is given up. -/
  | forgo (task : Nat)
  /-- The handle of an announcement is dropped, which has it released. -/
  | drop (id : Nat)
  | ended (task : Nat) (result : AnnouncerResult)

/-- What an announcer sees of the world. -/
structure AnnouncerView where
  /-- The generation of the directory. -/
  generation : Nat
  /-- The time. -/
  now : Nat
  /-- The number of the next announcement. -/
  nextId : Nat
  deriving DecidableEq, Repr

namespace Announcer

/-- An announcer after a step, and what the step did outside. -/
abbrev Stepped := Announcer × List AnnouncerEffect

/-- A step through the lock: `act` on entering, or a place in the line. -/
def guarded (a : Announcer) (task : Nat) (act : Announcer → Stepped) : Option Stepped :=
  if a.mayEnter task then some (act (a.leaveLine task))
  else if task ∈ a.line then none
  else some (a.joinLine task, [])

/-- The end of a task. -/
def finish (a : Announcer) (task : Nat) (result : AnnouncerResult) : Stepped :=
  (a.endTask task, [.ended task result])

/-- The end of a task that may have a request under way. -/
def finishForgoing (a : Announcer) (task : Nat) (result : AnnouncerResult) : Stepped :=
  (a.endTask task, [.forgo task, .ended task result])

/-! ## Announcing -/

/-- Claim the announcer for a record, if nothing is announced. -/
def claim (task : Nat) (record : ServiceRecord) (a : Announcer) : Stepped :=
  if a.current.isSome || a.status != .unregistered then
    a.finish task (.refused (.invalidState "announce" a.status))
  else
    ({ a with status := .registering }.setTask task (.announce record .subscribing), [])

/-- Make a registered record the current announcement, with a supervisor. -/
def store (view : AnnouncerView) (task : Nat) (record : ServiceRecord) (seen : Nat)
    (registration : Registration) (a : Announcer) : Stepped :=
  let announcement := { id := view.nextId, record, registration := some registration }
  let a := { a with current := some announcement, status := .active }
  let (a, _) := a.spawn (.supervise view.nextId seen false .watching)
  a.finish task (.announced view.nextId record)

/-- One step of an `announce` task. -/
def stepAnnounce (a : Announcer) (view : AnnouncerView) (task : Nat) (record : ServiceRecord) :
    AnnounceStage → AnnouncerSignal → Option Stepped
  | .claiming, .proceed =>
    match recordFault? record with
    | some fault => some (a.finish task (.refused (.invalidRecord fault)))
    | none => a.guarded task (claim task record)
  | .subscribing, .proceed =>
    some (a.setTask task (.announce record (.registering view.generation)),
      [.register task record])
  | .registering seen, .registered (.ok registration) =>
    some (a.setTask task (.announce record (.storing seen registration)), [])
  | .registering _, .registered (.error error) =>
    some ({ a with status := .unregistered }.finish task (.refused error))
  | .storing seen registration, .proceed =>
    a.guarded task (store view task record seen registration)
  | _, _ => none

/-! ## Releasing -/

/-- Whether an announcement is one that a release is meant for. -/
def isTarget (target : Option Nat) (announcement : Announcement) : Bool :=
  target.all (· = announcement.id)

/-- Take the current announcement, if it is meant. -/
def take (view : AnnouncerView) (task : Nat) (target : Option Nat) (a : Announcer) : Stepped :=
  match a.current.filter (isTarget target) with
  | none => a.finish task .released
  | some announcement =>
    let a := { a with current := none, status := .withdrawing }.stopSupervisor announcement.id
    match announcement.registration with
    | none => { a with status := .unregistered }.finish task .released
    | some registration =>
      let deadline := view.now + a.settings.withdrawTimeout
      ({ a with holder := some task }.setTask task
          (.release target (.withdrawing registration deadline)),
        [.withdraw task registration])

/-- The end of a release that holds the lock. -/
def released (a : Announcer) (task : Nat) : Stepped :=
  { a with status := .unregistered, holder := none }.finishForgoing task .released

/-- One step of a `release` task. -/
def stepRelease (a : Announcer) (view : AnnouncerView) (task : Nat) (target : Option Nat) :
    ReleaseStage → AnnouncerSignal → Option Stepped
  | .handed, .proceed => some (a.setTask task (.release target .taking), [])
  | .taking, .proceed => a.guarded task (take view task target)
  | .withdrawing _ _, .withdrawn => some (a.released task)
  | .withdrawing _ deadline, .expired =>
    if deadline ≤ view.now then some (a.released task) else none
  | _, _ => none

/-! ## Supervising -/

/-- Whether the announcement of a number is the current one. -/
def isCurrent (a : Announcer) (id : Nat) : Bool := a.current.any (·.id = id)

/-- Forget the registration that the directory lost, and start over. -/
def forget (task id seen : Nat) (cancelled : Bool) (a : Announcer) : Stepped :=
  match a.current.filter (·.id = id) with
  | none => a.finish task .unattended
  | some announcement =>
    let stage := .calling announcement.record a.settings.reannounceBackoff
    let a :=
      { a with
        current := some { announcement with registration := none }
        status := .registering }
    (a.setTask task (.supervise id seen cancelled stage), [])

/-- Drop the announcement whose name is taken, if it is still current. -/
def drop (task id : Nat) (a : Announcer) : Stepped :=
  let a :=
    if a.isCurrent id then { a with current := none, status := .unregistered }.stopSupervisor id
    else a
  a.finish task .unattended

/-- Attach a new registration to the announcement, or withdraw it again if
    that was released meanwhile. -/
def adopt (view : AnnouncerView) (task id seen : Nat) (cancelled : Bool)
    (registration : Registration) (a : Announcer) : Stepped :=
  match a.current.filter (·.id = id) with
  | some announcement =>
    let a :=
      { a with
        current := some { announcement with registration := some registration }
        status := .active }
    (a.setTask task (.supervise id seen cancelled .watching), [])
  | none =>
    let deadline := view.now + a.settings.withdrawTimeout
    (a.setTask task (.supervise id seen cancelled (.returning registration deadline)),
      [.withdraw task registration])

/-- One step of a `supervise` task. -/
def stepSupervise (a : Announcer) (view : AnnouncerView) (task id seen : Nat) (cancelled : Bool) :
    SuperviseStage → AnnouncerSignal → Option Stepped
  | .watching, .proceed =>
    if view.generation = seen then none
    else some (a.setTask task (.supervise id view.generation cancelled .forgetting), [])
  | .watching, .stopped =>
    if cancelled then some (a.finish task .unattended) else none
  | .forgetting, .proceed => a.guarded task (forget task id seen cancelled)
  | .calling record backoff, .proceed =>
    some (a.setTask task (.supervise id seen cancelled (.registering record backoff)),
      [.register task record])
  | .calling _ _, .stopped =>
    if cancelled then some (a.finish task .unattended) else none
  | .registering _ _, .registered (.ok registration) =>
    some (a.setTask task (.supervise id seen cancelled (.adopting registration)), [])
  | .registering _ _, .registered (.error (.collision _)) =>
    some (a.setTask task (.supervise id seen cancelled .dropping), [])
  | .registering record backoff, .registered (.error _) =>
    let stage := .pausing record backoff.next (view.now + backoff.delay)
    some (a.setTask task (.supervise id seen cancelled stage), [])
  | .registering _ _, .stopped =>
    if cancelled then some (a.finishForgoing task .unattended) else none
  | .pausing record backoff moment, .expired =>
    if moment ≤ view.now then
      some (a.setTask task (.supervise id seen cancelled (.calling record backoff)), [])
    else none
  | .pausing _ _ _, .stopped =>
    if cancelled then some (a.finish task .unattended) else none
  | .dropping, .proceed => a.guarded task (drop task id)
  | .adopting registration, .proceed =>
    a.guarded task (adopt view task id seen cancelled registration)
  | .returning _ _, .withdrawn => some (a.finishForgoing task .unattended)
  | .returning _ deadline, .expired =>
    if deadline ≤ view.now then some (a.finishForgoing task .unattended) else none
  | _, _ => none

/-! ## Any task -/

/-- One step of a task on a signal, if the task waits for that signal. -/
def step? (a : Announcer) (view : AnnouncerView) (task : Nat) (signal : AnnouncerSignal) :
    Option Stepped :=
  match a.tasks.get? task with
  | none => none
  | some (.announce record stage) => a.stepAnnounce view task record stage signal
  | some (.release target stage) => a.stepRelease view task target stage signal
  | some (.supervise id seen cancelled stage) =>
    a.stepSupervise view task id seen cancelled stage signal

/-- Give an announce up: a claim is given back. -/
def abortAnnounce (a : Announcer) (task : Nat) : AnnounceStage → Stepped
  | .claiming => ((a.leaveLine task).endTask task, [])
  | _ => ({ a with status := .unregistered }.leaveLine task |>.endTask task, [.forgo task])

/-- Give a release up. A handle that nothing was done with yet is dropped. -/
def abortRelease (a : Announcer) (task : Nat) (target : Option Nat) : ReleaseStage → Stepped
  | .handed => (a.endTask task, (target.map .drop).toList)
  | .taking => ((a.leaveLine task).endTask task, [])
  | .withdrawing _ _ => ({ a with holder := none }.endTask task, [.forgo task])

/-- Give a task up between two steps. A supervisor cannot be given up. -/
def abort (a : Announcer) (task : Nat) : Stepped :=
  match a.tasks.get? task with
  | some (.announce _ stage) => a.abortAnnounce task stage
  | some (.release target stage) => a.abortRelease task target stage
  | _ => (a, [])

/-! ## Public operations -/

/-- Announce a record. The result comes with the end of the task. -/
def announce (a : Announcer) (record : ServiceRecord) : Announcer × Nat :=
  a.spawn (.announce record .claiming)

/-- Withdraw the announcement of a handle; one that is gone already is fine. -/
def withdraw (a : Announcer) (id : Nat) : Announcer × Nat :=
  a.spawn (.release (some id) .handed)

/-- Release the announcement of a handle that is dropped. -/
def dropHandle (a : Announcer) (id : Nat) : Announcer × Nat :=
  a.spawn (.release (some id) .taking)

/-- Withdraw whatever is announced. -/
def shutdown (a : Announcer) : Announcer × Nat := a.spawn (.release none .taking)

/-- The registration behind the current announcement. -/
def registration? (a : Announcer) : Option Registration := a.current.bind (·.registration)

end Announcer

end ServiceDiscovery
