import ServiceDiscovery.Announcer.Step
import ServiceDiscovery.Multicast.Directory
import ServiceDiscovery.Scenario.Schedule

/-!
# A node alone on the network

A multicast directory with one announcer, on a network on which nobody else is
heard. A request to the directory takes as long as it takes; nothing else can
happen meanwhile, so that it is carried out in one step.
-/

namespace ServiceDiscovery

/-- A process of a node alone. -/
inductive MulticastProcess
  /-- The relay of a browse, and the tidying up after it. -/
  | relay (run : Nat)
  /-- A task of the announcer. -/
  | task (id : Nat)
  deriving DecidableEq, Repr

/-- A node alone on the network. -/
structure MulticastWorld where
  directory : MulticastDirectory := {}
  announcer : Announcer
  /-- The answers of the directory, by the tasks that wait for them. -/
  answers : Association Nat AnnouncerSignal := .empty
  /-- The number of the next announcement. -/
  nextAnnouncement : Nat := 0
  /-- The results of tasks that ended. -/
  results : Association Nat AnnouncerResult := .empty

namespace MulticastWorld

/-- Register a record: the probe for its name runs to the end. -/
def register (w : MulticastWorld) (record : ServiceRecord) :
    MulticastWorld × Except DiscoveryError Registration :=
  match w.directory.claim record 0 with
  | (directory, .error error) => ({ w with directory }, .error error)
  | (directory, .ok claim) =>
    let probed :=
      match directory.runs.get? claim.browse with
      | some run => claim.probe.finish run.browse
      | none => .ok ()
    let (directory, result) := directory.settle claim probed
    ({ w with directory }, result)

/-- Resolve a key: no address is ever learned after the wait began. -/
def resolve (w : MulticastWorld) (key : PeerKey) : Except DiscoveryError Endpoint :=
  match w.directory.book.lookUp key.fullName with
  | some endpoint => .ok endpoint
  | none => .error (.resolution key (.timedOut w.directory.settings.resolveTimeout))

/-- The world after an effect of the announcer. Handles are never dropped here
    without being withdrawn. -/
def applyEffect (w : MulticastWorld) : AnnouncerEffect → MulticastWorld
  | .register task record =>
    let (w, result) := w.register record
    { w with answers := w.answers.put task (.registered result) }
  | .withdraw task registration =>
    let (directory, _) := w.directory.withdraw registration.fullName
    { w with directory, answers := w.answers.put task .withdrawn }
  | .forgo task => { w with answers := w.answers.erase task }
  | .drop _ => w
  | .ended task result =>
    let nextAnnouncement :=
      match result with
      | .announced id _ => id + 1
      | _ => w.nextAnnouncement
    { w with nextAnnouncement, results := w.results.put task result }

/-- A task of the announcer reacts to a signal, if it waits for it. -/
def signal? (w : MulticastWorld) (task : Nat) (signal : AnnouncerSignal) : Option MulticastWorld :=
  let view :=
    { generation := w.directory.generation, now := 0, nextId := w.nextAnnouncement }
  (w.announcer.step? view task signal).map fun (announcer, effects) =>
    effects.foldl applyEffect { w with announcer }

/-- The next step of a task. -/
def stepTask? (w : MulticastWorld) (task : Nat) : Option MulticastWorld :=
  w.signal? task .stopped <|>
    ((w.answers.get? task).bind fun answer =>
      { w with answers := w.answers.erase task }.signal? task answer) <|>
    w.signal? task .proceed

/-- The next step of a relay, or the tidying up after it. -/
def stepRelay? (w : MulticastWorld) (run : Nat) : Option MulticastWorld :=
  let relayed :=
    w.directory.stepRelay? run .cancelled <|> w.directory.stepRelay? run .replaced <|>
      w.directory.stepRelay? run .report
  match relayed with
  | some directory => some { w with directory }
  | none => (w.directory.tidy? run).map fun (directory, _) => { w with directory }

/-- The next step of a process. -/
def step? (w : MulticastWorld) : MulticastProcess → Option MulticastWorld
  | .relay run => w.stepRelay? run
  | .task id => w.stepTask? id

/-- The processes: the relays and the tasks of the announcer. -/
def processes (w : MulticastWorld) : List MulticastProcess :=
  w.directory.runs.keys.map .relay ++ w.announcer.tasks.keys.map .task

/-- A node alone as a system of processes, without any waiting. -/
def system : TimedSystem MulticastWorld MulticastProcess where
  processes
  step? w _ p := w.step? p
  now _ := 0
  setNow w _ := w
  moments _ := []

/-- Let the processes run until none is ready. -/
def settle (w : MulticastWorld) : MulticastWorld := (system.settle [] w).2

/-- Run a task of the announcer to its end. -/
def await (w : MulticastWorld) (start : Announcer → Announcer × Nat) :
    MulticastWorld × Option AnnouncerResult :=
  let (announcer, task) := start w.announcer
  let w := { w with announcer }.settle
  ({ w with results := w.results.erase task }, w.results.get? task)

end MulticastWorld

end ServiceDiscovery
