import ServiceDiscovery.Announcer.Step
import ServiceDiscovery.Directory.Call
import ServiceDiscovery.Scenario.Schedule
import ServiceDiscovery.Subscription.Step
import ServiceDiscovery.View.Follower

/-!
# A simulated network

One directory in memory, with announcers, subscriptions and a view that use
it, and a clock that stands still while they act. Every activity is a process:
the tasks of the announcers, the subscriptions and their resolutions, the view,
its followers, and requests put to the directory directly.

`World.step?` is the next step of a process. Where a task could go on in
several ways it stops if it was told to, then takes an answer, and then lets
time run out. A subscription reads its stream to the end before it looks at its
resolutions, and of these takes the one that became ready first.
-/

namespace ServiceDiscovery

/-- A task of an announcer, by the announcer's name. -/
structure TaskRef where
  announcer : String
  task : Nat
  deriving DecidableEq, Repr

/-- A process of a simulated network. -/
inductive Process
  | announcer (task : TaskRef)
  | subscription (id : Nat)
  /-- A resolution of a subscription, by its ticket. It is ready when it can go
      on; its subscription takes the step. -/
  | resolution (id ticket : Nat)
  | request (id : Nat)
  | follower (id : Nat)
  | view
  deriving DecidableEq, Repr

/-- A subscription with its stream and its subscriber. -/
structure Listener where
  subscription : Subscription
  /-- The number of the stream it reads. -/
  stream : Nat
  /-- The gates at which resolutions wait, by ticket. -/
  gates : Association Nat Nat := .empty
  /-- The events the subscriber has not read. -/
  inbox : List PeerEvent := []
  /-- Whether the subscriber went away. -/
  deserted : Bool := false

/-- A request put to the directory directly. -/
inductive DirectRequest
  | register (call : RegisterCall)
  | withdraw (call : WithdrawCall)
  | resolve (key : PeerKey) (gate : Option Nat)

/-- The handle of an announcement. -/
structure Handle where
  announcer : String
  id : Nat
  deriving DecidableEq, Repr

/-- What a named task came to. -/
inductive TaskResult
  | announced (id : Nat) (record : ServiceRecord)
  | registered (registration : Registration)
  | resolved (endpoint : Endpoint)
  | failed (error : DiscoveryError)
  | done
  | aborted
  deriving DecidableEq

/-- A simulated network. -/
structure World where
  /-- The time, in nanoseconds. -/
  now : Nat := 0
  /-- The number of the command being performed; the view's clock. -/
  step : Nat := 0
  announcerSettings : AnnouncerSettings := {}
  browserSettings : BrowserSettings := {}
  registry : Registry := {}
  lag : RegisterLag := .none
  announcers : Association String Announcer := .empty
  nextAnnouncement : Nat := 0
  /-- The announcers to which announcements belong. -/
  owners : Association Nat String := .empty
  registerCalls : Association TaskRef RegisterCall := .empty
  withdrawCalls : Association TaskRef WithdrawCall := .empty
  listeners : Association Nat Listener := .empty
  requests : Association Nat DirectRequest := .empty
  view : View Nat := {}
  /-- The answers of the view that were not taken yet. -/
  replies : Association Nat (ViewReply Nat) := .empty
  nextAsker : Nat := 0
  /-- The followers, each under the number of its subscription. -/
  followers : Association Nat Follower := .empty
  /-- The next number of a listener or a direct request. -/
  nextId : Nat := 0
  /-- The processes to be given up, by their names. -/
  aborting : List Process := []
  /-- The names of running processes. -/
  names : Association Process String := .empty
  /-- The results of named tasks, oldest first. -/
  results : List (String × TaskResult) := []

namespace World

/-- Note the result of a process, if it has a name. -/
def conclude (w : World) (p : Process) (result : TaskResult) : World :=
  match w.names.get? p with
  | none => w
  | some name =>
    { w with names := w.names.erase p, results := w.results ++ [(name, result)] }

/-- The announcer of a name, made when it is first asked for. -/
def announcer (w : World) (name : String) : Announcer :=
  (w.announcers.get? name).getD { settings := w.announcerSettings }

/-- The world with an announcer in another state. -/
def setAnnouncer (w : World) (name : String) (a : Announcer) : World :=
  { w with announcers := w.announcers.put name a }

/-- Start a task of an announcer: its number. -/
def startTask (w : World) (name : String) (start : Announcer → Announcer × Nat) : World × Nat :=
  let (a, task) := start (w.announcer name)
  (w.setAnnouncer name a, task)

/-- Release the announcement of a handle that is dropped. -/
def dropHandle (w : World) (id : Nat) : World :=
  match w.owners.get? id with
  | none => w
  | some name => (w.startTask name (·.dropHandle id)).1

/-! ## Announcers -/

/-- What the end of a task is noted as. -/
def noted : AnnouncerResult → TaskResult
  | .announced id record => .announced id record
  | .refused error => .failed error
  | .released | .unattended => .done

/-- What a step of an announcer does outside of it. -/
def applyEffect (announcer : String) (w : World) : AnnouncerEffect → World
  | .register task record =>
    { w with
      registerCalls := w.registerCalls.put ⟨announcer, task⟩ (.start w.lag w.now record) }
  | .withdraw task registration =>
    { w with
      withdrawCalls := w.withdrawCalls.put ⟨announcer, task⟩ (.requested registration.id) }
  | .forgo task =>
    { w with
      registerCalls := w.registerCalls.erase ⟨announcer, task⟩
      withdrawCalls := w.withdrawCalls.erase ⟨announcer, task⟩ }
  | .drop id => w.dropHandle id
  | .ended task result =>
    let w :=
      match result with
      | .announced id _ =>
        { w with owners := w.owners.put id announcer, nextAnnouncement := id + 1 }
      | _ => w
    w.conclude (.announcer ⟨announcer, task⟩) (noted result)

/-- The world after a step of an announcer. -/
def afterAnnouncer (w : World) (name : String) (stepped : Announcer.Stepped) : World :=
  stepped.2.foldl (applyEffect name) (w.setAnnouncer name stepped.1)

/-- What an announcer sees of the world. -/
def announcerView (w : World) : AnnouncerView where
  generation := w.registry.generation
  now := w.now
  nextId := w.nextAnnouncement

/-- A task reacts to a signal, if it waits for it. -/
def signal? (w : World) (t : TaskRef) (signal : AnnouncerSignal) : Option World :=
  (w.announcers.get? t.announcer).bind fun a =>
    (a.step? w.announcerView t.task signal).map (w.afterAnnouncer t.announcer)

/-- The request to register of a task goes on, or its answer is taken. -/
def stepRegisterCall? (w : World) (t : TaskRef) : Option World :=
  (w.registerCalls.get? t).bind fun call =>
    match call.result? w.now with
    | some result =>
      { w with registerCalls := w.registerCalls.erase t }.signal? t (.registered result)
    | none =>
      (call.advance? w.registry w.now).map fun (registry, call) =>
        { w with registry, registerCalls := w.registerCalls.put t call }

/-- The request to withdraw of a task goes on, or its answer is taken. -/
def stepWithdrawCall? (w : World) (t : TaskRef) : Option World :=
  (w.withdrawCalls.get? t).bind fun call =>
    if call = .answered then
      { w with withdrawCalls := w.withdrawCalls.erase t }.signal? t .withdrawn
    else
      (call.advance? w.registry w.now).map fun (registry, call) =>
        { w with registry, withdrawCalls := w.withdrawCalls.put t call }

/-- Give a task up. -/
def abortTask (w : World) (t : TaskRef) : World :=
  let p := Process.announcer t
  let w := w.afterAnnouncer t.announcer ((w.announcer t.announcer).abort t.task)
  { w with aborting := w.aborting.filter (· ≠ p) }.conclude p .aborted

/-- The next step of a task. -/
def stepTask? (w : World) (t : TaskRef) : Option World :=
  if .announcer t ∈ w.aborting then some (w.abortTask t)
  else
    w.signal? t .stopped <|> w.stepRegisterCall? t <|> w.stepWithdrawCall? t <|>
      w.signal? t .proceed <|> w.signal? t .expired

/-! ## Subscriptions -/

/-- Subscribe to a service type: the number of a new listener, if the directory
    lets it watch. -/
def subscribe (w : World) (serviceType : String) : World × Except DiscoveryError Nat :=
  if serviceType.isEmpty then (w, .error (.invalidRecord .emptyServiceType))
  else
    match w.registry.watch serviceType with
    | (registry, .error error) => ({ w with registry }, .error error)
    | (registry, .ok stream) =>
      let id := w.nextId
      let listener := { subscription := .start w.browserSettings serviceType, stream }
      ({ w with registry, listeners := w.listeners.put id listener, nextId := id + 1 }, .ok id)

/-- Give up the gates at which no resolution of a listener waits any more. -/
def settleGates (w : World) (id : Nat) (l : Listener) : World :=
  let waiting (ticket : Nat) : Bool :=
    (l.subscription.resolutions.get? ticket).any (·.stage = .waiting)
  let given := l.gates.bindings.filter fun (ticket, _) => !waiting ticket
  let registry := given.foldl (fun r (_, gate) => r.abandonGate gate) w.registry
  let l := { l with gates := l.gates.filter fun ticket _ => waiting ticket }
  { w with registry, listeners := w.listeners.put id l }

/-- A subscription reacts to a signal, if it waits for it. -/
def signalListener? (w : World) (id : Nat) (l : Listener) (signal : SubscriptionSignal) :
    Option World :=
  (l.subscription.step? w.now signal).map fun (subscription, events) =>
    let inbox := if l.deserted then [] else l.inbox ++ events
    w.settleGates id { l with subscription, inbox }

/-- The answer for which a resolution waits at a gate. -/
def gateAnswer? (w : World) (l : Listener) (ticket : Nat) : Option (Option Endpoint) :=
  ((l.gates.get? ticket).bind w.registry.gates.get?).bind (·.answer)

/-- Whether a resolution can go on. -/
def resolutionReady (w : World) (l : Listener) (ticket : Nat) (r : Resolution) : Bool :=
  r.cancelled ||
    match r.stage with
    | .asking => true
    | .waiting => (w.gateAnswer? l ticket).isSome
    | .pausing moment => moment ≤ w.now

/-- The next step of a resolution. -/
def stepResolution? (w : World) (id : Nat) (l : Listener) (ticket : Nat) (r : Resolution) :
    Option World :=
  if r.cancelled then w.signalListener? id l (.stopped ticket)
  else
    match r.stage with
    | .asking =>
      let (registry, resolving) := w.registry.resolve r.key
      let w := { w with registry }
      match resolving with
      | .found endpoint => w.signalListener? id l (.answered ticket (some endpoint))
      | .failed => w.signalListener? id l (.answered ticket none)
      | .held gate =>
        w.signalListener? id { l with gates := l.gates.put ticket gate } (.asked ticket)
    | .waiting =>
      (w.gateAnswer? l ticket).bind fun result =>
        w.signalListener? id l (.answered ticket result)
    | .pausing _ => w.signalListener? id l (.rested ticket)

/-- The resolution of a listener that became ready first. -/
def firstReady? (queue : List Process) (id : Nat) (l : Listener) : Option (Nat × Resolution) :=
  queue.findSome? fun p =>
    match p with
    | .resolution i ticket =>
      if i = id then (l.subscription.resolutions.get? ticket).map (ticket, ·) else none
    | _ => none

/-- The resolution of a listener that goes on next: the one in the queue, or
    the oldest if none was put there yet. -/
def nextResolution? (w : World) (queue : List Process) (id : Nat) (l : Listener) :
    Option (Nat × Resolution) :=
  let ready := l.subscription.resolutions.bindings.filter fun (t, r) => w.resolutionReady l t r
  (firstReady? queue id l).filter (fun (t, r) => w.resolutionReady l t r) <|> ready.head?

/-- The next step of a subscription. -/
def stepListener? (w : World) (queue : List Process) (id : Nat) : Option World :=
  (w.listeners.get? id).bind fun l =>
    if l.subscription.cancelled then
      { w with registry := w.registry.dropStream l.stream }.signalListener? id l .cancelled
    else
      match l.subscription.phase with
      | .listening =>
        match w.registry.receive l.stream with
        | (registry, .event event) =>
          { w with registry }.signalListener? id l (.event event)
        | (registry, .ended) =>
          { w with registry := registry.dropStream l.stream }.signalListener? id l .lost
        | (_, .waiting) =>
          (w.nextResolution? queue id l).bind fun (ticket, r) => w.stepResolution? id l ticket r
      | .pausing _ => w.signalListener? id l .expired
      | .calling =>
        match w.registry.watch l.subscription.serviceType with
        | (registry, .ok stream) =>
          { w with registry }.signalListener? id { l with stream } (.watched true)
        | (registry, .error _) => { w with registry }.signalListener? id l (.watched false)
      | .ended => none

/-- Tell a subscription to stop, its subscriber having gone away. -/
def desert (w : World) (id : Nat) : World :=
  { w with
    listeners := w.listeners.update id fun l =>
      { l with subscription := l.subscription.cancel, inbox := [], deserted := true } }

/-- The subscriber of a listener takes the next event from its inbox. -/
def takeEvent? (w : World) (id : Nat) : Option (PeerEvent × World) :=
  (w.listeners.get? id).bind fun l =>
    match l.inbox with
    | event :: inbox => some (event, { w with listeners := w.listeners.put id { l with inbox } })
    | [] => none

/-! ## The view and its followers -/

/-- The next step of the view. -/
def stepView? (w : World) : Option World :=
  (w.view.step? w.step).map fun (view, answers) =>
    { w with view, replies := answers.foldl (fun m (asker, reply) => m.put asker reply) w.replies }

/-- Put a request to the view; the number under which the answer comes. -/
def askView (w : World) (request : ViewRequest) : World × Option Nat :=
  let (view, accepted) := w.view.ask w.nextAsker request
  ({ w with view, nextAsker := w.nextAsker + 1 }, if accepted then some w.nextAsker else none)

/-- The world with a follower at another stage. -/
def setFollower (w : World) (id : Nat) (f : Follower) : World :=
  { w with followers := w.followers.put id f }

/-- The next step of a follower. -/
def stepFollower? (w : World) (id : Nat) : Option World :=
  (w.followers.get? id).bind fun f =>
    (w.listeners.get? id).bind fun l =>
      let p := Process.follower id
      if p ∈ w.aborting then
        let w := { w with aborting := w.aborting.filter (· ≠ p), followers := w.followers.erase id }
        some ((w.desert id).conclude p .aborted)
      else
        match f.stage with
        | .reading =>
          if f.cancelled then some (w.setFollower id { f with stage := .closing })
          else
            match w.takeEvent? id with
            | some (event, w) =>
              match Follower.request? f.ownInstance event with
              | none => some w
              | some request =>
                match w.askView request with
                | (w, some asker) => some (w.setFollower id { f with stage := .asking asker })
                | (w, none) => some w
            | none =>
              if l.subscription.phase = .ended then
                some (w.setFollower id { f with stage := .closing })
              else none
        | .asking asker =>
          if w.replies.contains asker then
            some ({ w with replies := w.replies.erase asker }.setFollower id
              { f with stage := .reading })
          else none
        | .closing => some ((w.desert id).setFollower id { f with stage := .ending })
        | .ending =>
          if l.subscription.phase = .ended then
            some ({ w with followers := w.followers.erase id }.conclude p .done)
          else none

/-! ## Direct requests -/

/-- The end of a direct request. -/
def endRequest (w : World) (id : Nat) (result : TaskResult) : World :=
  { w with requests := w.requests.erase id }.conclude (.request id) result

/-- The world with a direct request further on. -/
def setRequest (w : World) (id : Nat) (request : DirectRequest) : World :=
  { w with requests := w.requests.put id request }

/-- The result of resolving a key. -/
def resolutionResult (key : PeerKey) (fault : ResolutionFault) : Option Endpoint → TaskResult
  | some endpoint => .resolved endpoint
  | none => .failed (.resolution key fault)

/-- Give a direct request up. -/
def abortRequest (w : World) (id : Nat) (request : DirectRequest) : World :=
  let p := Process.request id
  let registry :=
    match request with
    | .resolve _ (some gate) => w.registry.abandonGate gate
    | _ => w.registry
  { w with registry, aborting := w.aborting.filter (· ≠ p) }.endRequest id .aborted

/-- The next step of a direct request. -/
def stepRequest? (w : World) (id : Nat) : Option World :=
  (w.requests.get? id).bind fun request =>
    if .request id ∈ w.aborting then some (w.abortRequest id request)
    else
      match request with
      | .register call =>
        match call.result? w.now with
        | some (.ok registration) => some (w.endRequest id (.registered registration))
        | some (.error error) => some (w.endRequest id (.failed error))
        | none =>
          (call.advance? w.registry w.now).map fun (registry, call) =>
            { w with registry }.setRequest id (.register call)
      | .withdraw call =>
        if call = .answered then some (w.endRequest id .done)
        else
          (call.advance? w.registry w.now).map fun (registry, call) =>
            { w with registry }.setRequest id (.withdraw call)
      | .resolve key none =>
        let (registry, resolving) := w.registry.resolve key
        let w := { w with registry }
        match resolving with
        | .found endpoint => some (w.endRequest id (.resolved endpoint))
        | .failed => some (w.endRequest id (resolutionResult key .recordUnavailable none))
        | .held gate => some (w.setRequest id (.resolve key (some gate)))
      | .resolve key (some gate) =>
        ((w.registry.gates.get? gate).bind (·.answer)).map fun answer =>
          w.endRequest id (resolutionResult key .heldFailed answer)

/-! ## Processes -/

/-- The processes of an announcer. -/
def announcerProcesses (name : String) (a : Announcer) : List Process :=
  a.tasks.keys.map fun task => .announcer ⟨name, task⟩

/-- The processes of a listener: the subscription, then its resolutions that
    can go on. -/
def listenerProcesses (w : World) (id : Nat) (l : Listener) : List Process :=
  let ready := l.subscription.resolutions.bindings.filter fun (t, r) => w.resolutionReady l t r
  .subscription id :: ready.map fun (ticket, _) => .resolution id ticket

/-- All processes. Subscriptions come in the order of their streams. -/
def processes (w : World) : List Process :=
  let listeners := w.listeners.bindings.mergeSort fun x y => x.2.stream ≤ y.2.stream
  w.announcers.bindings.flatMap (fun (name, a) => announcerProcesses name a) ++
    listeners.flatMap (fun (id, l) => w.listenerProcesses id l) ++
    w.requests.keys.map .request ++ w.followers.keys.map .follower ++ [.view]

/-- The next step of a process. That of a resolution is left to its
    subscription. -/
def step? (w : World) (queue : List Process) : Process → Option World
  | .announcer t => w.stepTask? t
  | .subscription id | .resolution id _ => w.stepListener? queue id
  | .request id => w.stepRequest? id
  | .follower id => w.stepFollower? id
  | .view => w.stepView?

/-! ## Time -/

/-- The moments for which an announcer's task waits. -/
def taskMoments : AnnouncerTask → List Nat
  | .release _ (.withdrawing _ deadline) => [deadline]
  | .supervise _ _ _ (.pausing _ _ moment) => [moment]
  | .supervise _ _ _ (.returning _ deadline) => [deadline]
  | _ => []

/-- The moments for which requests to register wait. -/
def registerMoments : RegisterCall → List Nat
  | .delayed _ moment | .answered _ moment => [moment]
  | _ => []

/-- The moments for which requests to withdraw wait. -/
def withdrawMoments : WithdrawCall → List Nat
  | .delayed _ moment => [moment]
  | _ => []

/-- The moments for which a subscription waits. -/
def subscriptionMoments (s : Subscription) : List Nat :=
  (match s.phase with
    | .pausing moment => [moment]
    | _ => []) ++
  s.resolutions.values.flatMap fun r =>
    match r.stage with
    | .pausing moment => [moment]
    | _ => []

/-- The moments for which a direct request waits. -/
def requestMoments : DirectRequest → List Nat
  | .register call => registerMoments call
  | .withdraw call => withdrawMoments call
  | .resolve _ _ => []

/-- All moments for which some process waits. -/
def moments (w : World) : List Nat :=
  w.announcers.values.flatMap (·.tasks.values.flatMap taskMoments) ++
    w.registerCalls.values.flatMap registerMoments ++
    w.withdrawCalls.values.flatMap withdrawMoments ++
    w.listeners.values.flatMap (subscriptionMoments ·.subscription) ++
    w.requests.values.flatMap requestMoments

/-- The simulated network as a system of processes. -/
def system : TimedSystem World Process where
  processes
  step?
  now := World.now
  setNow w now := { w with now }
  moments

end World

end ServiceDiscovery
