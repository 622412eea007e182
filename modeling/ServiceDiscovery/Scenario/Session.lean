import ServiceDiscovery.Scenario.Command

/-!
# Sessions

A session is a simulated network together with the names given to its parts
and with what was shown of it already. `Session.perform` carries out a step:
its commands first, then whatever the processes do about them, until none is
ready; `Session.collect` tells what became visible.

Time passes only by the command `advance`: the clock goes from one moment for
which a process waits to the next, and the processes run at each.
-/

namespace ServiceDiscovery

/-- A simulated network under observation. -/
structure Session where
  world : World := {}
  /-- The ready processes, in the order of their turns. -/
  queue : List Process := []
  /-- The record of the node itself. -/
  record : ServiceRecord
  handles : Association String Handle := .empty
  gates : Association String Nat := .empty
  subscriptions : Association String Nat := .empty
  followers : Association String Nat := .empty
  watches : Association String Nat := .empty
  /-- The statuses shown last. -/
  shownStatuses : Association String AnnouncerStatus := .empty
  /-- The publication of the digest shown last. -/
  shownPublications : Nat := 0

namespace Session

/-- Queue the processes that became ready. -/
def enqueue (s : Session) : Session :=
  { s with queue := World.system.enqueue s.queue s.world }

/-- Let the processes run until none is ready. -/
def settle (s : Session) : Session :=
  let (queue, world) := World.system.settle s.queue s.world
  { s with queue, world }

/-- Let time pass up to a moment. -/
def advanceTo (s : Session) (target : Nat) : Session :=
  let (queue, world) := World.system.advanceTo TimedSystem.maxSteps target s.queue s.world
  { s with queue, world }

/-! ## Commands -/

/-- The session with another world. -/
def setWorld (s : Session) (world : World) : Session := { s with world }

/-- The session with another directory. -/
def setRegistry (s : Session) (registry : Registry) : Session :=
  s.setWorld { s.world with registry }

/-- The session with the directory changed. -/
def script (s : Session) (f : Registry → Registry) : Session × Outcome :=
  (s.setRegistry (f s.world.registry), .nothing)

/-- Name a process. -/
def name (s : Session) (task : String) (p : Process) : Session :=
  s.setWorld { s.world with names := s.world.names.put p task }

/-- Start a task of an announcer, under a name. -/
def startTask (s : Session) (task announcer : String)
    (start : Announcer → Announcer × Nat) : Session :=
  let (world, id) := s.world.startTask announcer start
  (s.setWorld world).name task (.announcer ⟨announcer, id⟩)

/-- Make sure that an announcer exists. -/
def meet (s : Session) (announcer : String) : Session :=
  s.setWorld (s.world.setAnnouncer announcer (s.world.announcer announcer))

/-- Start a direct request, under a name. -/
def startRequest (s : Session) (task : String) (request : DirectRequest) : Session :=
  let id := s.world.nextId
  (s.setWorld ({ s.world with nextId := id + 1 }.setRequest id request)).name task (.request id)

/-- Answer a gate that goes by a name; the name is used up. -/
def answerGate (s : Session) (gate : String) (answer : Option Endpoint) : Session × Outcome :=
  match s.gates.get? gate with
  | none => (s, .unknown .gate)
  | some g => { s with gates := s.gates.erase gate }.script (·.answerGate g answer)

/-- Take a subscription away from its name. -/
def takeSubscription (s : Session) (subscription : String) : Session × Option Nat :=
  ({ s with subscriptions := s.subscriptions.erase subscription },
    s.subscriptions.get? subscription)

/-- Give a subscription up whose name is used again. -/
def replaceSubscription (s : Session) (subscription : String) : Session :=
  match s.takeSubscription subscription with
  | (s, some id) => s.setWorld (s.world.desert id)
  | (s, none) => s

/-- Subscribe to a service type. A subscription that goes by the name already is
    given up. -/
def subscribe (s : Session) (subscription serviceType : String) : Session × Outcome :=
  match s.world.subscribe serviceType with
  | (world, .error error) => (s.setWorld world, .error error)
  | (world, .ok id) =>
    let s := (s.setWorld world).replaceSubscription subscription
    ({ s with subscriptions := s.subscriptions.put subscription id }, .word serviceType)

/-- Watch a service type directly. -/
def directWatch (s : Session) (watch serviceType : String) : Session × Outcome :=
  match s.world.registry.watch serviceType with
  | (registry, .error error) => (s.setRegistry registry, .error error)
  | (registry, .ok stream) =>
    let registry :=
      match s.watches.get? watch with
      | some old => registry.dropStream old
      | none => registry
    ({ s.setRegistry registry with watches := s.watches.put watch stream }, .nothing)

/-- Put a request to the view and wait for the answer. -/
def askView (s : Session) (request : ViewRequest) : Session × ViewReply Nat :=
  match s.world.askView request with
  | (world, none) => (s.setWorld world, .closed)
  | (world, some asker) =>
    let s := (s.setWorld world).enqueue.settle
    let replies := s.world.replies.erase asker
    (s.setWorld { s.world with replies }, (s.world.replies.get? asker).getD .closed)

/-- Put a request to the view. One to shut down is not answered. -/
def view (s : Session) : ViewRequest → Session × Outcome
  | .shutdown =>
    match s.world.askView .shutdown with
    | (world, none) => (s.setWorld world, .reply .closed)
    | (world, some _) => (s.setWorld world, .nothing)
  | request =>
    let (s, reply) := s.askView request
    (s, .reply reply)

/-- Put a request to the API. -/
def request (s : Session) (method : Api.Method) (target announcer : String) : Session × Outcome :=
  let s := s.meet announcer
  match Target.path? target with
  | none => (s, .badTarget)
  | some path =>
    let action := Api.Action.of method path
    let (s, reply) :=
      match action.viewRequest? with
      | some request => s.askView request
      | none => (s, .closed)
    let status := (s.world.announcer announcer).status
    let description : Api.SelfDescription := { record := s.record, status }
    let response := Api.Response.of description s.world.view.digest reply action
    (s, .response (if method = .head then response.withoutBody else response))

/-- Carry out a command. -/
def command (s : Session) : Command → Session × Outcome
  | .advance ms =>
    (s.enqueue.advanceTo (s.world.now + Span.millis ms), .nothing)
  | .addPeer key endpoint => s.script (·.addPeer key endpoint)
  | .appear key => s.script (·.appear key)
  | .removePeer key => s.script (·.removePeer key)
  | .setAddress key endpoint => s.script (·.setAddress key endpoint)
  | .failResolution key times => s.script (·.failResolution key times)
  | .hold key gate =>
    -- A gate whose name is used again is never answered any more: it fails.
    let (s, _) := s.answerGate gate none
    let (registry, g) := s.world.registry.holdResolution key
    ({ s.setRegistry registry with gates := s.gates.put gate g }, .nothing)
  | .answerGate gate answer => s.answerGate gate answer
  | .gateAbandoned gate =>
    match (s.gates.get? gate).bind s.world.registry.gates.get? with
    | some g => (s, .flag g.abandoned)
    | none => (s, .nothing)
  | .restart => s.script (·.restart)
  | .disconnect => s.script (·.disconnect)
  | .collide instanceName => s.script (·.collide instanceName)
  | .clearCollision instanceName => s.script (·.clearCollision instanceName)
  | .failRegisters times => s.script ({ · with registerFailures := times })
  | .stallRegisters times => s.script ({ · with registerStalls := times })
  | .failWatches times => s.script ({ · with watchFailures := times })
  | .delayWithdraw ms => s.script ({ · with withdrawDelay := some (Span.millis ms) })
  | .delayRegister lag => (s.setWorld { s.world with lag }, .nothing)
  | .registrations =>
    let sorted := s.world.registry.registrations.bindings.mergeSort fun x y => x.1 ≤ y.1
    (s, .registrations sorted)
  | .resolveCalls key => (s, .count ((s.world.registry.resolveCalls.get? key).getD 0))
  | .registerCalls => (s, .count s.world.registry.registerCalls)
  | .watchCalls => (s, .count s.world.registry.watchCalls)
  | .generation => (s, .count s.world.registry.generation)
  | .directRegister task record =>
    (s.startRequest task (.register (.start .none s.world.now record)), .nothing)
  | .directWithdraw task id => (s.startRequest task (.withdraw (.requested id)), .nothing)
  | .directResolve task key => (s.startRequest task (.resolve key none), .nothing)
  | .directWatch watch serviceType => s.directWatch watch serviceType
  | .dropWatch watch =>
    match s.watches.get? watch with
    | none => (s, .flag false)
    | some stream =>
      let s := { s with watches := s.watches.erase watch }
      (s.setRegistry (s.world.registry.dropStream stream), .flag true)
  | .abort task =>
    match s.world.names.bindings.find? (·.2 = task) with
    | none => (s, .unknown .task)
    | some (p, _) => (s.setWorld { s.world with aborting := p :: s.world.aborting }, .nothing)
  | .announce task announcer record =>
    (s.startTask task announcer (·.announce (record.getD s.record)), .nothing)
  | .withdraw task handle announcer =>
    let s := s.meet announcer
    match s.handles.get? handle with
    | none => (s, .unknown .handle)
    | some h =>
      let s := { s with handles := s.handles.erase handle }
      (s.startTask task announcer (·.withdraw h.id), .nothing)
  | .dropHandle handle =>
    match s.handles.get? handle with
    | none => (s, .flag false)
    | some h =>
      let s := { s with handles := s.handles.erase handle }
      (s.setWorld (s.world.dropHandle h.id), .flag true)
  | .shutdown task announcer => (s.startTask task announcer (·.shutdown), .nothing)
  | .registration announcer =>
    let s := s.meet announcer
    let a := s.world.announcer announcer
    (s, if a.locked then .locked else .registration a.registration?)
  | .status announcer =>
    let s := s.meet announcer
    (s, .status (s.world.announcer announcer).status)
  | .subscribe subscription serviceType => s.subscribe subscription serviceType
  | .close subscription =>
    match s.takeSubscription subscription with
    | (s, none) => (s, .unknown .subscription)
    | (s, some id) => ((s.setWorld (s.world.desert id)).enqueue.settle, .nothing)
  | .dropSubscription subscription =>
    match s.takeSubscription subscription with
    | (s, none) => (s, .flag false)
    | (s, some id) => (s.setWorld (s.world.desert id), .flag true)
  | .follow subscription ownInstance task =>
    match s.takeSubscription subscription with
    | (s, none) => (s, .unknown .subscription)
    | (s, some id) =>
      let s := { s with followers := s.followers.put task id }
      let s := s.setWorld (s.world.setFollower id { ownInstance })
      (s.name task (.follower id), .nothing)
  | .stopFollowing task =>
    match s.followers.get? task with
    | none => (s, .unknown .follower)
    | some id =>
      let s := { s with followers := s.followers.erase task }
      let followers := s.world.followers.update id fun f => { f with cancelled := true }
      (s.setWorld { s.world with followers }, .nothing)
  | .view request => s.view request
  | .request method target announcer => s.request method target announcer

/-- Carry out commands one after the other. Processes queue up in between but
    do not run. -/
def commands (s : Session) : List Command → Session × List Outcome
  | [] => (s, [])
  | c :: cs =>
    let (s, outcome) := s.command c
    let (s, outcomes) := commands s.enqueue cs
    (s, outcome :: outcomes)

/-! ## What becomes visible -/

/-- Sort every run of removals by key: a reset announces them in no particular
    order. -/
def sortRemovals : List PeerEvent → List PeerEvent
  | [] => []
  | .added peer :: rest => .added peer :: sortRemovals rest
  | .removed key :: rest =>
    match sortRemovals rest with
    | .removed next :: sorted =>
      insert key (.removed next :: sorted)
    | sorted => .removed key :: sorted
where
  /-- Insert a removal into the run of removals that a list starts with. -/
  insert (key : PeerKey) : List PeerEvent → List PeerEvent
    | .removed next :: rest =>
      if next.compare key == .lt then .removed next :: insert key rest
      else .removed key :: .removed next :: rest
    | rest => .removed key :: rest

/-- The events that the subscribers received, which they have read then. -/
def collectEvents (s : Session) : Session × List (String × List PeerEvent) :=
  let inboxes := s.subscriptions.bindings.filterMap fun (name, id) =>
    (s.world.listeners.get? id).bind fun l =>
      if l.inbox.isEmpty then none else some (name, sortRemovals l.inbox)
  let own := s.subscriptions.values
  let listeners := s.world.listeners.mapValues fun id l =>
    if id ∈ own then { l with inbox := [] } else l
  (s.setWorld { s.world with listeners }, inboxes)

/-- The subscriptions that ended. -/
def collectEnded (s : Session) : Session × List String :=
  let isOver (id : Nat) : Bool :=
    (s.world.listeners.get? id).any (·.subscription.phase = .ended)
  let ended := s.subscriptions.bindings.filter fun (_, id) => isOver id
  ({ s with subscriptions := s.subscriptions.filter fun _ id => !isOver id }, ended.map (·.1))

/-- What the direct watchers received, which they have read then, and those
    whose streams ended. -/
def collectRaw (s : Session) : Session × List (String × List DirectoryEvent) × List String :=
  let streams := s.watches.bindings.filterMap fun (name, id) =>
    (s.world.registry.streams.get? id).map fun stream => (name, id, stream)
  let received := streams.filterMap fun (name, _, stream) =>
    if stream.unread.isEmpty then none else some (name, stream.unread)
  let ended := streams.filterMap fun (name, _, stream) =>
    if stream.connected then none else some name
  let ids := s.watches.values
  let read := s.world.registry.streams.mapValues fun id stream =>
    if id ∈ ids then { stream with unread := [] } else stream
  let s := s.setRegistry { s.world.registry with streams := read }
  ({ s with watches := s.watches.filter fun name _ => name ∉ ended }, received, ended)

/-- Note the handles of announcements that succeeded. A handle whose name is
    used again is dropped. -/
def keepHandles (s : Session) (results : List (String × TaskResult)) : Session :=
  results.foldl (fun s (name, result) =>
    match result with
    | .announced id _ =>
      let s :=
        match s.handles.get? name with
        | some old => s.setWorld (s.world.dropHandle old.id)
        | none => s
      let handle := { announcer := (s.world.owners.get? id).getD "", id }
      { s with handles := s.handles.put name handle }
    | _ => s) s

/-- The statuses that differ from those shown last. -/
def collectStatuses (s : Session) : Session × List (String × AnnouncerStatus) :=
  let changed := s.world.announcers.bindings.filterMap fun (name, a) =>
    if a.status = (s.shownStatuses.get? name).getD .unregistered then none
    else some (name, a.status)
  let shownStatuses := changed.foldl (fun m (name, status) => m.put name status) s.shownStatuses
  ({ s with shownStatuses }, changed)

/-- What became visible since it was asked for last. -/
def collect (s : Session) : Session × Changes :=
  let (s, events) := s.collectEvents
  let (s, ended) := s.collectEnded
  let (s, raw, rawEnded) := s.collectRaw
  let results := s.world.results
  let s := (s.setWorld { s.world with results := [] }).keepHandles results
  let (s, statuses) := s.collectStatuses
  let view := s.world.view
  let digest := if view.publications = s.shownPublications then none else some view.digest
  ({ s with shownPublications := view.publications },
    { events, ended, raw, rawEnded, results, statuses, digest })

/-- Carry out a step and let the processes run. -/
def perform (s : Session) (index : Nat) (step : ScenarioStep) : Session × Outcome × Changes :=
  let s := s.setWorld { s.world with step := index }
  let (s, outcome) :=
    match step with
    | .single c => s.command c
    | .batch cs =>
      let (s, outcomes) := s.commands cs
      (s, .several outcomes)
  let (s, changes) := s.enqueue.settle.collect
  (s, outcome, changes)

/-- Carry out steps, counted from `index` on. -/
def run (s : Session) (index : Nat) : List ScenarioStep → Session × List (Outcome × Changes)
  | [] => (s, [])
  | step :: steps =>
    let (s, outcome, changes) := s.perform index step
    let (s, rest) := s.run (index + 1) steps
    (s, (outcome, changes) :: rest)

/-- The status of every announcer and all registrations, in the end. -/
def final (s : Session) : List (String × AnnouncerStatus) × List (Nat × ServiceRecord) :=
  (s.world.announcers.bindings.map fun (name, a) => (name, a.status),
    s.world.registry.registrations.bindings.mergeSort fun x y => x.1 ≤ y.1)

end Session

end ServiceDiscovery
