import ServiceDiscovery.Scenario.BrowseWorld

/-!
# Browse sessions

A simulated browse together with the names given to its watchers. A session
begins with one watcher, `w0`. `BrowseSession.perform` carries out a step: its
commands first, then whatever the processes do about them; and it tells what
became visible: the events that the watchers received, the streams that ended,
the results of waits and probes, and the end of the relay.
-/

namespace ServiceDiscovery

/-- A command to a simulated browse. -/
inductive BrowseCommand
  /-- Let time pass, in milliseconds. -/
  | advance (ms : Nat)
  /-- The responder reports something. -/
  | report (event : SearchEvent)
  /-- The responder reports an instance with its addresses. -/
  | resolve (serviceType instanceName addresses : String) (port : UInt16)
  /-- Enter an instance with its addresses into the book. -/
  | enter (serviceType instanceName addresses : String) (port : UInt16)
  | clearBook
  | lookUp (fullName : String)
  /-- The responder reports no more. -/
  | disconnect
  /-- The responder is replaced, or cannot be any more. -/
  | replace
  | cancel
  | attach (watcher : String)
  | dropWatcher (watcher : String)
  | forget (fullName : String)
  | isPresent (fullName : String)
  | typeDomain
  | waitFor (task fullName : String) (ms : Nat)
  | probe (task fullName : String) (ms : Nat)

/-- Some commands to be carried out together. -/
inductive BrowseSessionStep
  | single (command : BrowseCommand)
  | batch (commands : List BrowseCommand)

/-- What comes of a command. -/
inductive BrowseOutcome
  | nothing
  | flag (value : Bool)
  | word (value : String)
  | address (endpoint : Option Endpoint)
  /-- The keys sent to a new watcher, in their order. -/
  | keys (keys : List PeerKey)
  | error (error : DiscoveryError)
  | several (outcomes : List BrowseOutcome)

/-- What became visible. -/
structure BrowseChanges where
  events : List (String × List DirectoryEvent) := []
  /-- The watchers whose streams ended. -/
  ended : List String := []
  results : List (String × BrowseResult) := []
  exit : Option RelayExit := none

/-- A simulated browse under observation. -/
structure BrowseSession where
  world : BrowseWorld
  queue : List BrowseProcess := []
  /-- The streams of the named watchers. -/
  watchers : Association String Nat := .empty
  /-- Whether the end of the relay was shown. -/
  shownExit : Bool := false

namespace BrowseSession

/-- A session with a new browse and its first watcher. -/
def start (typeDomain interface : String) : BrowseSession :=
  let (browse, stream) := SharedBrowse.start typeDomain interface
  { world := { browse }, watchers := Association.empty.put "w0" stream }

/-- Queue the processes that became ready. -/
def enqueue (s : BrowseSession) : BrowseSession :=
  { s with queue := BrowseWorld.system.enqueue s.queue s.world }

/-- Let the processes run until none is ready. -/
def settle (s : BrowseSession) : BrowseSession :=
  let (queue, world) := BrowseWorld.system.settle s.queue s.world
  { s with queue, world }

/-- Let time pass up to a moment. -/
def advanceTo (s : BrowseSession) (target : Nat) : BrowseSession :=
  let (queue, world) := BrowseWorld.system.advanceTo TimedSystem.maxSteps target s.queue s.world
  { s with queue, world }

/-- The session with another browse. -/
def setBrowse (s : BrowseSession) (browse : SharedBrowse) : BrowseSession :=
  { s with world := { s.world with browse } }

/-- The session with the relay changed. -/
def setRelay (s : BrowseSession) (relay : Relay) : BrowseSession :=
  { s with world := { s.world with relay } }

/-- The responder reports something; whether it was heard. -/
def report (s : BrowseSession) (event : SearchEvent) : BrowseSession × BrowseOutcome :=
  let (relay, heard) := s.world.relay.put event
  (s.setRelay relay, .flag heard)

/-- Take a watcher's stream away from its name; it is read no more. -/
def dropWatcher (s : BrowseSession) (watcher : String) : BrowseSession :=
  match s.watchers.get? watcher with
  | none => s
  | some stream =>
    { s with watchers := s.watchers.erase watcher }.setBrowse (s.world.browse.dropStream stream)

/-- The keys that wait in a new stream, in their order; they are read then. -/
def takeReplay (browse : SharedBrowse) (stream : Nat) : SharedBrowse × List PeerKey :=
  match browse.streams.get? stream with
  | none => (browse, [])
  | some s =>
    let keys := s.unread.filterMap fun
      | .appeared key => some key
      | _ => none
    ({ browse with streams := browse.streams.put stream { s with unread := [] } },
      keys.mergeSort PeerKey.le)

/-- Carry out a command. -/
def command (s : BrowseSession) : BrowseCommand → BrowseSession × BrowseOutcome
  | .advance ms => (s.enqueue.advanceTo (s.world.now + Span.millis ms), .nothing)
  | .report event => s.report event
  | .resolve serviceType instanceName addresses port =>
    match Advert.make serviceType instanceName addresses port .empty with
    | .ok advert => s.report (.resolved advert)
    | .error fault => (s, .error (.ofMulticast fault))
  | .enter serviceType instanceName addresses port =>
    match Advert.make serviceType instanceName addresses port .empty with
    | .ok advert =>
      ({ s with world := { s.world with book := s.world.book.enter advert } }, .nothing)
    | .error fault => (s, .error (.ofMulticast fault))
  | .clearBook => ({ s with world := { s.world with book := s.world.book.clear } }, .nothing)
  | .lookUp fullName => (s, .address (s.world.book.lookUp fullName))
  | .disconnect => (s.setRelay { s.world.relay with connected := false }, .nothing)
  | .replace => (s.setRelay { s.world.relay with replaced := true }, .nothing)
  | .cancel => (s.setRelay { s.world.relay with cancelled := true }, .nothing)
  | .attach watcher =>
    match s.world.browse.attach? with
    | none => (s, .flag false)
    | some (browse, stream) =>
      let (browse, keys) := takeReplay browse stream
      let s := (s.setBrowse browse).dropWatcher watcher
      ({ s with watchers := s.watchers.put watcher stream }, .keys keys)
  | .dropWatcher watcher => (s.dropWatcher watcher, .flag (s.watchers.contains watcher))
  | .forget fullName => (s.setBrowse (s.world.browse.forget fullName), .nothing)
  | .isPresent fullName => (s, .flag (s.world.browse.isPresent fullName))
  | .typeDomain => (s, .word s.world.browse.typeDomain)
  | .waitFor task fullName ms =>
    ({ s with world := s.world.startWait task fullName (Span.millis ms) }, .nothing)
  | .probe task fullName ms =>
    match s.world.startProbe? task fullName (Span.millis ms) with
    | none => (s, .flag false)
    | some world => ({ s with world }, .flag true)

/-- Carry out commands one after the other. Processes queue up in between but
    do not run. -/
def commands (s : BrowseSession) : List BrowseCommand → BrowseSession × List BrowseOutcome
  | [] => (s, [])
  | c :: cs =>
    let (s, outcome) := s.command c
    let (s, outcomes) := commands s.enqueue cs
    (s, outcome :: outcomes)

/-! ## What becomes visible -/

/-- The events that the watchers received, which they have read then, and those
    whose streams ended. -/
def collectStreams (s : BrowseSession) :
    BrowseSession × List (String × List DirectoryEvent) × List String :=
  let streams := s.watchers.bindings.filterMap fun (name, id) =>
    (s.world.browse.streams.get? id).map fun stream => (name, stream)
  let received := streams.filterMap fun (name, stream) =>
    if stream.unread.isEmpty then none else some (name, stream.unread)
  let ended := streams.filterMap fun (name, stream) =>
    if stream.connected then none else some name
  let ids := s.watchers.values
  let read := s.world.browse.streams.mapValues fun id stream =>
    if id ∈ ids then { stream with unread := [] } else stream
  let s := s.setBrowse { s.world.browse with streams := read }
  (ended.foldl dropWatcher s, received, ended)

/-- What became visible since it was asked for last. -/
def collect (s : BrowseSession) : BrowseSession × BrowseChanges :=
  let (s, events, ended) := s.collectStreams
  let results := s.world.results
  let exit := if s.shownExit then none else s.world.relay.exit
  ({ s with
      world := { s.world with results := [] }
      shownExit := s.world.relay.exit.isSome },
    { events, ended, results, exit })

/-- Carry out a step and let the processes run. -/
def perform (s : BrowseSession) (step : BrowseSessionStep) :
    BrowseSession × BrowseOutcome × BrowseChanges :=
  let (s, outcome) :=
    match step with
    | .single c => s.command c
    | .batch cs =>
      let (s, outcomes) := s.commands cs
      (s, .several outcomes)
  let (s, changes) := s.enqueue.settle.collect
  (s, outcome, changes)

/-- Carry out steps. -/
def run (s : BrowseSession) : List BrowseSessionStep → List (BrowseOutcome × BrowseChanges)
  | [] => []
  | step :: steps =>
    let (s, outcome, changes) := s.perform step
    (outcome, changes) :: s.run steps

end BrowseSession

end ServiceDiscovery
