import ServiceDiscovery.Scenario.MulticastWorld

/-!
# Sessions of a node alone

Commands to a node alone on the network, each carried out to its end before the
next. Watchers, announcements and subscriptions go by names. A subscription
receives nothing, since nobody is there to be found.
-/

namespace ServiceDiscovery

/-- A command to a node alone. -/
inductive MulticastCommand
  | watch (watch typeDomain : String)
  | dropWatch (watch : String)
  /-- Read the next event of a watcher. -/
  | next (watch : String)
  /-- Whether no event waits for a watcher. -/
  | quiet (watch : String)
  | register (record : ServiceRecord)
  | withdraw (registration : Registration)
  | resolve (key : PeerKey)
  | generation
  | pause
  | shutDown
  | announce (handle : String) (record : ServiceRecord)
  | unannounce (handle : String)
  | status
  | subscribe (subscription typeDomain : String)
  /-- The events a subscription has received so far. -/
  | events (subscription : String)
  | close (subscription : String)

/-- What is not known by a name. -/
inductive UnknownName
  | watch
  | handle
  | subscription
  deriving DecidableEq, Repr

/-- What comes of a command. -/
inductive MulticastOutcome
  | nothing
  | flag (value : Bool)
  | count (value : Nat)
  | word (value : String)
  | event (event : DirectoryEvent)
  /-- The stream has ended. -/
  | ended
  | registration (registration : Option Registration)
  | address (endpoint : Endpoint)
  | status (status : AnnouncerStatus)
  | events (events : List PeerEvent)
  | error (error : DiscoveryError)
  | unknown (what : UnknownName)

/-- A node alone under observation. -/
structure MulticastSession where
  world : MulticastWorld
  watches : Association String WatchRef := .empty
  /-- The numbers of the announcements. -/
  handles : Association String Nat := .empty
  subscriptions : Association String WatchRef := .empty

namespace MulticastSession

/-- A session with new settings. -/
def start (settings : MulticastSettings) : MulticastSession where
  world := { directory := { settings }, announcer := { settings := {} } }

/-- The session with another directory. -/
def setDirectory (s : MulticastSession) (directory : MulticastDirectory) : MulticastSession :=
  { s with world := { s.world with directory } }

/-- The stream of a watcher. -/
def stream? (s : MulticastSession) (ref : WatchRef) : Option BrowseStream :=
  (s.world.directory.runs.get? ref.browse).bind (·.browse.streams.get? ref.stream)

/-- Read the next event of a stream. -/
def next (s : MulticastSession) (ref : WatchRef) : MulticastSession × MulticastOutcome :=
  match s.stream? ref with
  | none => (s, .ended)
  | some stream =>
    match stream.unread with
    | event :: unread =>
      let directory := s.world.directory.updateBrowse ref.browse fun browse =>
        { browse with streams := browse.streams.put ref.stream { stream with unread } }
      (s.setDirectory directory, .event event)
    | [] => (s, if stream.connected then .nothing else .ended)

/-- Announce a record. -/
def announce (s : MulticastSession) (handle : String) (record : ServiceRecord) :
    MulticastSession × MulticastOutcome :=
  let (world, result) := s.world.await (·.announce record)
  let s := { s with world }
  match result with
  | some (.announced id _) =>
    ({ s with handles := s.handles.put handle id }, .registration world.announcer.registration?)
  | some (.refused error) => (s, .error error)
  | _ => (s, .nothing)

/-- Subscribe to a type. -/
def subscribe (s : MulticastSession) (subscription typeDomain : String) :
    MulticastSession × MulticastOutcome :=
  if typeDomain.isEmpty then (s, .error (.invalidRecord .emptyServiceType))
  else
    match s.world.directory.watch typeDomain with
    | (directory, .error error) => (s.setDirectory directory, .error error)
    | (directory, .ok ref) =>
      let subscriptions := s.subscriptions.put subscription ref
      ({ s.setDirectory directory with subscriptions }, .word typeDomain)

/-- The outcome of a request without an answer of its own. -/
def ofResult : Except DiscoveryError Unit → MulticastOutcome
  | .ok () => .nothing
  | .error error => .error error

/-- Carry out a command. -/
def command (s : MulticastSession) : MulticastCommand → MulticastSession × MulticastOutcome
  | .watch watch typeDomain =>
    match s.world.directory.watch typeDomain with
    | (directory, .error error) => (s.setDirectory directory, .error error)
    | (directory, .ok ref) =>
      ({ s.setDirectory directory with watches := s.watches.put watch ref }, .nothing)
  | .dropWatch watch =>
    match s.watches.get? watch with
    | none => (s, .flag false)
    | some ref =>
      ({ s with watches := s.watches.erase watch }.setDirectory
        (s.world.directory.dropWatch ref), .flag true)
  | .next watch =>
    match s.watches.get? watch with
    | none => (s, .unknown .watch)
    | some ref => s.next ref
  | .quiet watch =>
    match s.watches.get? watch with
    | none => (s, .nothing)
    | some ref => (s, .flag ((s.stream? ref).all (·.unread.isEmpty)))
  | .register record =>
    match s.world.register record with
    | (world, .ok registration) => ({ s with world }, .registration (some registration))
    | (world, .error error) => ({ s with world }, .error error)
  | .withdraw registration =>
    let (directory, result) := s.world.directory.withdraw registration.fullName
    (s.setDirectory directory, ofResult result)
  | .resolve key =>
    match s.world.resolve key with
    | .ok endpoint => (s, .address endpoint)
    | .error error => (s, .error error)
  | .generation => (s, .count s.world.directory.generation)
  | .pause => (s, .nothing)
  | .shutDown =>
    let (directory, result) := s.world.directory.shutDown
    (s.setDirectory directory, ofResult result)
  | .announce handle record => s.announce handle record
  | .unannounce handle =>
    match s.handles.get? handle with
    | none => (s, .unknown .handle)
    | some id =>
      let (world, _) := s.world.await (·.withdraw id)
      ({ s with world, handles := s.handles.erase handle }, .nothing)
  | .status => (s, .status s.world.announcer.status)
  | .subscribe subscription typeDomain => s.subscribe subscription typeDomain
  | .events subscription =>
    (s, if s.subscriptions.contains subscription then .events [] else .unknown .subscription)
  | .close subscription =>
    match s.subscriptions.get? subscription with
    | none => (s, .unknown .subscription)
    | some ref =>
      ({ s with subscriptions := s.subscriptions.erase subscription }.setDirectory
        (s.world.directory.dropWatch ref), .nothing)

/-- Carry out commands, each to its end. -/
def run (s : MulticastSession) : List MulticastCommand → List MulticastOutcome
  | [] => []
  | c :: cs =>
    let (s, outcome) := s.command c
    outcome :: { s with world := s.world.settle }.run cs

end MulticastSession

end ServiceDiscovery
