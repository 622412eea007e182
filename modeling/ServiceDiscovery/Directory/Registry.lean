import ServiceDiscovery.Directory.Event
import ServiceDiscovery.Error

/-!
# A directory in memory

`Registry` is a service directory without a network, whose behaviour is
scripted from outside: which peers are present and where they are, which
requests fail or never end, and when it restarts.

* Every watcher has a stream of unread events. A watcher that starts is sent
  the present keys of its type, in the order in which they appeared, and then
  every change of a key of its type. A restart sends `reset` and ends all
  streams, a disconnection ends them without a word; in neither case do the
  present peers go away.
* Registering counts the request, then either stalls for ever or is refused,
  collides, or is given the next number. A restart loses all registrations and
  raises the generation.
* Resolving a key takes the next scripted outcome, and the key's address if
  there is none. A held resolution waits at a *gate* until that is answered.
-/

namespace ServiceDiscovery

/-- A scripted outcome of resolving a key. -/
inductive ScriptedOutcome
  | failed
  /-- It waits at the gate of this number. -/
  | held (gate : Nat)
  deriving DecidableEq, Repr

/-- Where a held resolution waits. -/
structure Gate where
  /-- The answer once given: an endpoint, or `none` for a failure. -/
  answer : Option (Option Endpoint) := none
  /-- Whether the resolution was given up. -/
  abandoned : Bool := false
  deriving DecidableEq, Repr

/-- The stream of a watcher. -/
structure WatchStream where
  serviceType : String
  /-- Whether the directory still sends to it. -/
  connected : Bool := true
  /-- What was sent and not read yet. -/
  unread : List DirectoryEvent := []
  deriving DecidableEq, Repr

/-- A directory in memory. -/
structure Registry where
  /-- The last registration number given out. -/
  lastId : Nat := 0
  registrations : Association Nat ServiceRecord := .empty
  registerCalls : Nat := 0
  /-- How many of the next registrations are refused. -/
  registerFailures : Nat := 0
  /-- How many of the next registrations never end. -/
  registerStalls : Nat := 0
  /-- The instance names held by others. -/
  collisions : List String := []
  /-- How long a withdrawal takes, in nanoseconds. -/
  withdrawDelay : Option Nat := none
  /-- The streams that are still read, by number, oldest first. -/
  streams : Association Nat WatchStream := .empty
  nextStream : Nat := 0
  watchCalls : Nat := 0
  /-- How many of the next watches are refused. -/
  watchFailures : Nat := 0
  /-- The present peers, in the order in which they appeared. -/
  present : List PeerKey := []
  addresses : Association PeerKey Endpoint := .empty
  /-- The outcomes scripted for the next resolutions of a key. -/
  script : Association PeerKey (List ScriptedOutcome) := .empty
  resolveCalls : Association PeerKey Nat := .empty
  gates : Association Nat Gate := .empty
  nextGate : Nat := 0
  /-- The number of restarts. -/
  generation : Nat := 0
  deriving DecidableEq, Inhabited

namespace Registry

/-! ## Streams -/

/-- Send an event to every connected watcher of a type. -/
def notify (r : Registry) (serviceType : String) (event : DirectoryEvent) : Registry :=
  { r with
    streams := r.streams.mapValues fun _ s =>
      if s.connected ∧ s.serviceType = serviceType then { s with unread := s.unread ++ [event] }
      else s }

/-- Watch a service type: the number of a new stream, in which the present
    keys of the type wait to be read. -/
def watch (r : Registry) (serviceType : String) : Registry × Except DiscoveryError Nat :=
  let r := { r with watchCalls := r.watchCalls + 1 }
  if r.watchFailures = 0 then
    let replay := (r.present.filter (·.serviceType = serviceType)).map .appeared
    let stream := { serviceType, unread := replay }
    ({ r with
        streams := r.streams.put r.nextStream stream
        nextStream := r.nextStream + 1 },
      .ok r.nextStream)
  else
    ({ r with watchFailures := r.watchFailures - 1 }, .error (.unavailable .refusedWatch))

/-- What a watcher finds in its stream. -/
inductive Received
  | event (event : DirectoryEvent)
  /-- There is nothing yet. -/
  | waiting
  /-- There will never be anything more. -/
  | ended
  deriving DecidableEq, Repr

/-- Read the next event of a stream. -/
def receive (r : Registry) (stream : Nat) : Registry × Received :=
  match r.streams.get? stream with
  | none => (r, .ended)
  | some s =>
    match s.unread with
    | event :: unread => ({ r with streams := r.streams.put stream { s with unread } }, .event event)
    | [] => (r, if s.connected then .waiting else .ended)

/-- Give up reading a stream. -/
def dropStream (r : Registry) (stream : Nat) : Registry :=
  { r with streams := r.streams.erase stream }

/-! ## Peers -/

/-- Say that a key appeared, whatever it resolves to. -/
def appear (r : Registry) (key : PeerKey) : Registry :=
  let r := { r with present := if key ∈ r.present then r.present else r.present ++ [key] }
  r.notify key.serviceType (.appeared key)

/-- Change where a key resolves to, without a word. -/
def setAddress (r : Registry) (key : PeerKey) (endpoint : Endpoint) : Registry :=
  { r with addresses := r.addresses.put key endpoint }

/-- A peer that is present at an endpoint. -/
def addPeer (r : Registry) (key : PeerKey) (endpoint : Endpoint) : Registry :=
  (r.setAddress key endpoint).appear key

/-- A peer that goes away, with its address. -/
def removePeer (r : Registry) (key : PeerKey) : Registry :=
  let r :=
    { r with
      present := r.present.filter (· ≠ key)
      addresses := r.addresses.erase key }
  r.notify key.serviceType (.removed key)

/-- Restart: the watchers are sent `reset` and their streams end, and all
    registrations are lost. The present peers stay. A restart counts as one
    event: the generation is raised at once, although that comes after the
    registrations are lost, no longer under the lock. -/
def restart (r : Registry) : Registry :=
  { r with
    streams := r.streams.mapValues fun _ s =>
      if s.connected then { s with connected := false, unread := s.unread ++ [.reset] } else s
    registrations := .empty
    generation := r.generation + 1 }

/-- End every stream without a word. -/
def disconnect (r : Registry) : Registry :=
  { r with streams := r.streams.mapValues fun _ s => { s with connected := false } }

/-! ## Registrations -/

/-- Count a request to register. It stalls if that is scripted. -/
def accept (r : Registry) : Registry × Bool :=
  let r := { r with registerCalls := r.registerCalls + 1 }
  if r.registerStalls = 0 then (r, false)
  else ({ r with registerStalls := r.registerStalls - 1 }, true)

/-- Commit an admitted request: a scripted failure comes before a collision,
    and otherwise the record gets the next number. -/
def commit (r : Registry) (record : ServiceRecord) : Registry × Except DiscoveryError Registration :=
  let fullName := record.instanceName ++ "." ++ record.serviceType
  if r.registerFailures ≠ 0 then
    ({ r with registerFailures := r.registerFailures - 1 },
      .error (.unavailable .refusedRegistration))
  else if record.instanceName ∈ r.collisions then (r, .error (.collision fullName))
  else
    let id := r.lastId + 1
    ({ r with lastId := id, registrations := r.registrations.put id record }, .ok ⟨id, fullName⟩)

/-- Remove a registration; a number not in use is fine. -/
def unregister (r : Registry) (id : Nat) : Registry :=
  { r with registrations := r.registrations.erase id }

/-- Let an instance name be held by another node. -/
def collide (r : Registry) (instanceName : String) : Registry :=
  { r with
    collisions :=
      if instanceName ∈ r.collisions then r.collisions else r.collisions ++ [instanceName] }

/-- Let an instance name be free again. -/
def clearCollision (r : Registry) (instanceName : String) : Registry :=
  { r with collisions := r.collisions.filter (· ≠ instanceName) }

/-! ## Resolutions -/

/-- Script outcomes for the next resolutions of a key, after those already
    scripted. -/
def prescribe (r : Registry) (key : PeerKey) (outcomes : List ScriptedOutcome) : Registry :=
  { r with script := r.script.put key ((r.script.get? key).getD [] ++ outcomes) }

/-- Let the next resolutions of a key fail, so many times. -/
def failResolution (r : Registry) (key : PeerKey) (times : Nat) : Registry :=
  r.prescribe key (List.replicate times .failed)

/-- Let the next resolution of a key wait at a new gate. -/
def holdResolution (r : Registry) (key : PeerKey) : Registry × Nat :=
  let gate := r.nextGate
  let r := { r with gates := r.gates.put gate {}, nextGate := gate + 1 }
  (r.prescribe key [.held gate], gate)

/-- Answer a gate. -/
def answerGate (r : Registry) (gate : Nat) (answer : Option Endpoint) : Registry :=
  { r with gates := r.gates.update gate fun g => { g with answer := some answer } }

/-- Give up waiting at a gate. -/
def abandonGate (r : Registry) (gate : Nat) : Registry :=
  { r with gates := r.gates.update gate fun g => { g with abandoned := true } }

/-- The first reaction to a request to resolve a key. -/
inductive Resolving
  | found (endpoint : Endpoint)
  | failed
  /-- It waits at the gate of this number. -/
  | held (gate : Nat)
  deriving DecidableEq, Repr

/-- Ask where a key is. -/
def resolve (r : Registry) (key : PeerKey) : Registry × Resolving :=
  let r :=
    { r with resolveCalls := r.resolveCalls.put key ((r.resolveCalls.get? key).getD 0 + 1) }
  match (r.script.get? key).getD [] with
  | outcome :: rest =>
    let r := { r with script := r.script.put key rest }
    match outcome with
    | .failed => (r, .failed)
    | .held gate => (r, .held gate)
  | [] =>
    match r.addresses.get? key with
    | some endpoint => (r, .found endpoint)
    | none => (r, .failed)

end Registry

end ServiceDiscovery
