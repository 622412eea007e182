import ServiceDiscovery.Api.Response
import ServiceDiscovery.Scenario.World

/-!
# Commands

What can be done to a simulated network from outside, and what comes of it.
Announcers, tasks, handles, gates, subscriptions and streams go by names.

A command has an `Outcome` of its own; besides, things become visible after
it (`Changes`): events that subscribers and watchers received, results of
tasks, statuses of announcers and the digest of the view.
-/

namespace ServiceDiscovery

/-- A command to a simulated network. -/
inductive Command
  /-- Let time pass, in milliseconds. -/
  | advance (ms : Nat)
  -- The directory's script.
  | addPeer (key : PeerKey) (endpoint : Endpoint)
  | appear (key : PeerKey)
  | removePeer (key : PeerKey)
  | setAddress (key : PeerKey) (endpoint : Endpoint)
  | failResolution (key : PeerKey) (times : Nat)
  | hold (key : PeerKey) (gate : String)
  | answerGate (gate : String) (answer : Option Endpoint)
  | gateAbandoned (gate : String)
  | restart
  | disconnect
  | collide (instanceName : String)
  | clearCollision (instanceName : String)
  | failRegisters (times : Nat)
  | stallRegisters (times : Nat)
  | failWatches (times : Nat)
  | delayWithdraw (ms : Nat)
  | delayRegister (lag : RegisterLag)
  -- Questions to the directory.
  | registrations
  | resolveCalls (key : PeerKey)
  | registerCalls
  | watchCalls
  | generation
  -- Requests put to the directory directly.
  | directRegister (task : String) (record : ServiceRecord)
  | directWithdraw (task : String) (id : Nat)
  | directResolve (task : String) (key : PeerKey)
  | directWatch (watch serviceType : String)
  | dropWatch (watch : String)
  -- Announcers.
  | abort (task : String)
  | announce (task announcer : String) (record : Option ServiceRecord)
  | withdraw (task handle announcer : String)
  | dropHandle (handle : String)
  | shutdown (task announcer : String)
  | registration (announcer : String)
  | status (announcer : String)
  -- Subscriptions.
  | subscribe (subscription serviceType : String)
  | close (subscription : String)
  | dropSubscription (subscription : String)
  -- The view.
  | follow (subscription ownInstance task : String)
  | stopFollowing (task : String)
  | view (request : ViewRequest)
  | request (method : Api.Method) (target announcer : String)

/-- Why a command was not carried out. -/
inductive Unknown
  | gate
  | handle
  | task
  | subscription
  | follower
  deriving DecidableEq, Repr

/-- What comes of a command. -/
inductive Outcome
  | nothing
  | flag (value : Bool)
  | count (value : Nat)
  | word (value : String)
  | status (status : AnnouncerStatus)
  /-- The lock of the announcer is taken. -/
  | locked
  | registration (registration : Option Registration)
  | registrations (registrations : List (Nat × ServiceRecord))
  | error (error : DiscoveryError)
  | reply (reply : ViewReply Nat)
  | response (response : Api.Response Nat)
  /-- The text is no request target. -/
  | badTarget
  | unknown (what : Unknown)
  | several (outcomes : List Outcome)

/-- What became visible. -/
structure Changes where
  /-- Events received by subscribers, by the names of subscriptions. -/
  events : List (String × List PeerEvent) := []
  /-- Subscriptions that ended. -/
  ended : List String := []
  /-- Events received from the directory directly. -/
  raw : List (String × List DirectoryEvent) := []
  /-- Direct streams that ended. -/
  rawEnded : List String := []
  results : List (String × TaskResult) := []
  statuses : List (String × AnnouncerStatus) := []
  digest : Option String := none

/-- Some commands to be carried out together: no process runs between those of
    a batch. -/
inductive ScenarioStep
  | single (command : Command)
  | batch (commands : List Command)

end ServiceDiscovery
