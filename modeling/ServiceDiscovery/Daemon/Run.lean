import ServiceDiscovery.Api.Text
import ServiceDiscovery.Daemon.Complaint
import ServiceDiscovery.Scenario.MulticastWorld

/-!
# Running the daemon

The daemon reads its settings, listens for requests to the API, announces the
node, and browses for peers of the same type, in this order: if it cannot
listen, nothing is announced. It answers requests until it is told to stop, and
then withdraws its announcement.

It runs alone on the network. Nobody is found there, so the list of peers stays
empty.
-/

namespace ServiceDiscovery

/-- A running daemon. -/
structure Daemon where
  host : Host
  /-- What it announces. -/
  record : ServiceRecord
  endpoint : Endpoint
  world : MulticastWorld
  /-- The stream of its subscription. -/
  subscription : WatchRef
  view : View UtcTime := {}

namespace Daemon

/-- Start with some settings. -/
def start (host : Host) (settings : DaemonSettings) : Except StartFault Daemon :=
  let record := settings.node.record host.name
  match host.listen settings.api.listen with
  | .error fault => .error (.listen settings.api.listen fault)
  | .ok endpoint =>
    let world : MulticastWorld :=
      { directory := { settings := settings.multicast }
        announcer := { settings := settings.announcer } }
    match world.await (·.announce record) with
    | (_, some (.refused error)) => .error (.announce record.instanceName error)
    | (world, _) =>
      match world.directory.watch record.serviceType with
      | (_, .error error) => .error (.browse record.serviceType error)
      | (directory, .ok subscription) =>
        .ok { host, record, endpoint, world := { world with directory }.settle, subscription }

/-- Start with the settings in a file, given by its path and what reading it
    came to. -/
def load (host : Host) (path : String) (file : Except SettingsFault ByteArray) :
    Except StartFault Daemon :=
  match file with
  | .error fault => .error (.settings path fault)
  | .ok bytes =>
    match DaemonSettings.ofBytes bytes with
    | .error fault => .error (.settings path fault)
    | .ok settings => start host settings

/-- Put a request to the view and wait for the answer. -/
def askView (d : Daemon) (request : ViewRequest) : Daemon × ViewReply UtcTime :=
  let (view, _) := d.view.ask 0 request
  match view.step? d.host.clock with
  | some (view, (_, reply) :: _) => ({ d with view }, reply)
  | some (view, []) => ({ d with view }, .closed)
  | none => (d, .closed)

/-- Answer a request to the API. -/
def respond (d : Daemon) (method : Api.Method) (target : String) :
    Daemon × Api.Response UtcTime :=
  match Target.path? target with
  | none => (d, { status := 400 })
  | some path =>
    let action := Api.Action.of method path
    let (d, reply) :=
      match action.viewRequest? with
      | some request => d.askView request
      | none => (d, .closed)
    let description : Api.SelfDescription :=
      { record := d.record, status := d.world.announcer.status }
    let response := Api.Response.of description d.view.digest reply action
    (d, if method = .head then response.withoutBody else response)

/-- Answer requests one after another. -/
def respondAll (d : Daemon) : List (Api.Method × String) → Daemon × List (Api.Response UtcTime)
  | [] => (d, [])
  | (method, target) :: requests =>
    let (d, response) := d.respond method target
    let (d, responses) := d.respondAll requests
    (d, response :: responses)

/-- Withdraw the announcement, and close the view and the directory. The exit
    code does not tell whether the directory agreed. -/
def stop (d : Daemon) : Daemon × UInt32 :=
  let world :=
    match d.world.announcer.current with
    | some announcement => (d.world.await (·.withdraw announcement.id)).1
    | none => d.world
  let (d, _) := { d with world }.askView .shutdown
  let (directory, _) := d.world.directory.shutDown
  ({ d with world := { d.world with directory }.settle }, 0)

end Daemon

/-- What is seen of a run of the daemon. -/
structure DaemonRun where
  exitCode : UInt32
  /-- The lines of its complaint. -/
  complaint : List String := []
  responses : List (Api.Response UtcTime) := []

/-- The exit code of a daemon that did not start. -/
def startFailed : UInt32 := 1

/-- Run the daemon with a file of settings until it has answered some requests,
    and stop it. -/
def runDaemon (host : Host) (path : String) (file : Except SettingsFault ByteArray)
    (requests : List (Api.Method × String)) : DaemonRun :=
  match Daemon.load host path file with
  | .error fault => { exitCode := startFailed, complaint := fault.complaint.lines }
  | .ok d =>
    let (d, responses) := d.respondAll requests
    { exitCode := d.stop.2, responses }

end ServiceDiscovery
