import ServiceDiscovery.Multicast.NameProbe
import ServiceDiscovery.Multicast.Relay
import ServiceDiscovery.Multicast.Responder

/-!
# The multicast directory

The directory that finds services by asking the network. It keeps one browse
running for each type that is watched, and lists it under the type: whoever
comes later attaches to the listed browse, and a new one is started if there is
none or if that has closed. A browse whose relay ended is struck off the list
afterwards, in a step of its own (`tidy?`), unless a newer browse of the type is
listed by then; the search is stopped only by a browse that is struck off.

Registering a record probes for its name on the browse of its type first, for
as long as the settings say. Registrations are numbered in the order of their
success.
-/

namespace ServiceDiscovery

/-- A browse with its relay. -/
structure BrowseRun where
  browse : SharedBrowse
  relay : Relay := {}
  /-- Whether it was tidied up after the end of the relay. -/
  tidied : Bool := false

/-- The stream of a watcher: the number of its browse, and its own there. -/
structure WatchRef where
  browse : Nat
  stream : Nat
  deriving DecidableEq, Repr

/-- The multicast directory. -/
structure MulticastDirectory where
  settings : MulticastSettings := {}
  responder : Responder := {}
  book : AddressBook := {}
  /-- All browses that were started, by number. -/
  runs : Association Nat BrowseRun := .empty
  /-- The browses listed, by type. -/
  listed : Association String Nat := .empty
  nextRun : Nat := 0
  /-- The last registration number given out. -/
  lastId : Nat := 0
  /-- How often the responder was replaced. -/
  generation : Nat := 0
  /-- Whether it was shut down. -/
  cancelled : Bool := false

namespace MulticastDirectory

/-! ## Browses -/

/-- The directory with a browse in another state. -/
def setRun (d : MulticastDirectory) (id : Nat) (run : BrowseRun) : MulticastDirectory :=
  { d with runs := d.runs.put id run }

/-- Change a browse, if there is one of that number. -/
def updateBrowse (d : MulticastDirectory) (id : Nat) (f : SharedBrowse → SharedBrowse) :
    MulticastDirectory :=
  { d with runs := d.runs.update id fun run => { run with browse := f run.browse } }

/-- Attach to the browse listed under a type, unless that has closed. -/
def join? (d : MulticastDirectory) (typeDomain : String) :
    Option (MulticastDirectory × WatchRef) := do
  let id ← d.listed.get? typeDomain
  let run ← d.runs.get? id
  let (browse, stream) ← run.browse.attach?
  return (d.setRun id { run with browse }, ⟨id, stream⟩)

/-- Start a browse of a type and list it. -/
def startRun (d : MulticastDirectory) (typeDomain : String) : MulticastDirectory × WatchRef :=
  let (browse, stream) := SharedBrowse.start typeDomain d.settings.interfaceLabel
  ({ d with
      runs := d.runs.put d.nextRun { browse, relay := { cancelled := d.cancelled } }
      listed := d.listed.put typeDomain d.nextRun
      nextRun := d.nextRun + 1 },
    ⟨d.nextRun, stream⟩)

/-- Watch a type: join its browse, or start one. -/
def watch (d : MulticastDirectory) (typeDomain : String) :
    MulticastDirectory × Except DiscoveryError WatchRef :=
  match d.join? typeDomain with
  | some (d, ref) => (d, .ok ref)
  | none =>
    match d.responder.search typeDomain with
    | .error fault => (d, .error (.ofMulticast fault))
    | .ok () =>
      let (d, ref) := d.startRun typeDomain
      (d, .ok ref)

/-- Stop reading a stream. -/
def dropWatch (d : MulticastDirectory) (ref : WatchRef) : MulticastDirectory :=
  d.updateBrowse ref.browse (·.dropStream ref.stream)

/-- A step of the relay of a browse. -/
def stepRelay? (d : MulticastDirectory) (id : Nat) (signal : RelaySignal) :
    Option MulticastDirectory := do
  let run ← d.runs.get? id
  let (relay, browse, book) ← Relay.step? (run.relay, run.browse, d.book) signal
  return { d with book }.setRun id { run with relay, browse }

/-- Tidy up after the relay of a browse ended. The answer tells whether the
    search is to be stopped. -/
def tidy? (d : MulticastDirectory) (id : Nat) : Option (MulticastDirectory × Bool) := do
  let run ← d.runs.get? id
  let exit ← run.relay.exit
  if run.tidied then none
  else
    let d := d.setRun id { run with tidied := true }
    let typeDomain := run.browse.typeDomain
    if d.listed.get? typeDomain = some id then
      return ({ d with listed := d.listed.erase typeDomain }, exit == .idle)
    else return (d, false)

/-! ## Registering -/

/-- A request to register that probes for its name. -/
structure Claim where
  advert : Advert
  browse : Nat
  probe : NameProbe

/-- Begin to register a record. -/
def claim (d : MulticastDirectory) (record : ServiceRecord) (now : Nat) :
    MulticastDirectory × Except DiscoveryError Claim :=
  match Advert.ofRecord record d.settings with
  | .error error => (d, .error error)
  | .ok advert =>
    match d.watch record.serviceType with
    | (d, .error error) => (d, .error error)
    | (d, .ok ref) =>
      let probe := .start advert.fullName ref.stream now d.settings.probeWindow
      (d, .ok { advert, browse := ref.browse, probe })

/-- The end of a request to register whose probe ended. -/
def settle (d : MulticastDirectory) (claim : Claim) (probed : Except DiscoveryError Unit) :
    MulticastDirectory × Except DiscoveryError Registration :=
  let d := d.dropWatch ⟨claim.browse, claim.probe.stream⟩
  match probed with
  | .error error => (d, .error error)
  | .ok () =>
    match d.responder.register claim.advert with
    | .error fault => (d, .error (.ofMulticast fault))
    | .ok () =>
      ({ d with lastId := d.lastId + 1 },
        .ok { id := d.lastId + 1, fullName := claim.advert.fullName })

/-- Take a registration back. Its name is forgotten on all listed browses. -/
def withdraw (d : MulticastDirectory) (fullName : String) :
    MulticastDirectory × Except DiscoveryError Unit :=
  match d.responder.unregister fullName with
  | .error fault => (d, .error (.ofMulticast fault))
  | .ok () => (d.listed.values.foldl (fun d id => d.updateBrowse id (·.forget fullName)) d, .ok ())

/-- Shut the directory down: every relay is told to stop. -/
def shutDown (d : MulticastDirectory) : MulticastDirectory × Except DiscoveryError Unit :=
  let runs := d.runs.mapValues fun _ run => { run with relay := { run.relay with cancelled := true } }
  let (responder, result) := d.responder.shutDown
  ({ d with runs, cancelled := true, responder },
    match result with
    | .error fault => .error (.ofMulticast fault)
    | .ok () => .ok ())

end MulticastDirectory

end ServiceDiscovery
