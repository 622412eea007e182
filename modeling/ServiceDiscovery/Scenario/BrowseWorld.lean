import ServiceDiscovery.Multicast.NameProbe
import ServiceDiscovery.Multicast.Relay
import ServiceDiscovery.Scenario.Schedule

/-!
# A simulated browse

One shared browse with its relay and the address book, and those who use them:
waits for addresses and name probes, which go by names. The reports of the
responder come from outside.

The relay notices an order to stop before a replacement of the responder, and
that before a report.
-/

namespace ServiceDiscovery

/-- A process of a simulated browse. -/
inductive BrowseProcess
  | relay
  | wait (id : Nat)
  | probe (id : Nat)
  deriving DecidableEq, Repr

/-- What a wait or a probe came to. -/
inductive BrowseResult
  | address (endpoint : Option Endpoint)
  /-- Nobody claims the name. -/
  | unclaimed
  | failed (error : DiscoveryError)
  deriving DecidableEq

/-- A simulated browse. -/
structure BrowseWorld where
  /-- The time, in nanoseconds. -/
  now : Nat := 0
  browse : SharedBrowse
  relay : Relay := {}
  book : AddressBook := {}
  /-- The waits for addresses, with their names. -/
  waits : Association Nat (String × AddressWait) := .empty
  /-- The probes, with their names. -/
  probes : Association Nat (String × NameProbe) := .empty
  nextId : Nat := 0
  /-- The results of waits and probes, oldest first. -/
  results : List (String × BrowseResult) := []

namespace BrowseWorld

/-- The next step of the relay. -/
def stepRelay? (w : BrowseWorld) : Option BrowseWorld :=
  (Relay.next? (w.relay, w.browse, w.book)).map fun (relay, browse, book) =>
    { w with relay, browse, book }

/-- The next step of a wait. -/
def stepWait? (w : BrowseWorld) (id : Nat) : Option BrowseWorld :=
  (w.waits.get? id).bind fun (name, wait) =>
    (wait.step? w.book w.now).map fun
      | .inl wait => { w with waits := w.waits.put id (name, wait) }
      | .inr endpoint =>
        { w with
          waits := w.waits.erase id
          results := w.results ++ [(name, .address endpoint)] }

/-- The result of a probe. -/
def probeResult : Except DiscoveryError Unit → BrowseResult
  | .ok () => .unclaimed
  | .error error => .failed error

/-- The next step of a probe. One that ended stops reading its stream. -/
def stepProbe? (w : BrowseWorld) (id : Nat) : Option BrowseWorld :=
  (w.probes.get? id).bind fun (name, probe) =>
    (probe.step? w.browse w.now).map fun
      | .on probe browse => { w with browse, probes := w.probes.put id (name, probe) }
      | .ended result =>
        { w with
          browse := w.browse.dropStream probe.stream
          probes := w.probes.erase id
          results := w.results ++ [(name, probeResult result)] }

/-- The processes: the relay, the waits and the probes. -/
def processes (w : BrowseWorld) : List BrowseProcess :=
  .relay :: (w.waits.keys.map .wait ++ w.probes.keys.map .probe)

/-- The next step of a process. -/
def step? (w : BrowseWorld) : BrowseProcess → Option BrowseWorld
  | .relay => w.stepRelay?
  | .wait id => w.stepWait? id
  | .probe id => w.stepProbe? id

/-- The deadlines of waits and probes. -/
def moments (w : BrowseWorld) : List Nat :=
  w.waits.values.map (·.2.deadline) ++ w.probes.values.map (·.2.deadline)

/-- The simulated browse as a system of processes. -/
def system : TimedSystem BrowseWorld BrowseProcess where
  processes
  step? w _ p := w.step? p
  now := BrowseWorld.now
  setNow w now := { w with now }
  moments

/-- Start to wait for an address. -/
def startWait (w : BrowseWorld) (name fullName : String) (length : Nat) : BrowseWorld :=
  { w with
    waits := w.waits.put w.nextId (name, .start fullName w.now length)
    nextId := w.nextId + 1 }

/-- Start to probe for a name; a closed browse takes no probes. -/
def startProbe? (w : BrowseWorld) (name fullName : String) (length : Nat) : Option BrowseWorld :=
  w.browse.attach?.map fun (browse, stream) =>
    { w with
      browse
      probes := w.probes.put w.nextId (name, .start fullName stream w.now length)
      nextId := w.nextId + 1 }

end BrowseWorld

end ServiceDiscovery
