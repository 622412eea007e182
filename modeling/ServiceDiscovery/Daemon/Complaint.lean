import ServiceDiscovery.Daemon.Listen
import ServiceDiscovery.Daemon.Settings
import ServiceDiscovery.Error
import ServiceDiscovery.Text.Split

/-!
# What the daemon complains about

Why the daemon does not start, and how it tells. A complaint is a sentence with
its causes, the nearest first. Causes are indented, and numbered if there are
several. What exactly is wrong with the form of a file of settings is not told.
-/

namespace ServiceDiscovery

/-- Why the daemon does not start. -/
inductive StartFault
  | settings (path : String) (fault : SettingsFault)
  | listen (address : String) (fault : ListenFault)
  | announce (instanceName : String) (error : DiscoveryError)
  | browse (serviceType : String) (error : DiscoveryError)
  deriving DecidableEq, Repr

/-- A sentence with its causes. -/
structure Complaint where
  sentence : String
  causes : List String
  /-- Whether there is a further cause that is not told. -/
  untold : Bool := false
  deriving DecidableEq, Repr

/-- The complaint that a fault makes. -/
def StartFault.complaint : StartFault → Complaint
  | settings path fault => {
      sentence := "Failed to load config from " ++ path
      causes := fault.message path :: fault.readFailure?.toList
      untold := fault.readFailure?.isNone }
  | listen address fault =>
    { sentence := "Failed to bind to " ++ address, causes := [fault.message] }
  | announce instanceName error =>
    { sentence := "Failed to announce " ++ instanceName, causes := [error.message] }
  | browse serviceType error =>
    { sentence := "Failed to browse " ++ serviceType, causes := [error.message] }

namespace Complaint

/-- The lines of a text. -/
def linesOf (text : String) : List String := (splitAtChar '\n' text.toList).map String.ofList

/-- The lines of a cause, the first of them after its number. -/
def causeLines (number : Option Nat) (cause : String) : List String :=
  let (mark, margin) :=
    match number with
    | some n =>
      let digits := toString n
      (String.ofList (List.replicate (5 - digits.length) ' ') ++ digits ++ ": ", "       ")
    | none => ("    ", "    ")
  match linesOf cause with
  | [] => []
  | line :: rest => (mark ++ line) :: rest.map (margin ++ ·)

/-- The lines of causes with numbers from `n` on. -/
def numberedLines (n : Nat) : List String → List String
  | [] => []
  | cause :: causes => causeLines (some n) cause ++ numberedLines (n + 1) causes

/-- The lines of a complaint. -/
def lines (c : Complaint) : List String :=
  let several := c.untold || 1 < c.causes.length
  linesOf ("Error: " ++ c.sentence) ++ "" :: "Caused by:" ::
    if several then numberedLines 0 c.causes else c.causes.flatMap (causeLines none)

end Complaint

end ServiceDiscovery
