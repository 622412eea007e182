import ServiceDiscovery.Directory.Registry

/-!
# Requests under way

A request to register or to withdraw is not answered at once: it is taken in,
committed and answered at moments of its own, and others act in between. A
`RegisterCall` and a `WithdrawCall` tell how far such a request is; `advance?`
takes it one step further if it can go on now. A request that is given up is
just forgotten: what it committed stays committed.

A `RegisterLag` delays registrations, before the directory takes them in or
between its commit and its answer.
-/

namespace ServiceDiscovery

/-- A delay of registrations. -/
inductive RegisterLag
  | none
  /-- Before the directory takes the request in. -/
  | before (span : Nat)
  /-- Between the directory's result and the answer. -/
  | after (span : Nat)
  deriving DecidableEq, Repr, Inhabited

/-- The delay of the answer. -/
def RegisterLag.answer : RegisterLag → Nat
  | after span => span
  | _ => 0

/-- A request to register a record. -/
inductive RegisterCall
  /-- On its way until a moment. -/
  | delayed (record : ServiceRecord) (until_ : Nat)
  | requested (record : ServiceRecord) (lag : Nat)
  /-- Taken in, and never to be answered. -/
  | stalled
  /-- Taken in and not committed yet. -/
  | admitted (record : ServiceRecord) (lag : Nat)
  /-- Committed, with the answer arriving at a moment. -/
  | answered (result : Except DiscoveryError Registration) (due : Nat)

namespace RegisterCall

/-- A new request. -/
def start (lag : RegisterLag) (now : Nat) (record : ServiceRecord) : RegisterCall :=
  match lag with
  | .before span => .delayed record (now + span)
  | _ => .requested record lag.answer

/-- One step of a request, if it can go on. -/
def advance? (r : Registry) (now : Nat) : RegisterCall → Option (Registry × RegisterCall)
  | .delayed record moment => if moment ≤ now then some (r, .requested record 0) else none
  | .requested record lag =>
    let (r, stalls) := r.accept
    some (r, if stalls then .stalled else .admitted record lag)
  | .stalled => none
  | .admitted record lag =>
    let (r, result) := r.commit record
    some (r, .answered result (now + lag))
  | .answered _ _ => none

/-- The answer, once it has arrived. -/
def result? (now : Nat) : RegisterCall → Option (Except DiscoveryError Registration)
  | .answered result due => if due ≤ now then some result else none
  | _ => none

end RegisterCall

/-- A request to withdraw a registration. -/
inductive WithdrawCall
  | requested (id : Nat)
  /-- Being worked on until a moment. -/
  | delayed (id : Nat) (until_ : Nat)
  | answered
  deriving DecidableEq, Repr

namespace WithdrawCall

/-- One step of a request, if it can go on. -/
def advance? (r : Registry) (now : Nat) : WithdrawCall → Option (Registry × WithdrawCall)
  | .requested id =>
    match r.withdrawDelay with
    | some span => some (r, .delayed id (now + span))
    | none => some (r.unregister id, .answered)
  | .delayed id moment => if moment ≤ now then some (r.unregister id, .answered) else none
  | .answered => none

end WithdrawCall

end ServiceDiscovery
