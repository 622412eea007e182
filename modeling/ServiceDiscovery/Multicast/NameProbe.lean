import ServiceDiscovery.Error
import ServiceDiscovery.Multicast.SharedBrowse

/-!
# Name probes

Before a name is registered it is watched for a while on the shared browse of
its type. If another node answers for it in that time, or did so already, the
name is taken; if the browse is reset, nobody can tell. A name that was not
heard of until the time is up is free.
-/

namespace ServiceDiscovery

/-- How far a probe is. -/
inductive ProbeStage
  /-- About to look whether the name is present. -/
  | looking
  /-- Waiting for an event. -/
  | listening
  deriving DecidableEq, Repr

/-- A probe for a full name. -/
structure NameProbe where
  fullName : String
  /-- The stream it listens to. -/
  stream : Nat
  /-- The moment at which the name counts as free. -/
  deadline : Nat
  stage : ProbeStage := .looking
  deriving DecidableEq, Repr

namespace NameProbe

/-- A probe that starts now and lasts so long. -/
def start (fullName : String) (stream now length : Nat) : NameProbe :=
  { fullName, stream, deadline := now + length }

/-- A step of a probe: it goes on, with the browse as it is then, or it ends. -/
inductive Stepped
  | on (probe : NameProbe) (browse : SharedBrowse)
  | ended (result : Except DiscoveryError Unit)

/-- The error of a probe whose browse was reset. -/
def interrupted (p : NameProbe) (browse : SharedBrowse) : DiscoveryError :=
  .unavailable (.browseStopped browse.typeDomain p.fullName)

/-- The next step of a probe. An event is noticed before the time is up. -/
def step? (p : NameProbe) (browse : SharedBrowse) (now : Nat) : Option Stepped :=
  match p.stage with
  | .looking =>
    if browse.isPresent p.fullName then some (.ended (.error (.collision p.fullName)))
    else some (.on { p with stage := .listening } browse)
  | .listening =>
    match browse.streams.get? p.stream with
    | none => some (.ended (.error (p.interrupted browse)))
    | some s =>
      match s.unread with
      | .reset :: _ => some (.ended (.error (p.interrupted browse)))
      | _ :: unread =>
        let browse := { browse with streams := browse.streams.put p.stream { s with unread } }
        some (.on { p with stage := .looking } browse)
      | [] =>
        if !s.connected then some (.ended (.error (p.interrupted browse)))
        else if p.deadline ≤ now then some (.ended (.ok ()))
        else none

/-! ## Undisturbed probes -/

/-- The events that wait to be read, counted twice, and a look at the name. -/
def remaining (p : NameProbe) (browse : SharedBrowse) : Nat :=
  2 * ((browse.streams.get? p.stream).map (·.unread.length)).getD 0 +
    (if p.stage = .looking then 1 else 0)

/-- Every step of a probe that goes on brings it nearer to its end. -/
theorem remaining_lt_of_step? {p q : NameProbe} {browse after : SharedBrowse} {now : Nat}
    (h : p.step? browse now = some (.on q after)) : q.remaining after < p.remaining browse := by
  obtain ⟨fullName, stream, deadline, stage⟩ := p
  cases stage with
  | looking =>
    simp only [step?] at h
    split at h
    · cases h
    · cases h
      simp [remaining]
  | listening =>
    simp only [step?] at h
    split at h
    · cases h
    · rename_i s hs
      split at h
      · cases h
      · rename_i unread _ hu
        cases h
        simp only [remaining, Association.get?_put_self, hs, hu, Option.map_some, Option.getD_some,
          List.length_cons, ↓reduceIte, reduceCtorEq]
        omega
      · split at h
        · cases h
        · split at h <;> cases h

/-- The end of a probe on a browse to which nothing more happens: it reads the
    events that wait already, and then its time runs out. -/
def finish (p : NameProbe) (browse : SharedBrowse) : Except DiscoveryError Unit :=
  match _h : p.step? browse p.deadline with
  | some (.on q after) => q.finish after
  | some (.ended result) => result
  | none => .ok ()
termination_by p.remaining browse
decreasing_by exact remaining_lt_of_step? (by assumption)

end NameProbe

end ServiceDiscovery
