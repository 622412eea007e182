/-!
# Scheduling

A system of processes is given by the processes of a state and by the next
step of each, if it has one in that state: it is *ready* then. A scheduler
that is fair lets every ready process take its turn:

* processes wait in a queue, in the order in which they became ready, those
  that became ready at once in the order of `processes`;
* the first in the queue takes steps until it is no longer ready.

`settle` lets a system run until no process is ready. What is possible at all
is any sequence of steps; the scheduler picks one.

Time stands still while processes run. In a timed system `advanceTo` moves the
clock from one moment for which a process waits to the next, and lets the
processes run at each.
-/

namespace ServiceDiscovery

/-- A system of processes `π` on states `σ`. -/
structure ProcessSystem (σ : Type u) (π : Type v) where
  processes : σ → List π
  /-- The next step of a process. The processes that are ready, in the order
      in which they became so, may decide between several. -/
  step? : σ → List π → π → Option σ

namespace ProcessSystem

variable {σ : Type u} {π : Type v} [DecidableEq π] (sys : ProcessSystem σ π)

/-- The processes that are ready. -/
def ready (queue : List π) (s : σ) : List π :=
  (sys.processes s).filter fun p => (sys.step? s queue p).isSome

/-- The queue in a state: those that wait in it still, and then those that
    became ready. -/
def enqueue (queue : List π) (s : σ) : List π :=
  let ready := sys.ready queue s
  queue.filter (· ∈ ready) ++ ready.filter (· ∉ queue)

/-- Let the system run until no process is ready, or for so many steps. -/
def settle : (steps : Nat) → List π → σ → List π × σ
  | 0, queue, s => (queue, s)
  | steps + 1, queue, s =>
    match sys.enqueue queue s with
    | [] => ([], s)
    | p :: rest =>
      match sys.step? s (p :: rest) p with
      | some s => settle steps (p :: rest) s
      | none => settle steps rest s

end ProcessSystem

/-- A system of processes that may wait for moments on a clock. -/
structure TimedSystem (σ : Type u) (π : Type v) extends ProcessSystem σ π where
  now : σ → Nat
  setNow : σ → Nat → σ
  /-- The moments for which processes wait. -/
  moments : σ → List Nat

namespace TimedSystem

variable {σ : Type u} {π : Type v} [DecidableEq π] (sys : TimedSystem σ π)

/-- A bound on the steps that processes take at one moment, and on the moments
    at which they do so while the clock is moved. -/
def maxSteps : Nat := 1000000

/-- Let the system run until no process is ready. -/
def settle (queue : List π) (s : σ) : List π × σ := sys.toProcessSystem.settle maxSteps queue s

/-- The next moment up to `target` for which a process waits. -/
def nextMoment? (s : σ) (target : Nat) : Option Nat :=
  ((sys.moments s).filter fun m => sys.now s < m && m ≤ target).min?

/-- Move the clock to `target`, stopping on the way at no more than `hops`
    moments for which processes wait. -/
def advanceTo : (hops : Nat) → (target : Nat) → List π → σ → List π × σ
  | 0, target, queue, s => sys.settle queue (sys.setNow s target)
  | hops + 1, target, queue, s =>
    let (queue, s) := sys.settle queue s
    match sys.nextMoment? s target with
    | none => sys.settle queue (sys.setNow s target)
    | some moment => advanceTo hops target queue (sys.setNow s moment)

end TimedSystem

end ServiceDiscovery
