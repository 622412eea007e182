import ServiceDiscovery.Time.Span
import ServiceDiscovery.Number.Binary53

/-!
# Backoff

Waiting times between attempts. The interval starts at `initial` and doubles
with every attempt until it reaches `max`; the delay before an attempt may lie
anywhere between half and three halves of the interval before it. There is no
limit on the number of attempts: whoever needs one counts them.

The interval is computed in double precision on nanoseconds, so that a long
interval is the nearest one of 53 binary digits.
-/

namespace ServiceDiscovery

/-- Waiting times between attempts. -/
structure Backoff where
  /-- The interval before the first attempt. -/
  initial : Nat
  /-- The longest interval. -/
  max : Nat
  /-- The interval before the next attempt. -/
  current : Nat
  deriving DecidableEq, Repr

namespace Backoff

/-- A backoff from `initialMs` milliseconds up to `maxMs`, or to the initial
    interval if that is longer. -/
def ofMillis (initialMs maxMs : Nat) : Backoff where
  initial := Span.millis initialMs
  max := Span.millis (Max.max maxMs initialMs)
  current := Span.millis initialMs

/-- A span as a number of nanoseconds in double precision. -/
def inDouble (d : Nat) : Nat :=
  let (secs, nanos) := Span.split d
  Binary53.round (Binary53.round (Binary53.round secs * Span.perSecond) + nanos)

/-- The largest number of 64 bits. -/
def maxWord : Nat := Nat.pow 2 64 - 1

/-- The span of a number of nanoseconds in double precision. -/
def ofDouble (nanos : Nat) : Nat :=
  min (Binary53.floorDiv nanos Span.perSecond) maxWord * Span.perSecond +
    min nanos maxWord % Span.perSecond

/-- The delay before the next attempt: any span between half and three halves
    of the interval is allowed, and the interval itself is taken. -/
def delay (b : Backoff) : Nat := b.current

/-- Whether a span is allowed as the delay before the next attempt. -/
def allows (b : Backoff) (d : Nat) : Bool := b.current ≤ 2 * d && 2 * d ≤ 3 * b.current

/-- The backoff after one more attempt. -/
def next (b : Backoff) : Backoff :=
  let nanos := inDouble b.current
  { b with current := if inDouble b.max ≤ 2 * nanos then b.max else ofDouble (2 * nanos) }

/-- The backoff before the first attempt. -/
def reset (b : Backoff) : Backoff := { b with current := b.initial }

end Backoff

end ServiceDiscovery
