import ServiceDiscovery.Backoff

/-!
# Settings

The settings of announcing, of browsing and of the multicast directory, each
with its default. Times are given in milliseconds.
-/

namespace ServiceDiscovery

/-- How a service is announced. -/
structure AnnouncerSettings where
  /-- The longest wait for the directory to confirm a withdrawal. -/
  withdrawTimeoutMs : Nat := 2000
  reannounceBackoffMs : Nat := 500
  reannounceBackoffMaxMs : Nat := 30000
  deriving DecidableEq, Repr, Inhabited

/-- How peers are looked for. -/
structure BrowserSettings where
  /-- The attempts to resolve a peer that appeared before it is given up. -/
  resolveAttempts : Nat := 3
  resolveBackoffMs : Nat := 250
  resolveBackoffMaxMs : Nat := 2000
  resubscribeDelayMs : Nat := 1000
  resubscribeDelayMaxMs : Nat := 30000
  deriving DecidableEq, Repr, Inhabited

/-- How the multicast directory works. -/
structure MulticastSettings where
  /-- The only interface to use; all of them if not given. -/
  interface : Option String := none
  /-- The addresses to publish; those of the interfaces if not given. -/
  address : Option String := none
  resolveTimeoutMs : Nat := 3000
  /-- How long a name is watched for another claim before it is registered. -/
  probeWindowMs : Nat := 1500
  healthIntervalMs : Nat := 5000
  deriving DecidableEq, Repr, Inhabited

namespace AnnouncerSettings

def withdrawTimeout (s : AnnouncerSettings) : Nat := Span.millis s.withdrawTimeoutMs

def reannounceBackoff (s : AnnouncerSettings) : Backoff :=
  .ofMillis s.reannounceBackoffMs s.reannounceBackoffMaxMs

end AnnouncerSettings

namespace BrowserSettings

def resolveBackoff (s : BrowserSettings) : Backoff :=
  .ofMillis s.resolveBackoffMs s.resolveBackoffMaxMs

def resubscribeBackoff (s : BrowserSettings) : Backoff :=
  .ofMillis s.resubscribeDelayMs s.resubscribeDelayMaxMs

/-- The attempts to resolve a peer: at least one is made. -/
def attempts (s : BrowserSettings) : Nat := max s.resolveAttempts 1

end BrowserSettings

namespace MulticastSettings

def resolveTimeout (s : MulticastSettings) : Nat := Span.millis s.resolveTimeoutMs

def probeWindow (s : MulticastSettings) : Nat := Span.millis s.probeWindowMs

/-- The name under which peers seen by this directory are filed. -/
def interfaceLabel (s : MulticastSettings) : String := s.interface.getD "any"

end MulticastSettings

end ServiceDiscovery
