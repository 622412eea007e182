import ServiceDiscovery.Name
import ServiceDiscovery.Time.Span

/-!
# Errors

Why announcing or browsing fails, as causes; `DiscoveryError.message` words
them. No failure ends the program: a failed resolution and an unavailable
directory are retried, the others are answered to the caller.
-/

namespace ServiceDiscovery

/-- Where an announcer stands. -/
inductive AnnouncerStatus
  | unregistered
  | registering
  | active
  | withdrawing
  deriving DecidableEq, Repr, Inhabited

namespace AnnouncerStatus

/-- The word for a status. -/
def name : AnnouncerStatus → String
  | unregistered => "unregistered"
  | registering => "registering"
  | active => "active"
  | withdrawing => "withdrawing"

/-- The word for a status in an error message. -/
def title : AnnouncerStatus → String
  | unregistered => "Unregistered"
  | registering => "Registering"
  | active => "Active"
  | withdrawing => "Withdrawing"

end AnnouncerStatus

/-- Why the multicast responder refuses a request. -/
inductive MulticastFault
  /-- An address list has a piece that is no address. -/
  | address (reason : String)
  | keyNotAscii (key : String)
  | keyWithEquals (key : String)
  /-- A type that does not end in a transport and the local domain. -/
  | foreignType (type : String)
  | nameStart
  | doubleHyphen
  | edgeHyphen
  | noLetter
  /-- The responder has been shut down. -/
  | closed
  | tryAgain
  | described (text : String)
  deriving DecidableEq, Repr

namespace MulticastFault

/-- What is wrong with a text that is no internet address. -/
def notAnAddress : String := "invalid IP address syntax"

def message : MulticastFault → String
  | address reason => "parsing of ip addr failed, reason: " ++ reason
  | keyNotAscii key => "TXT property key " ++ key ++ " is not ASCII"
  | keyWithEquals key => "TXT property key " ++ key ++ " contains '='"
  | foreignType type => "mDNS service " ++ type ++ " must end with '._tcp.local.' or '._udp.local.'"
  | nameStart => "Service name must start with '_'"
  | doubleHyphen => "Service name must not contain '--'"
  | edgeHyphen => "Service name (%s) may not start or end with '-'"
  | noLetter => "Service name must contain at least one letter (eg: 'A-Za-z')"
  | closed => "flume::channel::send failed: sending on a closed channel"
  | tryAgain => "try again"
  | described text => text

end MulticastFault

/-- What is wrong with a record to be announced. -/
inductive RecordFault
  | emptyInstance
  | emptyServiceType
  | zeroPort
  | multicast (fault : MulticastFault)
  | described (text : String)
  deriving DecidableEq, Repr

def RecordFault.message : RecordFault → String
  | emptyInstance => "instance must not be empty"
  | emptyServiceType => "service type must not be empty"
  | zeroPort => "port must not be zero"
  | multicast fault => fault.message
  | described text => text

/-- Why a peer could not be resolved. -/
inductive ResolutionFault
  | recordUnavailable
  | heldFailed
  | timedOut (after : Nat)
  | described (text : String)
  deriving DecidableEq, Repr

def ResolutionFault.message : ResolutionFault → String
  | recordUnavailable => "record unavailable"
  | heldFailed => "held resolution failed"
  | timedOut after => "no resolved record within " ++ Span.render after
  | described text => text

/-- Why a directory is unavailable. -/
inductive Outage
  | refusedRegistration
  | refusedWatch
  | browseStopped (type fullName : String)
  | multicast (fault : MulticastFault)
  | described (text : String)
  deriving DecidableEq, Repr

def Outage.message : Outage → String
  | refusedRegistration => "fake directory refused registration"
  | refusedWatch => "fake directory refused watch"
  | browseStopped type fullName =>
    "browse of " ++ type ++ " stopped while probing for " ++ fullName
  | multicast fault => fault.message
  | described text => text

/-- Why announcing, browsing or resolving failed. -/
inductive DiscoveryError
  /-- An operation was asked for out of order. -/
  | invalidState (operation : String) (status : AnnouncerStatus)
  | invalidRecord (fault : RecordFault)
  /-- Another node holds the name already. -/
  | collision (fullName : String)
  | resolution (key : PeerKey) (fault : ResolutionFault)
  | unavailable (outage : Outage)
  deriving DecidableEq, Repr

namespace DiscoveryError

/-- The text of an error. -/
def message : DiscoveryError → String
  | invalidState operation status =>
    "cannot " ++ operation ++ " while announcer is " ++ status.title
  | invalidRecord fault => "invalid service record: " ++ fault.message
  | collision fullName => "service name " ++ fullName ++ " is already in use"
  | resolution key fault => "failed to resolve " ++ key.render ++ ": " ++ fault.message
  | unavailable outage => "service directory unavailable: " ++ outage.message

/-- A fault of the multicast responder, as it is answered to callers. -/
def ofMulticast (fault : MulticastFault) : DiscoveryError := .unavailable (.multicast fault)

end DiscoveryError

end ServiceDiscovery
