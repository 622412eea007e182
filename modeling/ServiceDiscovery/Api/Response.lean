import ServiceDiscovery.Api.Request
import ServiceDiscovery.Error

/-!
# Responses of the API

The answer to a request: status, headers and body. An error other than a
segment that is no text has an empty body.
-/

namespace ServiceDiscovery.Api

/-- What the node says about itself. -/
structure SelfDescription where
  record : ServiceRecord
  status : AnnouncerStatus
  deriving DecidableEq

/-- The body of a response. -/
inductive Body (τ : Type u)
  | none
  | text (text : String)
  | self (description : SelfDescription)
  | entries (entries : List (PeerEntry τ))
  | entry (entry : PeerEntry τ)
  deriving DecidableEq

namespace Body

variable {τ : Type u}

/-- The media type of a body. -/
def contentType? : Body τ → Option String
  | none => Option.none
  | text _ => some "text/plain; charset=utf-8"
  | self _ | entries _ | entry _ => some "application/json"

/-- The length in bytes of a body that is no JSON. -/
def plainLength? : Body τ → Option Nat
  | none => some 0
  | text t => some t.utf8ByteSize
  | self _ | entries _ | entry _ => Option.none

end Body

/-- The answer to a request. -/
structure Response (τ : Type u) where
  status : Nat
  /-- Whether it names the methods allowed. -/
  allow : Bool := false
  body : Body τ := .none
  /-- Whether the body itself is sent. -/
  sendsBody : Bool := true
  deriving DecidableEq

namespace Response

variable {τ : Type u}

/-- The methods that every resource allows. -/
def allowed : String := "GET,HEAD"

/-- What is said about a segment that is no text. -/
def badSegment : String := "Invalid URL: Invalid UTF-8 in `instance`"

/-- The answer that the view's reply makes. -/
def ofReply : ViewReply τ → Response τ
  | .entries entries => { status := 200, body := .entries entries }
  | .entry (some entry) => { status := 200, body := .entry entry }
  | .entry none => { status := 404 }
  | .changed _ | .closed => { status := 500 }

/-- The answer to an action, given the node's description, the digest
    published last, and the view's reply. -/
def of (description : SelfDescription) (digest : String) (reply : ViewReply τ) :
    Action → Response τ
  | .notFound => { status := 404 }
  | .notAllowed => { status := 405, allow := true }
  | .badSegment => { status := 400, body := .text badSegment }
  | .self => { status := 200, body := .self description }
  | .digest => { status := 200, body := .text digest }
  | .peers | .peer _ => ofReply reply

/-- The answer without its body. -/
def withoutBody (r : Response τ) : Response τ := { r with sendsBody := false }

end Response

end ServiceDiscovery.Api
