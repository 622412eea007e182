import ServiceDiscovery.Api.Response
import ServiceDiscovery.Json.Service

/-!
# Texts of responses

The body of a response as it is sent: JSON for what the node says about itself
and for entries, anything else as it is.
-/

namespace ServiceDiscovery.Api

/-- The text of what the node says about itself. -/
def SelfDescription.json (d : SelfDescription) : List Char :=
  Json.object [
    ("instance", Json.string d.record.instanceName),
    ("service_type", Json.string d.record.serviceType),
    ("port", Json.number d.record.port.toNat),
    ("metadata", tableJson d.record.metadata),
    ("state", Json.string d.status.name)]

/-- The text of a body. -/
def Body.render : Body UtcTime → String
  | .none => ""
  | .text t => t
  | .self d => String.ofList d.json
  | .entries es => String.ofList (Json.array (es.map PeerEntry.json))
  | .entry e => String.ofList e.json

namespace Response

/-- The text that is sent after the headers. -/
def bodyText (r : Response UtcTime) : String := if r.sendsBody then r.body.render else ""

/-- The status and the body on one line. -/
def line (r : Response UtcTime) : String := toString r.status ++ " " ++ r.bodyText

end Response

end ServiceDiscovery.Api
