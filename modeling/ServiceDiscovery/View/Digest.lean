import ServiceDiscovery.View.Table
import ServiceDiscovery.Json.Writer
import ServiceDiscovery.Digest.Sha256

/-!
# The digest of a view

A short text that tells whether the live peers changed: the SHA-256 hash, in
hexadecimal, of a JSON text of the entries. The entries are sorted by instance
name and then by service type; those that agree in both keep their order. Only
what says where a peer is enters the text, not the times.
-/

namespace ServiceDiscovery.Digest

variable {τ : Type u}

/-- Whether an entry may stand before another: by instance name, then by
    service type. -/
def le (x y : PeerEntry τ) : Bool :=
  x.instanceName < y.instanceName ||
    (x.instanceName = y.instanceName && x.serviceType ≤ y.serviceType)

/-- The text of an entry. -/
def entryText (e : PeerEntry τ) : List Char :=
  Json.object [
    ("instance_name", Json.string e.instanceName),
    ("service_type", Json.string e.serviceType),
    ("address", Json.string e.address.render),
    ("port", Json.number e.port.toNat)]

/-- The text that is hashed. -/
def text (entries : List (PeerEntry τ)) : String :=
  String.ofList (Json.array ((entries.mergeSort le).map entryText))

/-- The digest of some entries. -/
def of (entries : List (PeerEntry τ)) : String :=
  Sha256.hex (Sha256.hash (text entries).toUTF8.toList)

end ServiceDiscovery.Digest
