import ServiceDiscovery.Json.Reader
import ServiceDiscovery.Json.Writer
import ServiceDiscovery.Error
import ServiceDiscovery.Time.UtcTime
import ServiceDiscovery.View.Table

/-!
# Services and peers in JSON

How service records, protocols, keys, peers and entries of the peer table are
written in JSON and read again. A record is an object of its fields; addresses
and times are strings. The metadata of a service record may be left out.
-/

namespace ServiceDiscovery

open Json

/-! ## Parts -/

/-- Read an address. -/
def readAddress : Reader IpAddress :=
  readParsed "IP address" fun s =>
    match IpAddress.read? s with
    | some ip => .ok ip
    | none => .error MulticastFault.notAnAddress

/-- Read a time. -/
def readTime : Reader UtcTime :=
  readParsed "an RFC 3339 formatted date and time string" fun s =>
    match UtcTime.parse s with
    | .ok t => .ok t
    | .error fault => .error fault.message

/-- The text of a table. -/
def tableJson (table : Association String String) : List Char :=
  Json.object (table.bindings.map fun (name, value) => (name, Json.string value))

namespace Protocol

/-- The text of a protocol. -/
def json (p : Protocol) : List Char := Json.string p.name

/-- Read a protocol. -/
def readJson : Reader Protocol := readWordOf (all.map name) ofName?

end Protocol

/-! ## Keys -/

/-- The fields of a key that were read. -/
structure PeerKeyDraft where
  interface : Option String := none
  protocol : Option Protocol := none
  name : Option String := none
  serviceType : Option String := none
  domain : Option String := none

namespace PeerKey

/-- The text of a key. -/
def json (k : PeerKey) : List Char :=
  Json.object [
    ("interface", Json.string k.interface),
    ("protocol", k.protocol.json),
    ("name", Json.string k.name),
    ("service_type", Json.string k.serviceType),
    ("domain", Json.string k.domain)]

/-- How a key is read. -/
def jsonFormat : RecordFormat PeerKeyDraft PeerKey where
  name := "PeerKey"
  fields := [
    .of "interface" (·.interface) (fun d x => { d with interface := some x }) (readText "a string"),
    .of "protocol" (·.protocol) (fun d x => { d with protocol := some x }) Protocol.readJson,
    .of "name" (·.name) (fun d x => { d with name := some x }) (readText "a string"),
    .of "service_type" (·.serviceType) (fun d x => { d with serviceType := some x })
      (readText "a string"),
    .of "domain" (·.domain) (fun d x => { d with domain := some x }) (readText "a string")]
  blank := {}
  build d := do
    return {
      interface := ← d.interface
      protocol := ← d.protocol
      name := ← d.name
      serviceType := ← d.serviceType
      domain := ← d.domain }

end PeerKey

/-! ## Peers -/

/-- The fields of a peer that were read. -/
structure PeerDraft where
  key : Option PeerKey := none
  address : Option IpAddress := none
  port : Option UInt16 := none

namespace Peer

/-- The text of a peer. -/
def json (p : Peer) : List Char :=
  Json.object [
    ("key", p.key.json),
    ("address", Json.string p.address.render),
    ("port", Json.number p.port.toNat)]

/-- How a peer is read. -/
def jsonFormat : RecordFormat PeerDraft Peer where
  name := "Peer"
  fields := [
    .of "key" (·.key) (fun d x => { d with key := some x }) PeerKey.jsonFormat.read,
    .of "address" (·.address) (fun d x => { d with address := some x }) readAddress,
    .of "port" (·.port) (fun d x => { d with port := some x }) readPort]
  blank := {}
  build d := do return { key := ← d.key, address := ← d.address, port := ← d.port }

end Peer

/-! ## Service records -/

/-- The fields of a service record that were read. -/
structure ServiceRecordDraft where
  instanceName : Option String := none
  serviceType : Option String := none
  port : Option UInt16 := none
  metadata : Option (Association String String) := none

namespace ServiceRecord

/-- The text of a service record. -/
def json (r : ServiceRecord) : List Char :=
  Json.object [
    ("instance", Json.string r.instanceName),
    ("service_type", Json.string r.serviceType),
    ("port", Json.number r.port.toNat),
    ("metadata", tableJson r.metadata)]

/-- How a service record is read. -/
def jsonFormat : RecordFormat ServiceRecordDraft ServiceRecord where
  name := "ServiceRecord"
  fields := [
    .of "instance" (·.instanceName) (fun d x => { d with instanceName := some x })
      (readText "a string"),
    .of "service_type" (·.serviceType) (fun d x => { d with serviceType := some x })
      (readText "a string"),
    .of "port" (·.port) (fun d x => { d with port := some x }) readPort,
    .optional (.of "metadata" (·.metadata) (fun d x => { d with metadata := some x }) readTable)]
  blank := {}
  build d := do
    return {
      instanceName := ← d.instanceName
      serviceType := ← d.serviceType
      port := ← d.port
      metadata := d.metadata.getD .empty }

end ServiceRecord

/-! ## Entries -/

/-- The fields of an entry that were read. -/
structure PeerEntryDraft where
  instanceName : Option String := none
  serviceType : Option String := none
  address : Option IpAddress := none
  port : Option UInt16 := none
  firstSeen : Option UtcTime := none
  lastChanged : Option UtcTime := none

namespace PeerEntry

/-- The text of an entry. -/
def json (e : PeerEntry UtcTime) : List Char :=
  Json.object [
    ("instance_name", Json.string e.instanceName),
    ("service_type", Json.string e.serviceType),
    ("address", Json.string e.address.render),
    ("port", Json.number e.port.toNat),
    ("first_seen", Json.string e.firstSeen.render),
    ("last_changed", Json.string e.lastChanged.render)]

/-- How an entry is read. -/
def jsonFormat : RecordFormat PeerEntryDraft (PeerEntry UtcTime) where
  name := "PeerEntry"
  fields := [
    .of "instance_name" (·.instanceName) (fun d x => { d with instanceName := some x })
      (readText "a string"),
    .of "service_type" (·.serviceType) (fun d x => { d with serviceType := some x })
      (readText "a string"),
    .of "address" (·.address) (fun d x => { d with address := some x }) readAddress,
    .of "port" (·.port) (fun d x => { d with port := some x }) readPort,
    .of "first_seen" (·.firstSeen) (fun d x => { d with firstSeen := some x }) readTime,
    .of "last_changed" (·.lastChanged) (fun d x => { d with lastChanged := some x }) readTime]
  blank := {}
  build d := do
    return {
      instanceName := ← d.instanceName
      serviceType := ← d.serviceType
      address := ← d.address
      port := ← d.port
      firstSeen := ← d.firstSeen
      lastChanged := ← d.lastChanged }

end PeerEntry

end ServiceDiscovery
