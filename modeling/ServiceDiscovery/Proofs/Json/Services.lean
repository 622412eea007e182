import ServiceDiscovery.Json.Service
import ServiceDiscovery.Proofs.Address.Text
import ServiceDiscovery.Proofs.Json.Reading
import ServiceDiscovery.Proofs.Time.Text

/-!
# Services and peers that are read again

Service records, protocols, keys, peers and entries of the peer table are read from their
texts as they were written, whatever their strings, addresses, ports, metadata and times.
So any text that is read as one of them may be replaced by the one that is written, which is
read as the same value (`Json.values_round_trip`).
-/

namespace ServiceDiscovery

open Json

/-! ## Parts -/

theorem reads_address (ip : IpAddress) : Reads readAddress (Json.string ip.render) ip := by
  refine reads_parsed ?_
  rw [IpAddress.read?, IpAddress.render, String.toList_ofList, IpAddress.readChars?_renderChars]

theorem reads_time (t : UtcTime) : Reads readTime (Json.string t.render) t := by
  refine reads_parsed ?_
  rw [t.parse_render]

theorem Protocol.reads_json (p : Protocol) : Reads Protocol.readJson p.json p := by
  refine reads_word ?_
  cases p <;> rfl

/-! ## Records -/

theorem PeerKey.reads_json (k : PeerKey) : Reads jsonFormat.read k.json k := by
  have hnames : (jsonFormat.fields.map (·.name)).Nodup := by decide +kernel
  have hfields : Fills jsonFormat.blank jsonFormat.fields
      [string k.interface, k.protocol.json, string k.name, string k.serviceType, string k.domain]
      ⟨k.interface, k.protocol, k.name, k.serviceType, k.domain⟩ :=
    .cons rfl (Field.reads_of reads_string) <| .cons rfl (Field.reads_of k.protocol.reads_json) <|
    .cons rfl (Field.reads_of reads_string) <| .cons rfl (Field.reads_of reads_string) <|
    .cons rfl (Field.reads_of reads_string) <| .nil _
  exact RecordFormat.reads_object hnames hfields rfl

theorem Peer.reads_json (p : Peer) : Reads jsonFormat.read p.json p := by
  have hnames : (jsonFormat.fields.map (·.name)).Nodup := by decide +kernel
  have hfields : Fills jsonFormat.blank jsonFormat.fields
      [p.key.json, string p.address.render, number p.port.toNat] ⟨p.key, p.address, p.port⟩ :=
    .cons rfl (Field.reads_of p.key.reads_json) <|
    .cons rfl (Field.reads_of (reads_address p.address)) <|
    .cons rfl (Field.reads_of (reads_port p.port)) <| .nil _
  exact RecordFormat.reads_object hnames hfields rfl

/-- The metadata are read in the order in which they were listed. -/
theorem ServiceRecord.reads_json (r : ServiceRecord) : Reads jsonFormat.read r.json r := by
  have hnames : (jsonFormat.fields.map (·.name)).Nodup := by decide +kernel
  have hfields : Fills jsonFormat.blank jsonFormat.fields
      [string r.instanceName, string r.serviceType, number r.port.toNat, tableJson r.metadata]
      ⟨r.instanceName, r.serviceType, r.port, r.metadata⟩ :=
    .cons rfl (Field.reads_of reads_string) <| .cons rfl (Field.reads_of reads_string) <|
    .cons rfl (Field.reads_of (reads_port r.port)) <|
    .cons rfl (Field.reads_optional (Field.reads_of (reads_table r.metadata))) <| .nil _
  exact RecordFormat.reads_object hnames hfields rfl

theorem PeerEntry.reads_json (e : PeerEntry UtcTime) : Reads jsonFormat.read e.json e := by
  have hnames : (jsonFormat.fields.map (·.name)).Nodup := by decide +kernel
  have hfields : Fills jsonFormat.blank jsonFormat.fields
      [string e.instanceName, string e.serviceType, string e.address.render, number e.port.toNat,
        string e.firstSeen.render, string e.lastChanged.render]
      ⟨e.instanceName, e.serviceType, e.address, e.port, e.firstSeen, e.lastChanged⟩ :=
    .cons rfl (Field.reads_of reads_string) <| .cons rfl (Field.reads_of reads_string) <|
    .cons rfl (Field.reads_of (reads_address e.address)) <|
    .cons rfl (Field.reads_of (reads_port e.port)) <|
    .cons rfl (Field.reads_of (reads_time e.firstSeen)) <|
    .cons rfl (Field.reads_of (reads_time e.lastChanged)) <| .nil _
  exact RecordFormat.reads_object hnames hfields rfl

/-! ## Every value -/

/-- What is written of any value is read as that value. And a text that is read as a value, in
    whatever form it was given, may be replaced by what is written of the value: the value
    that is read stays the same. -/
structure Json.RoundTrips {α : Type} (write : α → List Char) (read : Reader α) : Prop where
  written : ∀ a, parse read (String.ofList (write a)) = .ok a
  accepted : ∀ text a, parse read text = .ok a → parse read (String.ofList (write a)) = .ok a

theorem Json.RoundTrips.of_reads {α : Type} {write : α → List Char} {read : Reader α}
    (h : ∀ a, Reads read (write a) a) : RoundTrips write read where
  written a := (h a).parse
  accepted _ a _ := (h a).parse

/-- Service records, protocols, keys, peers and entries are read from their texts as they were
    written, whichever they are: the metadata of a record may be listed in any order, and
    times may lie in any year and in a leap second. -/
theorem Json.values_round_trip :
    RoundTrips ServiceRecord.json ServiceRecord.jsonFormat.read ∧
    RoundTrips Protocol.json Protocol.readJson ∧
    RoundTrips PeerKey.json PeerKey.jsonFormat.read ∧
    RoundTrips Peer.json Peer.jsonFormat.read ∧
    RoundTrips PeerEntry.json PeerEntry.jsonFormat.read :=
  ⟨.of_reads ServiceRecord.reads_json, .of_reads Protocol.reads_json,
    .of_reads PeerKey.reads_json, .of_reads Peer.reads_json, .of_reads PeerEntry.reads_json⟩

/-- Neither an entry given as an array, with a time in another time zone and a leap second, nor
    a record with escapes and another member is what is written of it. -/
theorem Json.values_round_trip_unlike :
    (∃ e, parse PeerEntry.jsonFormat.read
        ("[\"nas\", \"_files._tcp.local.\", \"fe80:0::1\", 8080, " ++
          "\"2024-01-01t01:30:00.5+02:00\", \"2016-12-31 23:59:60Z\"]") = .ok e ∧
      e.firstSeen.render = "2023-12-31T23:30:00.500Z" ∧
      parse PeerEntry.jsonFormat.read (String.ofList e.json) = .ok e) ∧
    ∃ r, parse ServiceRecord.jsonFormat.read
        ("\x7b\"port\": 80, \"rack\": [1, null], \"instance\": \"n\\u0061s\", " ++
          "\"service_type\": \"_files._tcp.local.\"\x7d") = .ok r ∧
      r.instanceName = "nas" ∧
      parse ServiceRecord.jsonFormat.read (String.ofList r.json) = .ok r := by
  let e : PeerEntry UtcTime := {
    instanceName := "nas"
    serviceType := "_files._tcp.local."
    address := .v6 ⟨[0xfe80, 0, 0, 0, 0, 0, 0, 1], rfl⟩
    port := 8080
    firstSeen := ⟨⟨2023, 12, 31, by decide⟩, 1410, 0, 500000000, by decide, by decide, by decide⟩
    lastChanged := ⟨⟨2016, 12, 31, by decide⟩, 1439, 60, 0, by decide, by decide, by decide⟩ }
  let r : ServiceRecord := { instanceName := "nas", serviceType := "_files._tcp.local.", port := 80 }
  obtain ⟨hrecord, -, -, -, hentry⟩ := values_round_trip
  have hfind {α : Type} {write : α → List Char} {read : Reader α} (h : RoundTrips write read)
      {text : String} {P : α → Prop} (a : α) (ha : parse read text = .ok a) (hP : P a) :
      ∃ a, parse read text = .ok a ∧ P a ∧ parse read (String.ofList (write a)) = .ok a :=
    ⟨a, ha, hP, h.accepted text a ha⟩
  exact ⟨hfind hentry e (by decide +kernel) (by decide +kernel),
    hfind hrecord r (by decide +kernel) rfl⟩

end ServiceDiscovery
