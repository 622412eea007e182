import Mathlib.Data.List.Sort
import Mathlib.Logic.Basic
import ServiceDiscovery.Multicast.Advert
import ServiceDiscovery.Proofs.Address.Order

/-!
# Records that are published

A node publishes its own record as an advert, at the addresses of a configured text, which
lists them between commas (`Advert.Lists`).

Main statement: the advert is made if every piece of the text is an address and every
property key is allowed, and not otherwise. It is published at the addresses of the
interfaces if the text is empty, and at those that are listed if it is not; then its
endpoint is at the least of them. Which pieces the text has is all that counts, whatever
their order and however often each of them occurs (`Advert.published_where_listed`).
-/

namespace ServiceDiscovery.Advert

/-! ## Ordered lists of addresses -/

/-- An address comes before another one. -/
def Before (x y : IpAddress) : Prop := x.le y = true ∧ x ≠ y

instance : Std.Irrefl Before := ⟨fun _ h => h.2 rfl⟩

instance : Std.Antisymm Before := ⟨fun _ _ hxy hyx => IpAddress.le_antisymm hxy.1 hyx.1⟩

variable {ip : IpAddress} {ips : List IpAddress}

theorem mem_insertAddress {x : IpAddress} : ip ∈ insertAddress x ips ↔ ip = x ∨ ip ∈ ips := by
  induction ips with
  | nil => simp [insertAddress]
  | cons y ips ih =>
    rw [insertAddress]
    split
    · rename_i hy
      simp [hy]
    · split
      · exact List.mem_cons
      · rw [List.mem_cons, ih, List.mem_cons]
        exact or_left_comm

theorem pairwise_insertAddress (x : IpAddress) (h : ips.Pairwise Before) :
    (insertAddress x ips).Pairwise Before := by
  induction ips with
  | nil => exact List.pairwise_singleton Before x
  | cons y ips ih =>
    obtain ⟨hy, hips⟩ := List.pairwise_cons.1 h
    rw [insertAddress]
    split
    · exact h
    · rename_i hne
      split
      · rename_i hle
        refine List.pairwise_cons.2 ⟨fun z hz => ?_, h⟩
        rcases List.mem_cons.1 hz with rfl | hz
        · exact ⟨hle, Ne.symm hne⟩
        · obtain ⟨hyz, hdiff⟩ := hy z hz
          refine ⟨IpAddress.le_trans hle hyz, ?_⟩
          rintro rfl
          exact hdiff (IpAddress.le_antisymm hyz hle)
      · rename_i hgt
        refine List.pairwise_cons.2 ⟨fun z hz => ?_, ih hips⟩
        rcases mem_insertAddress.1 hz with rfl | hz
        · exact ⟨(IpAddress.le_total _ y).resolve_left hgt, hne⟩
        · exact hy z hz

theorem mem_foldr_insertAddress : ip ∈ ips.foldr insertAddress [] ↔ ip ∈ ips := by
  induction ips with
  | nil => exact Iff.rfl
  | cons x ips ih => rw [List.foldr_cons, mem_insertAddress, ih, List.mem_cons]

theorem pairwise_foldr_insertAddress (ips : List IpAddress) :
    (ips.foldr insertAddress []).Pairwise Before := by
  induction ips with
  | nil => exact .nil
  | cons x ips ih => exact pairwise_insertAddress x ih

/-! ## Texts that list addresses -/

/-- A piece of the text is the address. -/
def Lists (text : String) (ip : IpAddress) : Prop :=
  ∃ piece ∈ addressPieces text, IpAddress.read? piece = some ip

variable {text other : String}

/-- Every piece is read, or nothing is. -/
theorem mapM_eq_some {α β : Type} {f : α → Option β} {xs : List α} {ys : List β}
    (h : xs.mapM f = some ys) : (∀ x ∈ xs, ∃ y, f x = some y) ∧
      ∀ y, y ∈ ys ↔ ∃ x ∈ xs, f x = some y := by
  induction xs generalizing ys with
  | nil =>
    obtain rfl := Option.some.inj h
    simp
  | cons x xs ih =>
    rw [List.mapM_cons] at h
    obtain ⟨y, hy, h⟩ := Option.bind_eq_some_iff.1 h
    obtain ⟨ys', hys, h⟩ := Option.bind_eq_some_iff.1 h
    obtain rfl := Option.some.inj h
    obtain ⟨hall, hmem⟩ := ih hys
    refine ⟨List.forall_mem_cons.2 ⟨⟨y, hy⟩, hall⟩, fun z => ?_⟩
    rw [List.mem_cons, hmem, List.exists_mem_cons_iff, hy, Option.some_inj, eq_comm]

theorem exists_mapM_eq_some {α β : Type} {f : α → Option β} {xs : List α}
    (h : ∀ x ∈ xs, ∃ y, f x = some y) : ∃ ys, xs.mapM f = some ys := by
  induction xs with
  | nil => exact ⟨[], rfl⟩
  | cons x xs ih =>
    obtain ⟨⟨y, hy⟩, hrest⟩ := List.forall_mem_cons.1 h
    obtain ⟨ys, hys⟩ := ih hrest
    exact ⟨y :: ys, by rw [List.mapM_cons, hy, hys]; rfl⟩

/-- The addresses of a text are those listed, in their order. -/
theorem addresses?_eq_some_iff : addresses? text = some ips ↔
    (∀ piece ∈ addressPieces text, ∃ ip, IpAddress.read? piece = some ip) ∧
      ips.Pairwise Before ∧ ∀ ip, ip ∈ ips ↔ Lists text ip := by
  rw [addresses?]
  constructor
  · intro h
    obtain ⟨read, hread, rfl⟩ := Option.map_eq_some_iff.1 h
    obtain ⟨hall, hmem⟩ := mapM_eq_some hread
    exact ⟨hall, pairwise_foldr_insertAddress read,
      fun ip => mem_foldr_insertAddress.trans (hmem ip)⟩
  · rintro ⟨hall, hsorted, hmem⟩
    obtain ⟨read, hread⟩ := exists_mapM_eq_some hall
    rw [hread, Option.map_some]
    refine congrArg some ((pairwise_foldr_insertAddress read).eq_of_mem_iff hsorted fun ip => ?_)
    rw [mem_foldr_insertAddress, (mapM_eq_some hread).2, hmem]
    rfl

theorem exists_addresses?_iff : (∃ ips, addresses? text = some ips) ↔
    ∀ piece ∈ addressPieces text, ∃ ip, IpAddress.read? piece = some ip := by
  refine ⟨fun ⟨ips, h⟩ => (addresses?_eq_some_iff.1 h).1, fun h => ?_⟩
  obtain ⟨read, hread⟩ := exists_mapM_eq_some h
  exact ⟨_, by rw [addresses?, hread, Option.map_some]⟩

/-- The same pieces, in whatever order and however often, are the same addresses. -/
theorem addresses?_congr (h : ∀ piece, piece ∈ addressPieces other ↔ piece ∈ addressPieces text) :
    addresses? other = addresses? text := by
  refine Option.ext fun ips => ?_
  simp only [addresses?_eq_some_iff, Lists, h]

theorem addressPieces_eq_nil_iff : addressPieces text = [] ↔ text = "" := by
  rw [addressPieces]
  split
  · rename_i h
    exact iff_of_true rfl (String.isEmpty_iff.1 h)
  · rename_i h
    have hsplit : splitAtChar ',' text.toList ≠ [] := by
      cases text.toList with
      | nil => exact List.cons_ne_nil _ _
      | cons c cs =>
        rw [splitAtChar]
        split
        · exact List.cons_ne_nil _ _
        · split <;> exact List.cons_ne_nil _ _
    exact iff_of_false (fun hnil => hsplit (List.map_eq_nil_iff.1 hnil))
      fun he => h (String.isEmpty_iff.2 he)

/-- Every piece is an address: there is none in the empty text, and otherwise they are what
    stands between the commas, without the blanks around it. -/
theorem forall_addressPieces_iff :
    (∀ piece ∈ addressPieces text, ∃ ip, IpAddress.read? piece = some ip) ↔
      text = "" ∨ ∀ piece ∈ splitAtChar ',' text.toList,
        ∃ ip, IpAddress.readChars? (trimBlanks piece) = some ip := by
  by_cases htext : text = ""
  · rw [addressPieces_eq_nil_iff.2 htext]
    exact iff_of_true (fun _ hp => absurd hp List.not_mem_nil) (.inl htext)
  · rw [addressPieces, if_neg fun h => htext (String.isEmpty_iff.1 h), or_iff_right htext,
      List.forall_mem_map]
    simp only [IpAddress.read?, String.toList_ofList]

/-- No address is listed in the empty text only. -/
theorem addresses_eq_nil_iff (h : addresses? text = some ips) : ips = [] ↔ text = "" := by
  obtain ⟨hall, -, hmem⟩ := addresses?_eq_some_iff.1 h
  rw [← addressPieces_eq_nil_iff, List.eq_nil_iff_forall_not_mem, List.eq_nil_iff_forall_not_mem]
  constructor
  · intro hnone piece hpiece
    obtain ⟨ip, hip⟩ := hall piece hpiece
    exact hnone ip ((hmem ip).2 ⟨piece, hpiece, hip⟩)
  · intro hnone ip hip
    obtain ⟨piece, hpiece, -⟩ := (hmem ip).1 hip
    exact hnone piece hpiece

/-- The least address that a text lists: an IPv4 address, if it lists any. -/
theorem exists_least (h : addresses? text = some ips) (htext : text ≠ "") :
    ∃ ip, IpAddress.least? ips = some ip ∧ Lists text ip ∧
      (∀ other, Lists text other → ip.le other) ∧
      ((∃ v4, Lists text (.v4 v4)) → ∃ v4, ip = .v4 v4) := by
  obtain ⟨-, -, hmem⟩ := addresses?_eq_some_iff.1 h
  obtain ⟨ip, hip⟩ := Option.ne_none_iff_exists'.1
    (mt IpAddress.least?_eq_none_iff.1 (mt (addresses_eq_nil_iff h).1 htext))
  obtain ⟨hin, hleast⟩ := IpAddress.least?_spec hip
  have hfirst : ∀ other, Lists text other → ip.le other = true :=
    fun other hother => hleast other ((hmem other).2 hother)
  exact ⟨ip, hip, (hmem ip).1 hin, hfirst,
    fun ⟨v4, hv4⟩ => IpAddress.exists_v4_of_le (hfirst _ hv4)⟩

/-! ## Adverts that are made -/

/-- A property key that may be published: of ASCII characters, without an equals sign. -/
def IsKey (key : String) : Prop := (∀ c ∈ key.toList, c.toNat < 128) ∧ '=' ∉ key.toList

theorem keyFault?_eq_none_iff {key : String} : keyFault? key = none ↔ IsKey key := by
  have hascii : (key.toList.any fun c => decide (c.toNat ≥ 128)) = true ↔
      ¬ ∀ c ∈ key.toList, c.toNat < 128 := by
    simp
  rw [keyFault?, IsKey]
  split
  · rename_i h
    exact iff_of_false nofun fun hkey => hascii.1 h hkey.1
  · rename_i h
    have hall := Classical.not_not.1 fun hnot => h (hascii.2 hnot)
    split
    · rename_i hequals
      exact iff_of_false nofun fun hkey => hkey.2 hequals
    · exact iff_of_true rfl ⟨hall, ‹_›⟩

variable {record : ServiceRecord} {settings : MulticastSettings} {advert : Advert}

/-- What the advert of a record is, and when there is one. -/
theorem ofRecord_eq_ok_iff : ofRecord record settings = .ok advert ↔
    ∃ addresses, addresses? (settings.address.getD "") = some addresses ∧
      (∀ key ∈ record.metadata.keys, IsKey key) ∧
      advert = {
        fullName := record.instanceName ++ "." ++ (splitSubtype record.serviceType).1
        type := (splitSubtype record.serviceType).1
        subtype := (splitSubtype record.serviceType).2
        port := record.port
        addresses
        autoAddress := (settings.address.getD "").isEmpty
        properties := record.metadata } := by
  have hkeys : record.metadata.keys.findSome? keyFault? = none ↔
      ∀ key ∈ record.metadata.keys, IsKey key := by
    simp only [List.findSome?_eq_none_iff, keyFault?_eq_none_iff]
  rw [ofRecord, make]
  cases haddresses : addresses? (settings.address.getD "") with
  | none => exact iff_of_false nofun fun ⟨_, h, _⟩ => by cases h
  | some addresses =>
    dsimp only
    cases hfault : record.metadata.keys.findSome? keyFault? with
    | some fault =>
      refine iff_of_false nofun fun ⟨_, _, hall, _⟩ => ?_
      cases hfault.symm.trans (hkeys.2 hall)
    | none =>
      constructor
      · intro h
        exact ⟨addresses, rfl, hkeys.1 hfault, (Except.ok.inj h).symm⟩
      · rintro ⟨_, h, -, rfl⟩
        obtain rfl := Option.some.inj h
        rfl

theorem exists_ofRecord_iff : (∃ advert, ofRecord record settings = .ok advert) ↔
    (∃ addresses, addresses? (settings.address.getD "") = some addresses) ∧
      ∀ key ∈ record.metadata.keys, IsKey key := by
  constructor
  · rintro ⟨advert, h⟩
    obtain ⟨addresses, haddresses, hkeys, -⟩ := ofRecord_eq_ok_iff.1 h
    exact ⟨⟨addresses, haddresses⟩, hkeys⟩
  · rintro ⟨⟨addresses, haddresses⟩, hkeys⟩
    exact ⟨_, ofRecord_eq_ok_iff.2 ⟨addresses, haddresses, hkeys, rfl⟩⟩

/-- Only the pieces of the configured text count. -/
theorem ofRecord_congr {address : Option String}
    (h : ∀ piece, piece ∈ addressPieces (address.getD "") ↔
      piece ∈ addressPieces (settings.address.getD "")) :
    ofRecord record { settings with address } = ofRecord record settings := by
  have hempty : (address.getD "").isEmpty = (settings.address.getD "").isEmpty := by
    rw [Bool.eq_iff_iff, String.isEmpty_iff, String.isEmpty_iff, ← addressPieces_eq_nil_iff,
      ← addressPieces_eq_nil_iff, List.eq_nil_iff_forall_not_mem, List.eq_nil_iff_forall_not_mem]
    simp only [h]
  rw [ofRecord, ofRecord, make, make, addresses?_congr h, hempty]

/-- A record is published if and only if the configured text is missing or empty, or each of
    its pieces is an address, and every property key is allowed. Then either the text is
    empty, and the record is published at the addresses of the interfaces, with none of its
    own; or its endpoint is at the least of the addresses listed, which is an IPv4 one if any
    is. A text with the same pieces, in another order or repeated, leads to the same advert or
    to the same refusal. (The empty text has no pieces, a comma stands between two.) -/
theorem published_where_listed (record : ServiceRecord) (settings : MulticastSettings) :
    let text := settings.address.getD ""
    ((∃ advert, ofRecord record settings = .ok advert) ↔
      (text = "" ∨ ∀ piece ∈ splitAtChar ',' text.toList,
        ∃ ip, IpAddress.readChars? (trimBlanks piece) = some ip) ∧
      ∀ key ∈ record.metadata.keys, IsKey key) ∧
    (∀ advert, ofRecord record settings = .ok advert →
      Xor (advert.autoAddress = true ∧ advert.addresses = [])
        (advert.autoAddress = false ∧ ∃ ip, advert.endpoint? = some (.of ip record.port) ∧
          Lists text ip ∧ (∀ other, Lists text other → ip.le other) ∧
          ((∃ v4, Lists text (.v4 v4)) → ∃ v4, ip = .v4 v4))) ∧
    ∀ address, (∀ piece, piece ∈ addressPieces (address.getD "") ↔ piece ∈ addressPieces text) →
      ofRecord record { settings with address } = ofRecord record settings := by
  intro text
  refine ⟨?_, fun advert hadvert => ?_, fun address hpieces => ofRecord_congr hpieces⟩
  · rw [exists_ofRecord_iff, exists_addresses?_iff, forall_addressPieces_iff]
  · obtain ⟨addresses, haddresses, -, rfl⟩ := ofRecord_eq_ok_iff.1 hadvert
    by_cases htext : text = ""
    · have hauto : text.isEmpty = true := String.isEmpty_iff.2 htext
      exact .inl ⟨⟨hauto, (addresses_eq_nil_iff haddresses).2 htext⟩,
        fun h => by cases hauto.symm.trans h.1⟩
    · have hauto : text.isEmpty = false :=
        eq_false_of_ne_true fun h => htext (String.isEmpty_iff.1 h)
      obtain ⟨ip, hip, hlisted⟩ := exists_least haddresses htext
      exact .inr ⟨⟨hauto, ip, congrArg (Option.map _) hip, hlisted⟩,
        fun h => by cases hauto.symm.trans h.1⟩

/-- A text that lists addresses of both families, and one that lists them in another order and
    one of them twice. -/
theorem published_where_listed_mixed :
    let record : ServiceRecord := {
      instanceName := "nas", serviceType := "_files._tcp.local.", port := 9000
      metadata := Association.empty.put "version" "1" }
    let text := "fe80::1, 10.0.0.9 ,10.0.0.5"
    let settings : MulticastSettings := { address := some text }
    let least : IpAddress := .v4 ⟨10, 0, 0, 5⟩
    ∃ advert, ofRecord record settings = .ok advert ∧ advert.endpoint? = some (.of least 9000) ∧
      advert.autoAddress = false ∧ (∀ other, Lists text other → least.le other) ∧
      ofRecord record { settings with address := some "10.0.0.5,10.0.0.9,fe80::1,10.0.0.5" } =
        .ok advert := by
  intro record text settings least
  obtain ⟨hmade, hpublished, hsame⟩ := published_where_listed record settings
  have hread : ∀ piece ∈ splitAtChar ',' text.toList,
      (IpAddress.readChars? (trimBlanks piece)).isSome := by decide +kernel
  have hkeys : ∀ key ∈ record.metadata.keys, keyFault? key = none := by decide +kernel
  have hleast : (addresses? text).bind IpAddress.least? = some least := by decide +kernel
  have htext : text.isEmpty = false := by decide +kernel
  have hpieces : addressPieces "10.0.0.5,10.0.0.9,fe80::1,10.0.0.5" =
      ["10.0.0.5", "10.0.0.9", "fe80::1", "10.0.0.5"] ∧
        addressPieces text = ["fe80::1", "10.0.0.9", "10.0.0.5"] := by decide +kernel
  obtain ⟨advert, hadvert⟩ := hmade.2
    ⟨.inr fun piece hpiece => Option.isSome_iff_exists.1 (hread piece hpiece),
      fun key hkey => keyFault?_eq_none_iff.1 (hkeys key hkey)⟩
  have hsecond := hsame (some "10.0.0.5,10.0.0.9,fe80::1,10.0.0.5") fun piece => by
    change piece ∈ addressPieces "10.0.0.5,10.0.0.9,fe80::1,10.0.0.5" ↔ piece ∈ addressPieces text
    rw [hpieces.1, hpieces.2]
    grind
  obtain ⟨addresses, haddresses, -, he⟩ := ofRecord_eq_ok_iff.1 hadvert
  have hauto : advert.autoAddress = false := by rw [he]; exact htext
  have hendpoint : advert.endpoint? = some (.of least 9000) := by
    have hread : addresses? text = some addresses := haddresses
    rw [hread, Option.bind_some] at hleast
    rw [he, endpoint?, hleast]
    rfl
  rcases hpublished advert hadvert with ⟨⟨hon, -⟩, -⟩ | ⟨⟨-, ip, hip, -, hfirst, -⟩, -⟩
  · cases hauto.symm.trans hon
  · obtain rfl : least = ip := by
      rw [← Endpoint.ip_of least 9000, ← Endpoint.ip_of ip 9000,
        Option.some.inj (hendpoint.symm.trans hip)]
    exact ⟨advert, hadvert, hendpoint, hauto, hfirst, hsecond.trans hadvert⟩

end ServiceDiscovery.Advert
