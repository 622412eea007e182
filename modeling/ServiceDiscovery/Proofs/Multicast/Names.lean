import Mathlib.Data.List.DropRight
import ServiceDiscovery.Name

/-!
# Names that survive being read

A key that was read off a full name under a type with a transport label writes the same
full name again exactly if that is the name of an instance: what precedes the type ends in
one dot and has none before it. So keys of different instances are different. A key of such
a name, whose type is split as it stands in the key, is written and read again
(`PeerKey.round_trips`).
-/

namespace ServiceDiscovery

/-! ## Lists of characters -/

theorem eq_append_of_beforeFirst? {word cs before : List Char}
    (h : beforeFirst? word cs = some before) : ∃ rest, cs = before ++ word ++ rest := by
  induction cs generalizing before with
  | nil =>
    rw [beforeFirst?] at h
    split at h
    · rename_i hempty
      obtain rfl := Option.some.inj h
      obtain rfl := List.isEmpty_iff.1 hempty
      exact ⟨[], rfl⟩
    · cases h
  | cons c cs ih =>
    rw [beforeFirst?] at h
    split at h
    · rename_i hprefix
      obtain rfl := Option.some.inj h
      obtain ⟨rest, hrest⟩ := List.isPrefixOf_iff_prefix.1 hprefix
      exact ⟨rest, hrest.symm⟩
    · obtain ⟨before', hbefore, rfl⟩ := Option.map_eq_some_iff.1 h
      obtain ⟨rest, hrest⟩ := ih hbefore
      exact ⟨rest, congrArg (c :: ·) hrest⟩

theorem beforeFirst?_ne_none {word cs : List Char} (h : word <:+: cs) :
    beforeFirst? word cs ≠ none := by
  induction cs with
  | nil =>
    obtain rfl := List.infix_nil.1 h
    exact Option.some_ne_none []
  | cons c cs ih =>
    rw [beforeFirst?]
    split
    · exact Option.some_ne_none []
    · rename_i hprefix
      rcases List.infix_cons_iff.1 h with h | h
      · exact absurd (List.isPrefixOf_iff_prefix.2 h) hprefix
      · exact fun he => ih h (Option.map_eq_none_iff.1 he)

theorem dropEnding?_eq_some_iff {ending cs before : List Char} :
    dropEnding? ending cs = some before ↔ cs = before ++ ending := by
  rw [dropEnding?]
  constructor
  · intro h
    split at h
    · rename_i hsuffix
      obtain ⟨start, rfl⟩ := List.isSuffixOf_iff_suffix.1 hsuffix
      rw [List.length_append, Nat.add_sub_cancel, List.take_left] at h
      rw [Option.some.inj h]
    · cases h
  · rintro rfl
    rw [if_pos (List.isSuffixOf_iff_suffix.2 (List.suffix_append before ending)),
      List.length_append, Nat.add_sub_cancel, List.take_left]

/-- A dot that is added is trimmed again. -/
theorem trimDots_concat (cs : List Char) : trimDots (cs ++ ['.']) = trimDots cs :=
  List.rdropWhile_concat_pos _ _ _ rfl

theorem trimDots_eq_self_iff {cs : List Char} : trimDots cs = cs ↔ cs.getLast? ≠ some '.' := by
  refine List.rdropWhile_eq_self_iff.trans ?_
  cases hlast : cs.getLast? with
  | none =>
    rw [List.getLast?_eq_none_iff] at hlast
    exact iff_of_true (fun hne => absurd hlast hne) nofun
  | some c =>
    obtain ⟨hne, hc⟩ := List.mem_getLast?_eq_getLast hlast
    rw [forall_prop_of_true hne, ← hc]
    simp

/-- What is trimmed is no longer than before. -/
theorem length_trimDots_le (cs : List Char) : (trimDots cs).length ≤ cs.length :=
  (List.rdropWhile_prefix _ cs).length_le

/-! ## Service types -/

/-- Whether a type with domain has a transport label. -/
def HasTransport (typeDomain : String) : Prop :=
  ∃ label ∈ transportLabels, label.toList <:+: typeDomain.toList

/-- A transport label ends in a dot. -/
theorem dropLast_append_of_mem {label : String} (h : label ∈ transportLabels) :
    label.toList.dropLast ++ ['.'] = label.toList := by
  have hlabels : ∀ label ∈ transportLabels,
      label.toList.dropLast ++ ['.'] = label.toList := by decide
  exact hlabels label h

/-- The parts of a type with domain, joined by a dot, are the whole. -/
theorem join_splitTypeDomain {typeDomain : String} (h : HasTransport typeDomain) :
    (splitTypeDomain typeDomain).1 ++ "." ++ (splitTypeDomain typeDomain).2 = typeDomain := by
  rw [splitTypeDomain]
  split
  · rename_i n hn
    obtain ⟨label, hlabel, hn⟩ := List.exists_of_findSome?_eq_some hn
    obtain ⟨before, hbefore, rfl⟩ := Option.map_eq_some_iff.1 hn
    obtain ⟨rest, hrest⟩ := eq_append_of_beforeFirst? hbefore
    obtain ⟨label', hlabel'⟩ : ∃ cs, cs ++ ['.'] = label.toList :=
      ⟨_, dropLast_append_of_mem hlabel⟩
    have hlength : label.length = label'.length + 1 := by
      rw [← String.length_toList, ← hlabel', List.length_append, List.length_singleton]
    have hcs : typeDomain.toList = (before ++ label') ++ '.' :: rest := by
      rw [hrest, ← hlabel']
      simp only [List.append_assoc, List.singleton_append]
    have hfirst : typeDomain.toList.take (before.length + label.length - 1) = before ++ label' := by
      rw [hcs, List.take_left']
      rw [List.length_append, hlength]
      omega
    have hsecond : typeDomain.toList.drop (before.length + label.length) = rest := by
      rw [hcs, List.append_cons, List.drop_left']
      simp only [List.length_append, List.length_singleton, hlength]
      omega
    apply String.toList_inj.1
    rw [String.toList_append, String.toList_append, String.toList_ofList, String.toList_ofList,
      hfirst, hsecond, hcs]
    simp
  · rename_i hnone
    obtain ⟨label, hlabel, hinfix⟩ := h
    have hfound := List.findSome?_eq_none_iff.1 hnone label hlabel
    exact absurd (Option.map_eq_none_iff.1 hfound) (beforeFirst?_ne_none hinfix)

/-! ## Keys and full names -/

/-- Whether a full name is that of an instance of a type: a name without a dot at the
    end, a dot, and the type. -/
def IsInstance (typeDomain fullName : String) : Prop :=
  ∃ name : String, fullName = name ++ "." ++ typeDomain ∧ name.toList.getLast? ≠ some '.'

/-- The key of an instance has the name that stands before the type. -/
theorem PeerKey.ofFullName_instance {name : String} (h : name.toList.getLast? ≠ some '.')
    (typeDomain interface : String) :
    PeerKey.ofFullName (name ++ "." ++ typeDomain) typeDomain interface =
      { interface, protocol := .unspec, name, serviceType := (splitTypeDomain typeDomain).1
        domain := (splitTypeDomain typeDomain).2 } := by
  have hending : dropEnding? typeDomain.toList (name ++ "." ++ typeDomain).toList =
      some (name.toList ++ ['.']) := by
    rw [dropEnding?_eq_some_iff, String.toList_append, String.toList_append]
    rfl
  rw [PeerKey.ofFullName, hending]
  dsimp only
  rw [trimDots_concat, trimDots_eq_self_iff.2 h, String.ofList_toList]

/-- Keys of different instances are different. -/
theorem PeerKey.ofFullName_inj {typeDomain fullName other interface : String}
    (h : IsInstance typeDomain fullName) (h' : IsInstance typeDomain other)
    (he : PeerKey.ofFullName fullName typeDomain interface =
      .ofFullName other typeDomain interface) : fullName = other := by
  obtain ⟨name, rfl, hname⟩ := h
  obtain ⟨name', rfl, hname'⟩ := h'
  rw [ofFullName_instance hname, ofFullName_instance hname'] at he
  obtain rfl : name = name' := congrArg PeerKey.name he
  rfl

/-- A key that was read is written as its name, a dot and the type. -/
theorem PeerKey.fullName_eq_append {typeDomain : String} (ht : HasTransport typeDomain)
    (fullName interface : String) :
    (PeerKey.ofFullName fullName typeDomain interface).fullName =
      (PeerKey.ofFullName fullName typeDomain interface).name ++ "." ++ typeDomain := by
  generalize hkey : PeerKey.ofFullName fullName typeDomain interface = key
  have hparts : (key.serviceType, key.domain) = splitTypeDomain typeDomain := by
    rw [← hkey]
    rfl
  calc key.name ++ "." ++ key.serviceType ++ "." ++ key.domain
    _ = key.name ++ "." ++ (key.serviceType ++ "." ++ key.domain) := by
        simp only [String.append_assoc]
    _ = key.name ++ "." ++ typeDomain := by rw [← join_splitTypeDomain ht, ← hparts]

/-- A full name that was read is written again. -/
theorem PeerKey.fullName_ofFullName {typeDomain fullName : String}
    (ht : HasTransport typeDomain) (h : IsInstance typeDomain fullName) (interface : String) :
    (PeerKey.ofFullName fullName typeDomain interface).fullName = fullName := by
  rw [fullName_eq_append ht]
  obtain ⟨name, rfl, hname⟩ := h
  rw [ofFullName_instance hname]

/-- The characters of the name that is read off a full name. -/
theorem PeerKey.toList_name_ofFullName (fullName typeDomain interface : String) :
    (ofFullName fullName typeDomain interface).name.toList =
      match dropEnding? typeDomain.toList fullName.toList with
      | some cs => trimDots cs
      | none => fullName.toList := by
  rw [ofFullName]
  cases dropEnding? typeDomain.toList fullName.toList with
  | none => rfl
  | some cs => exact String.toList_ofList

/-- Only the full name of an instance is written as it was read. -/
theorem PeerKey.isInstance_of_fullName {typeDomain fullName interface : String}
    (ht : HasTransport typeDomain)
    (h : (PeerKey.ofFullName fullName typeDomain interface).fullName = fullName) :
    IsInstance typeDomain fullName := by
  rw [fullName_eq_append ht] at h
  have hread := toList_name_ofFullName fullName typeDomain interface
  generalize (PeerKey.ofFullName fullName typeDomain interface).name = name at h hread
  refine ⟨name, h.symm, ?_⟩
  -- What precedes the type is the name that is read and a dot; the name is what is left of it.
  have hending : dropEnding? typeDomain.toList fullName.toList = some (name.toList ++ ['.']) := by
    rw [dropEnding?_eq_some_iff, ← h, String.toList_append, String.toList_append]
    rfl
  rw [hending] at hread
  dsimp only at hread
  rw [trimDots_concat] at hread
  exact trimDots_eq_self_iff.1 hread.symm

/-- A key that was written is read again. -/
theorem PeerKey.ofFullName_fullName {key : PeerKey} (hname : key.name.toList.getLast? ≠ some '.')
    (hprotocol : key.protocol = .unspec)
    (hsplit : splitTypeDomain (key.serviceType ++ "." ++ key.domain) =
      (key.serviceType, key.domain)) :
    PeerKey.ofFullName key.fullName (key.serviceType ++ "." ++ key.domain) key.interface = key := by
  have hfull : key.fullName = key.name ++ "." ++ (key.serviceType ++ "." ++ key.domain) := by
    simp only [fullName, String.append_assoc]
  rw [hfull, ofFullName_instance hname, hsplit]
  obtain ⟨interface, protocol, name, serviceType, domain⟩ := key
  obtain rfl : protocol = .unspec := hprotocol
  rfl

/-- Under a type with a transport label, whose parts make it up again, a full name is written
    as it was read if and only if it is that of an instance, a name without a dot at the end in
    front of a dot and the type. It is the name of the key, and keys of different instances are
    different. Any key with such a name and a type and a domain that are told apart is read again
    as it was written. -/
theorem PeerKey.round_trips {typeDomain : String} (ht : HasTransport typeDomain)
    (interface : String) :
    (splitTypeDomain typeDomain).1 ++ "." ++ (splitTypeDomain typeDomain).2 = typeDomain ∧
    (∀ fullName, (PeerKey.ofFullName fullName typeDomain interface).fullName = fullName ↔
      ∃ name, fullName = name ++ "." ++ typeDomain ∧ name.toList.getLast? ≠ some '.') ∧
    (∀ name : String, name.toList.getLast? ≠ some '.' →
      (PeerKey.ofFullName (name ++ "." ++ typeDomain) typeDomain interface).name = name) ∧
    (∀ fullName other, IsInstance typeDomain fullName → IsInstance typeDomain other →
      PeerKey.ofFullName fullName typeDomain interface =
        PeerKey.ofFullName other typeDomain interface → fullName = other) ∧
    ∀ key : PeerKey, key.name.toList.getLast? ≠ some '.' → key.protocol = .unspec →
      splitTypeDomain (key.serviceType ++ "." ++ key.domain) = (key.serviceType, key.domain) →
      PeerKey.ofFullName key.fullName (key.serviceType ++ "." ++ key.domain) key.interface =
        key := by
  refine ⟨join_splitTypeDomain ht, fun fullName => ⟨isInstance_of_fullName ht, fun h =>
    fullName_ofFullName ht h interface⟩, fun name hname => ?_, fun fullName other => ofFullName_inj,
    fun key => ofFullName_fullName⟩
  rw [ofFullName_instance hname]

/-- A type with both labels is split after the first `_tcp`, also where `_udp` comes before it.
    A dot that is added to a name is lost. -/
theorem PeerKey.round_trips_both :
    let type := "_sync._udp.über._tcp.local._tcp.de"
    splitTypeDomain type = ("_sync._udp.über._tcp", "local._tcp.de") ∧
      (splitTypeDomain type).1 ++ "." ++ (splitTypeDomain type).2 = type ∧
      (PeerKey.ofFullName ("my.näs." ++ type) type "eth0").fullName = "my.näs." ++ type ∧
      (PeerKey.ofFullName ("my.näs.." ++ type) type "eth0").fullName ≠ "my.näs.." ++ type := by
  intro type
  have htransport : HasTransport type := ⟨"._tcp.", by decide +kernel, by decide +kernel⟩
  obtain ⟨hjoin, hwritten, -⟩ := round_trips htransport "eth0"
  refine ⟨by decide +kernel, hjoin, (hwritten _).2 ⟨"my.näs", rfl, by decide +kernel⟩, ?_⟩
  rw [Ne, hwritten]
  rintro ⟨name, he, hname⟩
  have hdotted : ("my.näs." : String) ++ "." = name ++ "." := (String.append_left_inj type).1 he
  obtain rfl := (String.append_left_inj ".").1 hdotted
  exact hname (by decide +kernel)

end ServiceDiscovery
