import ServiceDiscovery.Address.IpText
import ServiceDiscovery.Proofs.Text.Digits

/-!
# Addresses that are read again

The text of an address is read as that address (`IpAddress.readChars?_renderChars`). So
different addresses have different texts (`IpAddress.render_inj`).

A group of an IPv6 address is followed by a colon or by nothing (`EndsGroup`), so that it
is read to its end and not taken for the first octet of an embedded IPv4 address. The
groups before `::` are followed by two colons, and the last ones by nothing
(`EndsGroups`), so that no more are read than were written (`Ipv6.scanGroups_render`).
-/

namespace ServiceDiscovery

/-! ## IPv4 -/

namespace Ipv4

theorem scanOctet_toDigits {rest : List Char} (octet : UInt8)
    (hrest : ∀ c ∈ rest.head?, digitValue? 10 c = none) :
    scanOctet (Nat.toDigits 10 octet.toNat ++ rest) = some (octet, rest) := by
  have hlt := octet.toNat_lt
  rw [scanOctet, scanNumber_toDigits (by decide) (by decide) hlt ?_ hrest]
  · simp
  · rintro k ⟨rfl⟩
    exact ⟨by decide, Nat.lt_of_lt_of_le hlt (by decide)⟩

theorem scan_render_append {rest : List Char} (ip : Ipv4)
    (hrest : ∀ c ∈ rest.head?, digitValue? 10 c = none) :
    scan (ip.render ++ rest) = some (ip, rest) := by
  have hdot (cs : List Char) : ∀ c ∈ ('.' :: cs).head?, digitValue? 10 c = none := by
    rintro c ⟨rfl⟩
    decide
  simp only [render, scan, List.append_assoc, List.cons_append, scanOctet_toDigits _ (hdot _),
    scanOctet_toDigits _ hrest, scanChar, Option.bind_eq_bind, Option.bind_some, if_true]
  rfl

theorem scan_render (ip : Ipv4) : scan ip.render = some (ip, []) := by
  have hscan : scan (ip.render ++ []) = some (ip, []) := scan_render_append ip nofun
  rwa [List.append_nil] at hscan

/-- What begins with no octet, or goes on without a dot after it, is no address. -/
theorem scan_eq_none {cs : List Char}
    (h : (cs.dropWhile fun c => (digitValue? 10 c).isSome).head? ≠ some '.') :
    scan cs = none := by
  rw [scan]
  cases hoctet : scanOctet cs with
  | none => rfl
  | some read =>
    obtain ⟨octet, rest⟩ := read
    obtain ⟨⟨n, rest'⟩, hn, he⟩ := Option.map_eq_some_iff.1 hoctet
    obtain ⟨-, rfl⟩ := Prod.mk.inj he
    rw [← rest_of_scanNumber hn] at h
    have hdot : scanChar '.' rest' = none := by
      cases rest' with
      | nil => rfl
      | cons c cs => exact if_neg fun hc => h (congrArg some hc)
    dsimp only [Option.bind_eq_bind, Option.bind_some]
    rw [hdot]
    rfl

end Ipv4

/-! ## IPv6 -/

/-- What may follow a group. -/
def EndsGroup (rest : List Char) : Prop := ∀ c ∈ rest.head?, c = ':'

/-- What may follow the last of some groups. -/
def EndsGroups (rest : List Char) : Prop := rest = [] ∨ ∃ cs, rest = ':' :: ':' :: cs

theorem EndsGroups.endsGroup {rest : List Char} (h : EndsGroups rest) : EndsGroup rest := by
  rcases h with rfl | ⟨cs, rfl⟩
  · rintro c ⟨⟩
  · rintro c ⟨rfl⟩
    rfl

theorem EndsGroup.digitValue? {rest : List Char} (h : EndsGroup rest) :
    ∀ c ∈ rest.head?, digitValue? 16 c = none := by
  intro c hc
  obtain rfl := h c hc
  decide

namespace Ipv6

theorem scanGroup_toDigits {rest : List Char} (group : UInt16) (hrest : EndsGroup rest) :
    scanGroup (Nat.toDigits 16 group.toNat ++ rest) = some (group, rest) := by
  have hlt := group.toNat_lt
  rw [scanGroup, scanNumber_toDigits (by decide) (by decide) hlt ?_ hrest.digitValue?]
  · simp
  · rintro k ⟨rfl⟩
    exact ⟨by decide, Nat.lt_of_lt_of_le hlt (by decide)⟩

/-- No group is taken for the first octet of an IPv4 address. -/
theorem scan4_group {rest : List Char} (group : UInt16) (hrest : EndsGroup rest) :
    Ipv4.scan (Nat.toDigits 16 group.toNat ++ rest) = none := by
  refine Ipv4.scan_eq_none ?_
  rw [List.dropWhile_append]
  split
  · -- All its digits are decimal ones: what follows it is no dot.
    cases rest with
    | nil => nofun
    | cons c cs =>
      obtain rfl := hrest c rfl
      rw [List.dropWhile_cons_of_neg (by decide)]
      exact fun he => absurd (Option.some.inj he) (by decide)
  · rename_i hne
    intro he
    obtain ⟨c, left, hleft⟩ := List.exists_cons_of_ne_nil fun hnil => hne (List.isEmpty_iff.2 hnil)
    rw [hleft] at he
    obtain rfl := Option.some.inj he
    have hmem : '.' ∈ Nat.toDigits 16 group.toNat :=
      (List.dropWhile_sublist _).subset (hleft ▸ List.mem_cons_self)
    obtain ⟨d, hd, hdigit⟩ := mem_toDigits (by decide) hmem
    have hall : ∀ d, d < 16 → '.' ≠ Nat.digitChar d := by decide
    exact hall d hd hdigit

/-- Groups, with a colon before them unless they are the first. -/
def renderFrom (first : Bool) : List UInt16 → List Char
  | [] => []
  | g :: gs => (if first then [] else [':']) ++ Nat.toDigits 16 g.toNat ++ renderFrom false gs

theorem renderFrom_true (gs : List UInt16) : renderFrom true gs = renderGroups gs := by
  induction gs with
  | nil => rfl
  | cons g gs ih =>
    cases gs with
    | nil => exact List.append_nil _
    | cons g' gs =>
      change Nat.toDigits 16 g.toNat ++ ':' :: renderFrom true (g' :: gs) = _
      rw [ih]
      rfl

theorem endsGroup_renderFrom {rest : List Char} (gs : List UInt16) (h : EndsGroups rest) :
    EndsGroup (renderFrom false gs ++ rest) := by
  cases gs with
  | nil => exact h.endsGroup
  | cons g gs =>
    rintro c ⟨rfl⟩
    rfl

section Step

variable {room : Nat} {first : Bool} {cs cs' rest : List Char}

theorem scanGroups_of_scan4 {ip : Ipv4} (hroom : 0 < room)
    (hseparator : scanSeparator first cs = some cs') (hscan : Ipv4.scan cs' = some (ip, rest)) :
    scanGroups (room + 1) first cs = (ip.groups, true, rest) := by
  rw [scanGroups, if_pos hroom, hseparator, Option.bind_some, hscan]

theorem scanGroups_of_scanGroup {group : UInt16}
    (hseparator : scanSeparator first cs = some cs') (hscan : Ipv4.scan cs' = none)
    (hgroup : scanGroup cs' = some (group, rest)) :
    scanGroups (room + 1) first cs =
      (group :: (scanGroups room false rest).1, (scanGroups room false rest).2) := by
  rw [scanGroups, hseparator, Option.bind_some, Option.bind_some, hscan, ite_self, hgroup]

end Step

/-- The groups that were written are read, and what follows them is left. -/
theorem scanGroups_render {room : Nat} {rest : List Char} (gs : List UInt16) (first : Bool)
    (hroom : gs.length ≤ room) (hrest : EndsGroups rest) :
    scanGroups room first (renderFrom first gs ++ rest) = (gs, false, rest) := by
  induction gs generalizing room first with
  | nil =>
    have hstop : (scanSeparator first rest).bind Ipv4.scan = none ∧
        (scanSeparator first rest).bind scanGroup = none := by
      rcases hrest with rfl | ⟨cs, rfl⟩
      · cases first <;> exact ⟨rfl, rfl⟩
      · cases first <;> exact ⟨rfl, rfl⟩
    rw [renderFrom, List.nil_append]
    cases room with
    | zero => rfl
    | succ room => rw [scanGroups, hstop.1, hstop.2, ite_self]
  | cons g gs ih =>
    obtain ⟨room, rfl⟩ : ∃ r, room = r + 1 := ⟨room - 1, by simp at hroom; omega⟩
    have hend := endsGroup_renderFrom gs hrest
    have hseparator : scanSeparator first (renderFrom first (g :: gs) ++ rest) =
        some (Nat.toDigits 16 g.toNat ++ (renderFrom false gs ++ rest)) := by
      cases first with
      | true => simp [renderFrom, scanSeparator]
      | false => simp [renderFrom, scanSeparator, scanChar]
    rw [scanGroups_of_scanGroup hseparator (scan4_group g hend) (scanGroup_toDigits g hend),
      ih false (Nat.le_of_succ_le_succ hroom)]

/-- No run of zeros is counted that is not there. -/
theorem longestZeros_le (gs : List UInt16) :
    (longestZeros gs).2 ≤ zerosAt gs (longestZeros gs).1 := by
  rw [longestZeros]
  refine List.foldlRecOn (motive := fun best : Nat × Nat => best.2 ≤ zerosAt gs best.1) _ _
    (Nat.zero_le _) fun best hbest i _ => ?_
  split
  · exact Nat.le_refl _
  · exact hbest

theorem eq_replicate_append {gs : List UInt16} {n : Nat}
    (h : n ≤ (gs.takeWhile (· == 0)).length) : gs = List.replicate n 0 ++ gs.drop n := by
  induction n generalizing gs with
  | zero => rfl
  | succ n ih =>
    cases gs with
    | nil => cases h
    | cons g gs =>
      rw [List.takeWhile_cons] at h
      split at h
      · rename_i hg
        obtain rfl := beq_iff_eq.1 hg
        exact congrArg (0 :: ·) (ih (Nat.le_of_succ_le_succ h))
      · cases h

/-- Around a run of zeros. -/
theorem groups_eq (gs : List UInt16) :
    gs = gs.take (longestZeros gs).1 ++ List.replicate (longestZeros gs).2 0 ++
      gs.drop ((longestZeros gs).1 + (longestZeros gs).2) := by
  have hrun := eq_replicate_append (longestZeros_le gs)
  rw [List.drop_drop] at hrun
  rw [List.append_assoc, ← hrun, List.take_append_drop]

theorem ofGroups?_groups (ip : Ipv6) : ofGroups? ip.groups = some ip := dif_pos ip.length_eq

theorem scan_of_eight (ip : Ipv6) : scan (renderGroups ip.groups) = some (ip, []) := by
  -- There is room for all the groups, and nothing follows them.
  have hread := scanGroups_render ip.groups true (Nat.le_of_eq ip.length_eq) (.inl rfl)
  rw [List.append_nil, renderFrom_true] at hread
  rw [scan, hread]
  dsimp only
  rw [if_pos ip.length_eq, ofGroups?_groups]
  rfl

/-- Groups before and after `::`, with zeros between them. -/
theorem scan_of_sides {ip : Ipv6} {head tail : List UInt16} {embedded : Bool}
    {cs after rest : List Char} (hlength : head.length < 8)
    (hhead : scanGroups 8 true cs = (head, false, ':' :: ':' :: after))
    (htail : scanGroups (7 - head.length) true after = (tail, embedded, rest))
    (hgroups : head ++ List.replicate (8 - head.length - tail.length) 0 ++ tail = ip.groups) :
    scan cs = some (ip, rest) := by
  rw [scan, hhead]
  dsimp only
  rw [if_neg (Nat.ne_of_lt hlength), if_neg Bool.false_ne_true]
  simp only [scanChar, if_true, Option.bind_eq_bind, Option.bind_some, htail, hgroups,
    ofGroups?_groups]
  rfl

/-- Groups before and after a run of zeros. -/
theorem scan_of_run {ip : Ipv6} {head tail : List UInt16} {n : Nat} (hn : 0 < n)
    (h : head ++ List.replicate n 0 ++ tail = ip.groups) :
    scan (renderGroups head ++ ':' :: ':' :: renderGroups tail) = some (ip, []) := by
  have hlength : head.length + n + tail.length = 8 := by
    rw [← ip.length_eq, ← h, List.length_append, List.length_append, List.length_replicate]
  have hhead := scanGroups_render head true (by omega : head.length ≤ 8)
    (.inr ⟨renderGroups tail, rfl⟩)
  have htail := scanGroups_render tail true (by omega : tail.length ≤ 7 - head.length)
    (.inl rfl)
  rw [renderFrom_true] at hhead
  rw [List.append_nil, renderFrom_true] at htail
  refine scan_of_sides (by omega) hhead htail ?_
  rw [(by omega : 8 - head.length - tail.length = n), h]

theorem toUInt16_bytes (g : UInt16) :
    (g / 256).toUInt8.toUInt16 * 256 + g.toUInt8.toUInt16 = g := by
  have hg := g.toNat_lt
  refine UInt16.toNat_inj.1 ?_
  simp
  omega

theorem groups_of_mapped {ip : Ipv6} {v4 : Ipv4} (h : ip.mapped? = some v4) :
    ip.groups = [0, 0, 0, 0, 0, 0xffff] ++ v4.groups := by
  rw [mapped?] at h
  split at h
  · rename_i hi lo hgroups
    obtain rfl := Option.some.inj h
    rw [hgroups, Ipv4.groups, toUInt16_bytes, toUInt16_bytes]
    rfl
  · cases h

/-- An IPv4 address after its mark. -/
theorem scan_of_mapped {ip : Ipv6} {v4 : Ipv4} (h : ip.mapped? = some v4) :
    scan ("::ffff:".toList ++ v4.render) = some (ip, []) := by
  -- Read are no groups, `::`, the group `ffff`, and where two more have room an IPv4 address.
  have hmark : "::ffff:".toList ++ v4.render =
      ':' :: ':' :: (Nat.toDigits 16 (0xffff : UInt16).toNat ++ ':' :: v4.render) := rfl
  have hcolon : EndsGroup (':' :: v4.render) := by
    rintro c ⟨rfl⟩
    rfl
  have hlast : scanGroups 6 false (':' :: v4.render) = (v4.groups, true, []) :=
    scanGroups_of_scan4 (by decide) rfl v4.scan_render
  have htail : scanGroups 7 true (Nat.toDigits 16 (0xffff : UInt16).toNat ++ ':' :: v4.render) =
      (0xffff :: v4.groups, true, []) := by
    rw [scanGroups_of_scanGroup rfl (scan4_group _ hcolon) (scanGroup_toDigits _ hcolon), hlast]
  rw [hmark]
  exact scan_of_sides (by decide) (scanGroups_render [] true (Nat.zero_le 8) (.inr ⟨_, rfl⟩)) htail
    (groups_of_mapped h).symm

theorem scan_render (ip : Ipv6) : scan ip.render = some (ip, []) := by
  rw [render]
  split
  · rename_i v4 h
    exact scan_of_mapped h
  · dsimp only
    split
    · rename_i hlong
      exact scan_of_run (by omega) (groups_eq ip.groups).symm
    · exact scan_of_eight ip

/-- No text of an IPv6 address is read as one of an IPv4 address. -/
theorem scan4_render (ip : Ipv6) : Ipv4.scan ip.render = none := by
  have hcolon (cs : List Char) : Ipv4.scan (':' :: cs) = none := rfl
  have hgroups {gs : List UInt16} {rest : List Char} (hne : gs ≠ []) (hrest : EndsGroups rest) :
      Ipv4.scan (renderGroups gs ++ rest) = none := by
    obtain ⟨g, gs, rfl⟩ := List.exists_cons_of_ne_nil hne
    rw [← renderFrom_true, renderFrom, List.append_assoc]
    exact scan4_group g (endsGroup_renderFrom gs hrest)
  rw [render]
  split
  · exact hcolon _
  · dsimp only
    split
    · by_cases hne : ip.groups.take (longestZeros ip.groups).1 = []
      · rw [hne]
        exact hcolon _
      · exact hgroups hne (.inr ⟨_, rfl⟩)
    · have hne : ip.groups ≠ [] := List.ne_nil_of_length_eq_add_one ip.length_eq
      have hnone := hgroups hne (.inl rfl)
      rwa [List.append_nil] at hnone

end Ipv6

/-! ## Either family -/

namespace IpAddress

/-- The text of an address is read as that address. -/
theorem readChars?_renderChars (ip : IpAddress) : readChars? ip.renderChars = some ip := by
  cases ip with
  | v4 ip => rw [renderChars, readChars?, scan, ip.scan_render]
  | v6 ip => rw [renderChars, readChars?, scan, ip.scan4_render, ip.scan_render]; rfl

/-- Different addresses have different texts. -/
theorem render_inj {x y : IpAddress} (h : x.render = y.render) : x = y := by
  have hchars : x.renderChars = y.renderChars := String.ofList_injective h
  exact Option.some.inj (by rw [← readChars?_renderChars, hchars, readChars?_renderChars])

end IpAddress

end ServiceDiscovery
