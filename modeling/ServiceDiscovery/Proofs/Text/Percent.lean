import Mathlib.Tactic.IntervalCases
import ServiceDiscovery.Api.Target
import ServiceDiscovery.Proofs.Text.ByteOrder

/-!
# Percent-encoded texts

A segment of a path spells a text if it gives the bytes of the text one after the other:
a character that may stand in a segment gives its own, a percent sign with two hexadecimal
digits gives the one of that value (`Percent.Spells`, after RFC 3986). A text has many
spellings. The one of `Percent.encode` escapes whatever need not be left as it is.

Main statements: a segment that spells a text is decoded to that text (`Spells.decode`), and
`encode` spells every text (`spells_encode`).
-/

namespace ServiceDiscovery

/-- The loop that lists the bytes of an array lists all of them, in their order. -/
theorem toList_byteArray (bytes : ByteArray) : bytes.toList = bytes.data.toList := by
  have hloop (i : Nat) (seen : List UInt8) :
      ByteArray.toList.loop bytes i seen = seen.reverse ++ bytes.data.toList.drop i := by
    fun_induction ByteArray.toList.loop bytes i seen with
    | case1 i seen hlt ih =>
      have hlt : i < bytes.data.toList.length := hlt
      rw [ih, List.drop_eq_getElem_cons hlt]
      simp [ByteArray.get!, getElem!_pos bytes.data i hlt]
    | case2 i seen hge =>
      have hge : bytes.data.toList.length ≤ i := Nat.le_of_not_lt hge
      rw [List.drop_eq_nil_of_le hge, List.append_nil]
  exact hloop 0 []

theorem fromUTF8?_utf8 (s : String) : String.fromUTF8? ⟨(utf8 s).toArray⟩ = some s :=
  dif_pos s.isValidUTF8

/-- The bytes of a text of ASCII characters. -/
theorem utf8_ofList {cs : List Char} (h : ∀ c ∈ cs, c.toNat < 128) :
    utf8 (String.ofList cs) = cs.map fun c => .ofNat c.toNat := by
  rw [utf8_eq, String.toList_ofList]
  induction cs with
  | nil => rfl
  | cons c cs ih =>
    have hc : String.utf8EncodeChar c = [.ofNat c.toNat] := by
      have hlow : c.val.toNat ≤ 127 := Nat.le_of_lt_succ (h c List.mem_cons_self)
      unfold String.utf8EncodeChar
      rw [if_pos hlow]
      rfl
    rw [List.flatMap_cons, hc, ih fun d hd => h d (List.mem_cons_of_mem _ hd)]
    rfl

namespace Percent

/-! ## Spellings -/

/-- A hexadecimal digit, in either case, and its value. -/
def IsDigit (c : Char) (value : Nat) : Prop := c = value.digitChar ∨ c = value.digitChar.toUpper

/-- The characters that may stand for themselves in a segment. -/
def isSegmentChar (c : Char) : Bool := c.isAlphanum || "-._~!$&'()*+,;=:@".toList.contains c

/-- What some characters of a segment give. -/
inductive Gives : List Char → List UInt8 → Prop
  | nil : Gives [] []
  | plain {c : Char} {cs : List Char} {bytes : List UInt8} : isSegmentChar c = true →
      Gives cs bytes → Gives (c :: cs) (.ofNat c.toNat :: bytes)
  | escaped {hi lo : Char} {byte : UInt8} {cs : List Char} {bytes : List UInt8} :
      IsDigit hi (byte.toNat / 16) → IsDigit lo (byte.toNat % 16) → Gives cs bytes →
      Gives ('%' :: hi :: lo :: cs) (byte :: bytes)

/-- The segment gives the bytes of the text. -/
def Spells (segment text : String) : Prop := Gives segment.toList (utf8 text)

/-- The characters that need not be escaped anywhere. -/
def isUnreserved (c : Char) : Bool := c.isAlphanum || "-._~".toList.contains c

/-- A byte as it is written. -/
def encodeByte (byte : UInt8) : List Char :=
  if isUnreserved (.ofNat byte.toNat) then [.ofNat byte.toNat]
  else ['%', (byte.toNat / 16).digitChar.toUpper, (byte.toNat % 16).digitChar.toUpper]

/-- A text with whatever is not unreserved escaped. -/
def encode (text : String) : String := String.ofList ((utf8 text).flatMap encodeByte)

/-! ## Digits -/

theorem IsDigit.digit? {c : Char} {value : Nat} (h : IsDigit c value) (hvalue : value < 16) :
    digit? (.ofNat c.toNat) = some (.ofNat value) := by
  interval_cases value <;> rcases h with rfl | rfl <;> decide

theorem IsDigit.isSegmentChar {c : Char} {value : Nat} (h : IsDigit c value)
    (hvalue : value < 16) : isSegmentChar c = true := by
  interval_cases value <;> rcases h with rfl | rfl <;> decide

/-- Two digits, of either case, are read as the byte that they write. -/
theorem byte?_of_isDigit {hi lo : Char} {byte : UInt8} (hhi : IsDigit hi (byte.toNat / 16))
    (hlo : IsDigit lo (byte.toNat % 16)) :
    byte? (.ofNat hi.toNat) (.ofNat lo.toNat) = some byte := by
  have hbound := byte.toNat_lt
  rw [byte?, hhi.digit? (by omega), hlo.digit? (by omega)]
  refine congrArg some (UInt8.toNat_inj.1 ?_)
  simp only [UInt8.toNat_add, UInt8.toNat_mul, UInt8.toNat_ofNat', UInt8.reduceToNat]
  omega

/-! ## Decoding -/

/-- Whatever is no percent sign stands for itself, also where two more bytes follow. -/
theorem decodeBytes_cons {byte : UInt8} (h : byte ≠ 0x25) (bytes : List UInt8) :
    decodeBytes (byte :: bytes) = byte :: decodeBytes bytes := by
  cases bytes with
  | nil => rfl
  | cons b bytes =>
    cases bytes with
    | nil => rfl
    | cons c bytes => rw [decodeBytes, if_neg h]

/-- What an alphanumeric character is. -/
theorem isAlphanum_iff {c : Char} : c.isAlphanum = true ↔
    (65 ≤ c.toNat ∧ c.toNat ≤ 90) ∨ (97 ≤ c.toNat ∧ c.toNat ≤ 122) ∨
      (48 ≤ c.toNat ∧ c.toNat ≤ 57) := by
  change (decide (65 ≤ c.val ∧ c.val ≤ 90) || (decide (97 ≤ c.val) && decide (c.val ≤ 122)) ||
    (decide (48 ≤ c.val) && decide (c.val ≤ 57))) = true ↔ _
  simp [UInt32.le_iff_toNat_le, or_assoc]

/-- What may stand in a segment is one byte, ends no segment and escapes nothing. -/
theorem of_isSegmentChar {c : Char} (h : isSegmentChar c = true) :
    c.toNat < 128 ∧ c ∉ ['%', '/', '?', '#'] ∧ Target.isPathChar c = true := by
  rw [isSegmentChar, Bool.or_eq_true] at h
  rcases h with h | h
  · have hranges := isAlphanum_iff.1 h
    refine ⟨by omega, fun hc => ?_, ?_⟩
    · simp only [List.mem_cons, List.not_mem_nil, or_false] at hc
      rcases hc with rfl | rfl | rfl | rfl <;> exact absurd h (by decide)
    · simp [Target.isPathChar]
      omega
  · have hmarks : "-._~!$&'()*+,;=:@".toList.all (fun c =>
        c.toNat < 128 && !(['%', '/', '?', '#'].contains c) && Target.isPathChar c) = true := by
      decide +kernel
    simpa [and_assoc] using List.all_eq_true.1 hmarks c (List.contains_iff_mem.1 h)

namespace Gives

variable {cs : List Char} {bytes : List UInt8}

theorem chars (h : Gives cs bytes) : ∀ c ∈ cs, c = '%' ∨ isSegmentChar c = true := by
  induction h with
  | nil => nofun
  | plain hc _ ih => exact List.forall_mem_cons.2 ⟨.inr hc, ih⟩
  | @escaped hi lo byte cs bytes hhi hlo _ ih =>
    have hbound := byte.toNat_lt
    exact List.forall_mem_cons.2 ⟨.inl rfl, List.forall_mem_cons.2
      ⟨.inr (hhi.isSegmentChar (by omega)), List.forall_mem_cons.2
        ⟨.inr (hlo.isSegmentChar (by omega)), ih⟩⟩⟩

theorem ascii (h : Gives cs bytes) : ∀ c ∈ cs, c.toNat < 128 := by
  intro c hc
  rcases h.chars c hc with rfl | hc
  · decide
  · exact (of_isSegmentChar hc).1

theorem decodeBytes (h : Gives cs bytes) :
    decodeBytes (cs.map fun c => .ofNat c.toNat) = bytes := by
  induction h with
  | nil => rfl
  | @plain c cs bytes hc _ ih =>
    obtain ⟨hlow, hspecial, -⟩ := of_isSegmentChar hc
    have hbyte : UInt8.ofNat c.toNat ≠ 0x25 := fun he => by
      have hcode := congrArg UInt8.toNat he
      rw [UInt8.toNat_ofNat', Nat.mod_eq_of_lt (by omega)] at hcode
      obtain rfl : c = '%' := Char.toNat_inj.1 hcode
      exact hspecial List.mem_cons_self
    rw [List.map_cons, decodeBytes_cons hbyte, ih]
  | escaped hhi hlo _ ih =>
    have hpercent : UInt8.ofNat '%'.toNat = 0x25 := rfl
    simp only [List.map_cons]
    rw [Percent.decodeBytes, if_pos hpercent, byte?_of_isDigit hhi hlo]
    exact congrArg _ ih

end Gives

namespace Spells

variable {segment text : String}

/-- However a text is spelled, it is what the segment is decoded to. -/
theorem decode (h : Spells segment text) : decode segment = some text := by
  have hbytes : segment.toUTF8.toList = segment.toList.map fun c => .ofNat c.toNat := by
    have hutf8 := utf8_ofList (Gives.ascii h)
    rw [String.ofList_toList] at hutf8
    rw [toList_byteArray, ← hutf8, utf8]
  rw [Percent.decode, hbytes, Gives.decodeBytes h, fromUTF8?_utf8]

end Spells

/-! ## Encoding -/

/-- A byte is written so that it is given again: as itself where that is safe, else escaped. -/
theorem gives_encodeByte {byte : UInt8} {cs : List Char} {bytes : List UInt8} (h : Gives cs bytes) :
    Gives (encodeByte byte ++ cs) (byte :: bytes) := by
  rw [encodeByte]
  split
  · rename_i hfree
    have hsegment : isSegmentChar (.ofNat byte.toNat) = true := by
      rw [isUnreserved, Bool.or_eq_true] at hfree
      rw [isSegmentChar, Bool.or_eq_true]
      have hmarks : "-._~".toList.all ("-._~!$&'()*+,;=:@".toList.contains ·) = true := by
        decide +kernel
      exact hfree.imp id fun hmark =>
        List.all_eq_true.1 hmarks _ (List.contains_iff_mem.1 hmark)
    have hbyte : UInt8.ofNat (Char.ofNat byte.toNat).toNat = byte := by
      have hbound := byte.toNat_lt
      have hcode : (Char.ofNat byte.toNat).toNat = byte.toNat := by
        rw [Char.ofNat, dif_pos (Or.inl (by omega))]
        rfl
      rw [hcode, UInt8.ofNat_toNat]
    have hgives := Gives.plain hsegment h
    rwa [hbyte] at hgives
  · exact .escaped (.inr rfl) (.inr rfl) h

/-- Every text can be spelled. -/
theorem spells_encode (text : String) : Spells (encode text) text := by
  rw [Spells, encode, String.toList_ofList]
  induction utf8 text with
  | nil => exact .nil
  | cons byte bytes ih => exact gives_encodeByte ih

end Percent

end ServiceDiscovery
