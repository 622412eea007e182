import Mathlib.Order.Basic
import Mathlib.Tactic.SplitIfs

/-!
# Texts in byte order

Texts are compared by their characters, from the front. Whoever compares their bytes in
UTF-8 instead comes to the same (`utf8_lt_utf8_iff`): of two characters the one with the
lower code point has the lower bytes, whatever follows it (`Encoded.append_lt`).
-/

namespace ServiceDiscovery

/-- The bytes of a text in UTF-8. -/
def utf8 (s : String) : List UInt8 := s.toUTF8.data.toList

theorem utf8_eq (s : String) : utf8 s = s.toList.flatMap String.utf8EncodeChar := by
  rw [utf8, String.toUTF8, ← String.utf8Encode_toList, List.utf8Encode, List.data_toByteArray]

/-! ## Characters -/

/-- What a code point is encoded as: a first byte that tells how many others there are, and
    six bits in each of these. -/
inductive Encoded : Nat → List UInt8 → Prop
  | one {a : Nat} : a < 128 → Encoded a [.ofNat a]
  | two {a b : Nat} : 2 ≤ a → a < 32 → b < 64 →
      Encoded (a * 64 + b) [.ofNat (a + 192), .ofNat (b + 128)]
  | three {a b c : Nat} : 2048 ≤ a * 4096 + b * 64 → a < 16 → b < 64 → c < 64 →
      Encoded (a * 4096 + b * 64 + c) [.ofNat (a + 224), .ofNat (b + 128), .ofNat (c + 128)]
  | four {a b c d : Nat} : 65536 ≤ a * 262144 + b * 4096 → a < 8 → b < 64 → c < 64 → d < 64 →
      Encoded (a * 262144 + b * 4096 + c * 64 + d)
        [.ofNat (a + 240), .ofNat (b + 128), .ofNat (c + 128), .ofNat (d + 128)]

theorem encoded_utf8EncodeChar (c : Char) : Encoded c.val.toNat (String.utf8EncodeChar c) := by
  have hbound : c.val.toNat < 1114112 := by
    rcases c.valid with h | ⟨-, h⟩
    · exact Nat.lt_trans h (by decide)
    · exact h
  unfold String.utf8EncodeChar
  generalize c.val.toNat = n at hbound ⊢
  dsimp only
  split_ifs with h1 h2 h3
  · exact .one (by omega)
  · have hn : n / 64 % 32 * 64 + n % 64 = n := by omega
    have henc := Encoded.two (a := n / 64 % 32) (b := n % 64) (by omega) (by omega) (by omega)
    rwa [hn] at henc
  · have hn : n / 4096 % 16 * 4096 + n / 64 % 64 * 64 + n % 64 = n := by omega
    have henc := Encoded.three (a := n / 4096 % 16) (b := n / 64 % 64) (c := n % 64) (by omega)
      (by omega) (by omega) (by omega)
    rwa [hn] at henc
  · have hn : n / 262144 % 8 * 262144 + n / 4096 % 64 * 4096 + n / 64 % 64 * 64 + n % 64 = n := by
      omega
    have henc := Encoded.four (a := n / 262144 % 8) (b := n / 4096 % 64) (c := n / 64 % 64)
      (d := n % 64) (by omega) (by omega) (by omega) (by omega) (by omega)
    rwa [hn] at henc

theorem Encoded.ne_nil {n : Nat} {bs : List UInt8} (h : Encoded n bs) : bs ≠ [] := by
  cases h <;> exact List.cons_ne_nil _ _

/-- A lower code point has lower bytes, whatever follows. -/
theorem Encoded.append_lt {m n : Nat} {bs bs' : List UInt8} (hm : Encoded m bs)
    (hn : Encoded n bs') (h : m < n) (rest rest' : List UInt8) : bs ++ rest < bs' ++ rest' := by
  -- With as many bytes the first that differs decides; with fewer the first byte is lower.
  cases hm <;> cases hn <;>
    simp only [List.cons_append, List.nil_append, List.cons_lt_cons_iff, UInt8.lt_iff_toNat_lt,
      ← UInt8.toNat_inj, UInt8.toNat_ofNat'] <;> omega

/-! ## Texts -/

theorem flatMap_utf8EncodeChar_lt {cs ds : List Char} (h : cs < ds) :
    cs.flatMap String.utf8EncodeChar < ds.flatMap String.utf8EncodeChar := by
  induction h with
  | @nil d ds =>
    obtain ⟨b, bs, hb⟩ := List.exists_cons_of_ne_nil (encoded_utf8EncodeChar d).ne_nil
    rw [List.flatMap_nil, List.flatMap_cons, hb]
    exact List.nil_lt_cons ..
  | @cons c cs ds _ ih =>
    rw [List.flatMap_cons, List.flatMap_cons]
    exact List.append_left_lt ih
  | @rel c cs d ds hcd =>
    rw [List.flatMap_cons, List.flatMap_cons]
    exact (encoded_utf8EncodeChar c).append_lt (encoded_utf8EncodeChar d) hcd _ _

/-- The order of texts is that of their bytes. -/
theorem utf8_lt_utf8_iff {s t : String} : utf8 s < utf8 t ↔ s < t := by
  have hlt {s t : String} (h : s < t) : utf8 s < utf8 t := by
    rw [utf8_eq, utf8_eq]
    exact flatMap_utf8EncodeChar_lt h
  refine ⟨fun h => ?_, hlt⟩
  by_contra hnot
  by_cases hts : t < s
  · exact List.lt_asymm h (hlt hts)
  · obtain rfl := String.le_antisymm (String.not_lt.1 hts) (String.not_lt.1 hnot)
    exact List.lt_irrefl _ h

end ServiceDiscovery
