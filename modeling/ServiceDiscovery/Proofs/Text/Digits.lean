import ServiceDiscovery.Text.Scan

/-!
# Digits that are read again

What `Nat.toDigits` writes, in a radix of at most sixteen, a scanner reads as the number
that was written, however the text goes on, unless it goes on with another digit
(`scanNumber_toDigits`).
-/

namespace ServiceDiscovery

/-! ## Where a text stops -/

section Stop

variable {p : Char → Bool} {cs rest : List Char}

theorem takeWhile_append_of_stop (hcs : ∀ c ∈ cs, p c) (hrest : ∀ c ∈ rest.head?, p c = false) :
    (cs ++ rest).takeWhile p = cs := by
  rw [List.takeWhile_append_of_pos hcs]
  cases rest with
  | nil => rw [List.takeWhile_nil, List.append_nil]
  | cons c rest =>
    rw [List.takeWhile_cons_of_neg (ne_true_of_eq_false (hrest c rfl)), List.append_nil]

theorem dropWhile_append_of_stop (hcs : ∀ c ∈ cs, p c) (hrest : ∀ c ∈ rest.head?, p c = false) :
    (cs ++ rest).dropWhile p = rest := by
  rw [List.dropWhile_append_of_pos hcs]
  cases rest with
  | nil => rfl
  | cons c rest => exact List.dropWhile_cons_of_neg (ne_true_of_eq_false (hrest c rfl))

end Stop

/-! ## Digits -/

theorem ne_of_isDigit {c d : Char} (hc : c.isDigit) (hd : d.isDigit = false) : c ≠ d := by
  rintro rfl
  exact Bool.eq_false_iff.1 hd hc

variable {b n : Nat}

theorem digitValue?_digitChar (hb : b ≤ 16) {d : Nat} (hd : d < b) :
    digitValue? b (Nat.digitChar d) = some d := by
  have hall : ∀ b, b ≤ 16 → ∀ d, d < b → digitValue? b (Nat.digitChar d) = some d := by
    decide +kernel
  exact hall b hb d hd

/-- Every character that is written is a digit. -/
theorem mem_toDigits (hb : 1 < b) {c : Char} (h : c ∈ Nat.toDigits b n) :
    ∃ d, d < b ∧ c = Nat.digitChar d := by
  induction n using Nat.strongRecOn with
  | ind n ih =>
    rw [Nat.toDigits_eq_if hb] at h
    split at h
    · exact ⟨n, ‹_›, List.mem_singleton.1 h⟩
    · rcases List.mem_append.1 h with h | h
      · exact ih (n / b) (Nat.div_lt_self (by omega) hb) h
      · exact ⟨n % b, Nat.mod_lt _ (by omega), List.mem_singleton.1 h⟩

theorem digitsValue_toDigits (hb : 1 < b) (hle : b ≤ 16) (n : Nat) :
    digitsValue b (Nat.toDigits b n) = n := by
  induction n using Nat.strongRecOn with
  | ind n ih =>
    rw [Nat.toDigits_eq_if hb]
    split
    · simp [digitsValue, digitValue?_digitChar hle ‹_›]
    · have hdigit := digitValue?_digitChar hle (Nat.mod_lt n (by omega : b > 0))
      have hrest := ih (n / b) (Nat.div_lt_self (by omega) hb)
      rw [digitsValue] at hrest ⊢
      rw [List.foldl_append, hrest]
      simp only [List.foldl_cons, List.foldl_nil, hdigit, Option.getD_some]
      exact Nat.div_add_mod' n b

/-- No zero is written in front. -/
theorem head?_toDigits_ne (hb : 1 < b) (hle : b ≤ 16) (hn : n ≠ 0) :
    (Nat.toDigits b n).head? ≠ some '0' := by
  induction n using Nat.strongRecOn with
  | ind n ih =>
    rw [Nat.toDigits_eq_if hb]
    split
    · rename_i hlt
      have hall : ∀ d, d < 16 → d ≠ 0 → [Nat.digitChar d].head? ≠ some '0' := by decide
      exact hall n (by omega) hn
    · rename_i hge
      have hpos : n / b ≠ 0 := Nat.div_ne_zero_iff.2 ⟨by omega, by omega⟩
      have hhead := ih (n / b) (Nat.div_lt_self (by omega) hb) hpos
      rw [List.head?_append, Option.or_of_isSome]
      · exact hhead
      · rw [List.isSome_head?]
        exact Nat.toDigits_ne_nil

/-- A number that was written is read again, and what follows it is left. -/
theorem scanNumber_toDigits {maxDigits : Option Nat} {leadingZeros : Bool} {bound : Nat}
    {rest : List Char} (hb : 1 < b) (hle : b ≤ 16) (hn : n < bound)
    (hmax : ∀ k ∈ maxDigits, 0 < k ∧ n < Nat.pow b k)
    (hrest : ∀ c ∈ rest.head?, digitValue? b c = none) :
    scanNumber b maxDigits leadingZeros bound (Nat.toDigits b n ++ rest) = some (n, rest) := by
  have hdigits : (Nat.toDigits b n ++ rest).takeWhile (fun c => (digitValue? b c).isSome) =
      Nat.toDigits b n := by
    refine takeWhile_append_of_stop (fun c hc => ?_) fun c hc => ?_
    · obtain ⟨d, hd, rfl⟩ := mem_toDigits hb hc
      rw [digitValue?_digitChar hle hd]
      rfl
    · rw [hrest c hc]
      rfl
  have hlong : maxDigits.any (· < (Nat.toDigits b n).length) = false := by
    cases maxDigits with
    | none => rfl
    | some k =>
      obtain ⟨hk, hlt⟩ := hmax k rfl
      have hlength := (Nat.length_toDigits_le_iff hb hk).2 hlt
      simpa using hlength
  have hpadded :
      ((Nat.toDigits b n).head? == some '0' && 1 < (Nat.toDigits b n).length) = false := by
    by_cases hzero : n = 0
    · subst hzero
      rw [Nat.toDigits_of_lt_base (by omega)]
      rfl
    · simp [head?_toDigits_ne hb hle hzero]
  rw [scanNumber, hdigits, digitsValue_toDigits hb hle, hlong, hpadded]
  simp [Nat.toDigits_ne_nil, hn]

/-- What a number leaves begins after the last digit. -/
theorem rest_of_scanNumber {maxDigits : Option Nat} {leadingZeros : Bool} {bound : Nat}
    {cs rest : List Char} (h : scanNumber b maxDigits leadingZeros bound cs = some (n, rest)) :
    rest = cs.dropWhile fun c => (digitValue? b c).isSome := by
  rw [scanNumber] at h
  split at h
  · cases h
  · obtain ⟨-, rfl⟩ := Prod.mk.inj (Option.some.inj h)
    rw [List.dropWhile_eq_drop_findIdx_not, List.takeWhile_eq_take_findIdx_not, List.length_take,
      Nat.min_eq_left List.findIdx_le_length]

end ServiceDiscovery
