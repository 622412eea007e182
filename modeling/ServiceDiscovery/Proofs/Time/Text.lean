import Mathlib.Tactic.SplitIfs
import ServiceDiscovery.Proofs.Text.Digits
import ServiceDiscovery.Time.UtcTime

/-!
# Times that are read again

The text of a time is read as that time (`UtcTime.parse_render`), whatever its year and its
decimals, and in a leap second too.

A number is written with zeros in front (`padded`), and what follows it never begins with a
digit (`EndsNumber`), so that it is read to its end though more digits would have been
taken: a year with a sign may have any number of them, and decimals up to nine.
-/

namespace ServiceDiscovery.UtcTime

/-! ## Padded numbers -/

/-- What may follow a number. -/
def EndsNumber (rest : List Char) : Prop := ∀ c ∈ rest.head?, c.isDigit = false

theorem endsNumber_cons {c : Char} {cs : List Char} (h : c.isDigit = false) :
    EndsNumber (c :: cs) := by
  rintro _ ⟨rfl⟩
  exact h

theorem isBlank_of_isDigit {c : Char} (h : c.isDigit) : isBlank c = false := by
  obtain ⟨hfirst, hlast⟩ := Char.isDigit_iff_toNat.1 h
  have hall : ∀ n, n ≤ 57 → 48 ≤ n → isBlank (Char.ofNat n) = false := by decide
  rw [← c.ofNat_toNat]
  exact hall c.toNat hlast hfirst

section Padded

variable {width n : Nat}

theorem isDigit_of_mem_padded {c : Char} (h : c ∈ padded width n) : c.isDigit := by
  rcases List.mem_append.1 h with h | h
  · rw [List.eq_of_mem_replicate h]
    rfl
  · exact Nat.isDigit_of_mem_toDigits (by decide) (by decide) h

theorem padded_ne_nil (width n : Nat) : padded width n ≠ [] :=
  List.append_ne_nil_of_right_ne_nil _ Nat.toDigits_ne_nil

theorem digitsValue_padded (width n : Nat) : digitsValue 10 (padded width n) = n := by
  have hzeros (k : Nat) (cs : List Char) :
      digitsValue 10 (List.replicate k '0' ++ cs) = digitsValue 10 cs := by
    induction k with
    | zero => rfl
    | succ k ih => exact ih
  rw [padded, hzeros, digitsValue_toDigits (by decide) (by decide)]

theorem length_padded (hwidth : 0 < width) (hn : n < Nat.pow 10 width) :
    (padded width n).length = width := by
  have hlength := (Nat.length_toDigits_le_iff (by decide) hwidth).2 hn
  rw [padded, List.length_append, List.length_replicate]
  omega

/-- A number begins with a digit. -/
theorem exists_cons_padded (width n : Nat) :
    ∃ c cs, padded width n = c :: cs ∧ c.isDigit := by
  obtain ⟨c, cs, he⟩ := List.exists_cons_of_ne_nil (padded_ne_nil width n)
  exact ⟨c, cs, he, isDigit_of_mem_padded (he ▸ List.mem_cons_self)⟩

theorem dropWhile_isBlank_padded (width n : Nat) (rest : List Char) :
    (padded width n ++ rest).dropWhile isBlank = padded width n ++ rest := by
  obtain ⟨c, cs, he, hc⟩ := exists_cons_padded width n
  rw [he, List.cons_append, List.dropWhile_cons_of_neg (ne_true_of_eq_false (isBlank_of_isDigit hc))]

/-- A number that was written is read again, and what follows it is left. -/
theorem scanDigits_padded {most : Option Nat} {rest : List Char} (hn : n < 1000000000)
    (hmost : ∀ k ∈ most, 0 < width ∧ width ≤ k ∧ n < Nat.pow 10 width) (hrest : EndsNumber rest) :
    scanDigits most (padded width n ++ rest) = .ok (n, rest) := by
  have hall : (padded width n ++ rest).takeWhile Char.isDigit = padded width n :=
    takeWhile_append_of_stop (fun _ => isDigit_of_mem_padded) hrest
  have hmax : ¬ maxNumber < n := by
    rw [maxNumber, (by decide : Nat.pow 2 63 = 9223372036854775808)]
    omega
  have hdigits (k : Nat) (hk : k ∈ most) : (padded width n).take k = padded width n := by
    obtain ⟨hwidth, hle, hlt⟩ := hmost k hk
    exact List.take_of_length_le ((length_padded hwidth hlt).symm ▸ hle)
  cases most with
  | none =>
    simp only [scanDigits, hall, List.isEmpty_iff, padded_ne_nil, if_false, digitsValue_padded,
      hmax, List.drop_left]
  | some k =>
    simp only [scanDigits, hall, hdigits k rfl, List.isEmpty_iff, padded_ne_nil, if_false,
      digitsValue_padded, hmax, List.drop_left]

end Padded

/-! ## The parts of a time -/

section Parts

variable {rest : List Char}

theorem scanMark_cons {mark : Char} (h : isBlank mark = false) :
    scanMark mark (mark :: rest) = .ok ((), rest) := by
  rw [scanMark, List.dropWhile_cons_of_neg (ne_true_of_eq_false h)]
  exact if_pos rfl

theorem scanPart_padded {least most n : Nat} (hleast : least ≤ n) (hmost : n ≤ most)
    (hn : n < 100) (hrest : EndsNumber rest) :
    scanPart least most (padded 2 n ++ rest) = .ok (n, rest) := by
  have hread : scanDigits (some 2) (padded 2 n ++ rest) = .ok (n, rest) :=
    scanDigits_padded (by omega) (by rintro _ ⟨rfl⟩; exact ⟨by decide, Nat.le_refl _, hn⟩) hrest
  rw [scanPart, dropWhile_isBlank_padded, hread]
  exact if_pos ⟨hleast, hmost⟩

/-- A year is read again, if it has a sign or four digits. -/
theorem scanYear_renderYear {year : Int} (hfirst : Date.firstYear ≤ year)
    (hlast : year ≤ Date.lastYear) (hrest : EndsNumber rest) :
    scanYear (renderYear year ++ rest) = .ok (year, rest) := by
  rw [Date.firstYear] at hfirst
  rw [Date.lastYear] at hlast
  have hrange : -(Nat.pow 2 31 : Int) ≤ year ∧ year < Nat.pow 2 31 := by
    rw [(by decide : Nat.pow 2 31 = 2147483648)]
    omega
  have hcheck (sign : Nat → Int) {read : Except TimeFault (Nat × List Char)} {n : Nat}
      (hread : read = .ok (n, rest)) (hn : sign n = year) :
      (read >>= fun r => pure (sign r.1, r.2) >>= fun r =>
        if -(Nat.pow 2 31 : Int) ≤ r.1 ∧ r.1 < Nat.pow 2 31 then pure r else throw .outOfRange :
          Except TimeFault (Int × List Char)) = .ok (year, rest) := by
    rw [hread]
    refine (pure_bind (n, rest) _).trans ((pure_bind (sign n, rest) _).trans ?_)
    dsimp only
    rw [hn]
    exact if_pos hrange
  have hsigned : scanDigits none (padded 4 year.natAbs ++ rest) = .ok (year.natAbs, rest) :=
    scanDigits_padded (by omega) nofun hrest
  rw [renderYear, scanYear]
  split_ifs with hfour hneg
  · have hplain : scanDigits (some 4) (padded 4 year.toNat ++ rest) = .ok (year.toNat, rest) :=
      scanDigits_padded (by omega)
        (by rintro _ ⟨rfl⟩; exact ⟨by decide, Nat.le_refl _, by change _ < 10000; omega⟩) hrest
    -- No digit is taken for a sign.
    obtain ⟨c, cs, he, hc⟩ := exists_cons_padded 4 year.toNat
    rw [dropWhile_isBlank_padded]
    rw [he, List.cons_append] at hplain ⊢
    split
    · rename_i hsign
      exact absurd (List.cons.inj hsign).1 (ne_of_isDigit hc rfl)
    · rename_i hsign
      exact absurd (List.cons.inj hsign).1 (ne_of_isDigit hc rfl)
    · exact hcheck (fun n => n) hplain (Int.toNat_of_nonneg hfour.1)
  · have hblank : (('-' :: padded 4 year.natAbs) ++ rest).dropWhile isBlank =
        '-' :: (padded 4 year.natAbs ++ rest) := rfl
    rw [hblank]
    exact hcheck (fun n => -n) hsigned (by omega)
  · have hblank : (('+' :: padded 4 year.natAbs) ++ rest).dropWhile isBlank =
        '+' :: (padded 4 year.natAbs ++ rest) := rfl
    rw [hblank]
    exact hcheck (fun n => n) hsigned (by omega)

/-- Decimals are read again: what they count is a power of ten, the greater the fewer they
    are. -/
theorem scanNanos_decimals {width nanos : Nat} (unit : Nat) (hwidth : 0 < width) (hle : width ≤ 9)
    (hunit : Nat.pow 10 (9 - width) = unit) (hnanos : nanos % unit = 0)
    (hlt : nanos / unit < Nat.pow 10 width) (hrest : EndsNumber rest) :
    scanNanos ('.' :: padded width (nanos / unit) ++ rest) = .ok (nanos, rest) := by
  have hread : scanDigits (some 9) (padded width (nanos / unit) ++ rest) =
      .ok (nanos / unit, rest) :=
    scanDigits_padded (Nat.lt_of_lt_of_le hlt (Nat.pow_le_pow_right (by decide : 0 < 10) hle))
      (by rintro _ ⟨rfl⟩; exact ⟨hwidth, hle, hlt⟩) hrest
  have hcount : (padded width (nanos / unit) ++ rest).length - rest.length = width := by
    rw [List.length_append, length_padded hwidth hlt, Nat.add_sub_cancel]
  have hleft : rest.dropWhile Char.isDigit = rest :=
    dropWhile_append_of_stop (List.forall_mem_nil _) hrest
  rw [List.cons_append, scanNanos, hread]
  simp only [bind, Except.bind, pure, Except.pure, hcount, hleft, hunit,
    Nat.div_mul_cancel (Nat.dvd_of_mod_eq_zero hnanos)]

theorem scanNanos_renderNanos {nanos : Nat} (h : nanos < 1000000000) :
    scanNanos (renderNanos nanos ++ ['Z']) = .ok (nanos, ['Z']) := by
  have hend : EndsNumber ['Z'] := endsNumber_cons rfl
  rw [renderNanos]
  split_ifs with hzero hmillis hmicros
  · rw [hzero]
    rfl
  · exact scanNanos_decimals 1000000 (by decide) (by decide) rfl hmillis
      (by change _ < 1000; omega) hend
  · exact scanNanos_decimals 1000 (by decide) (by decide) rfl hmicros
      (by change _ < 1000000; omega) hend
  · have hread := scanNanos_decimals 1 (by decide : 0 < 9) (by decide) rfl (Nat.mod_one nanos)
      (by rwa [Nat.div_one]) hend
    rwa [Nat.div_one] at hread

end Parts

/-! ## Whole times -/

/-- What is read of the text of a time. -/
def reading (t : UtcTime) : Reading where
  year := t.date.year
  month := t.date.month
  day := t.date.day
  hour := t.minute / 60
  minute := t.minute % 60
  second := t.second
  nanos := t.nanos
  offset := 0

theorem scanReading_render (t : UtcTime) : scanReading t.render.toList = .ok (t.reading, []) := by
  obtain ⟨hfirst, hlast, hmonth₁, hmonth₂, hday₁, hday₂⟩ := t.date.valid
  have hdays : t.date.day ≤ 31 := Nat.le_trans hday₂ (by rw [daysInMonth]; split_ifs <;> decide)
  have hminute := t.minute_lt
  have hsecond := t.second_le
  -- No part is followed by a digit: the decimals begin with a point, if there are any.
  have hdecimals : EndsNumber (renderNanos t.nanos ++ ['Z']) := by
    rw [renderNanos]
    split_ifs <;> exact endsNumber_cons rfl
  have hyear (cs : List Char) : scanYear (renderYear t.date.year ++ '-' :: cs) =
      .ok (t.date.year, '-' :: cs) :=
    scanYear_renderYear hfirst hlast (endsNumber_cons rfl)
  have hmonth (cs : List Char) : scanPart 1 12 (padded 2 t.date.month ++ '-' :: cs) =
      .ok (t.date.month, '-' :: cs) :=
    scanPart_padded hmonth₁ hmonth₂ (by omega) (endsNumber_cons rfl)
  have hday (cs : List Char) : scanPart 1 31 (padded 2 t.date.day ++ 'T' :: cs) =
      .ok (t.date.day, 'T' :: cs) :=
    scanPart_padded hday₁ hdays (by omega) (endsNumber_cons rfl)
  have hhour (cs : List Char) : scanPart 0 23 (padded 2 (t.minute / 60) ++ ':' :: cs) =
      .ok (t.minute / 60, ':' :: cs) :=
    scanPart_padded (Nat.zero_le _) (by omega) (by omega) (endsNumber_cons rfl)
  have hminute (cs : List Char) : scanPart 0 59 (padded 2 (t.minute % 60) ++ ':' :: cs) =
      .ok (t.minute % 60, ':' :: cs) :=
    scanPart_padded (Nat.zero_le _) (by omega) (by omega) (endsNumber_cons rfl)
  have hsecond := scanPart_padded (Nat.zero_le _) hsecond (by omega) hdecimals
  have hhyphen (cs : List Char) : scanMark '-' ('-' :: cs) = .ok ((), cs) :=
    scanMark_cons (by decide)
  have hcolon (cs : List Char) : scanMark ':' (':' :: cs) = .ok ((), cs) :=
    scanMark_cons (by decide)
  have hdivider (cs : List Char) : scanDivider ('T' :: cs) = .ok ((), cs) := rfl
  have hoffset : scanOffset (['Z'].dropWhile isBlank) = .ok (0, []) := rfl
  simp only [render, String.toList_ofList, List.append_assoc, List.cons_append, scanReading, bind,
    Except.bind, pure, Except.pure, hyear, hmonth, hday, hhour, hminute, hsecond, hhyphen, hcolon,
    hdivider, hoffset, scanNanos_renderNanos t.nanos_lt, reading]

theorem toUtc_reading (t : UtcTime) : t.reading.toUtc = .ok t := by
  have hdate : Date.of? t.date.year t.date.month t.date.day = some t.date := dif_pos t.date.valid
  have hminute : ((t.minute / 60 : Nat) * 60 + (t.minute % 60 : Nat) - 0 : Int) = t.minute := by
    omega
  have hnormal : normalize? t.date t.minute = some (t.date, t.minute) := by
    have hlt := t.minute_lt
    rw [normalize?, if_neg (by omega), if_neg (by omega)]
    rfl
  have hvalid : t.minute < 1440 ∧ t.second ≤ 60 ∧ t.nanos < 1000000000 :=
    ⟨t.minute_lt, t.second_le, t.nanos_lt⟩
  simp only [Reading.toUtc, reading, hdate, hminute, hnormal]
  rw [if_neg (by decide)]
  exact dif_pos hvalid

/-- The text of a time is read as that time. -/
theorem parse_render (t : UtcTime) : parse t.render = .ok t := by
  rw [parse, scanReading_render]
  exact t.toUtc_reading

end ServiceDiscovery.UtcTime
