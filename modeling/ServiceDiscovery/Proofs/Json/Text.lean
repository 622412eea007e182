import Mathlib.Tactic.SplitIfs
import ServiceDiscovery.Json.Text
import ServiceDiscovery.Json.Writer
import ServiceDiscovery.Proofs.Text.Digits

/-!
# JSON texts that tell what they stand for

A string that was written is read again, however the text goes on
(`readString_flatMap_escape`). So its text tells which string it is and where it ends, and
the same holds of a number, if a value ends where it ends (`Ends`). Texts that tell
something (`Tells`) are put together to members, objects and arrays that tell all of it.
-/

namespace ServiceDiscovery.Json

/-! ## Strings that are read again -/

/-- What a character is written as: itself, or what reading an escape makes it of. -/
inductive Escaped (c : Char) : List Char → Prop
  | letter {l : Char} : l ≠ 'u' → escaped? l = some c → Escaped c ['\\', l]
  | unicode : c.toNat < 32 → Escaped c
      ['\\', 'u', '0', '0', Nat.digitChar (c.toNat / 16), Nat.digitChar (c.toNat % 16)]
  | plain : c ≠ '"' → c ≠ '\\' → isControl c = false → Escaped c [c]

theorem escaped_escape (c : Char) : Escaped c (escape c) := by
  have hshort (n : Nat) (hn : c.toNat = n) : some (Char.ofNat n) = some c :=
    congrArg some (hn ▸ Char.ofNat_toNat c)
  rw [escape]
  split_ifs with hquote hbackslash h8 h9 h10 h12 h13 hcontrol
  · exact .letter (by decide) (congrArg some hquote.symm)
  · exact .letter (by decide) (congrArg some hbackslash.symm)
  · exact .letter (by decide) (hshort 8 h8)
  · exact .letter (by decide) (hshort 9 h9)
  · exact .letter (by decide) (hshort 10 h10)
  · exact .letter (by decide) (hshort 12 h12)
  · exact .letter (by decide) (hshort 13 h13)
  · exact .unicode hcontrol
  · exact .plain hquote hbackslash (decide_eq_false hcontrol)

theorem readUnicode_of_lt {c : Char} (hc : c.toNat < 32) (rest : List Char) :
    readUnicode ('0' :: '0' :: Nat.digitChar (c.toNat / 16) :: Nat.digitChar (c.toNat % 16) ::
      rest) = .ok (c, rest) := by
  have hzero : digitValue? 16 '0' = some 0 := by decide
  have hhigh : digitValue? 16 (Nat.digitChar (c.toNat / 16)) = some (c.toNat / 16) :=
    digitValue?_digitChar (Nat.le_refl _) (by omega)
  have hlow : digitValue? 16 (Nat.digitChar (c.toNat % 16)) = some (c.toNat % 16) :=
    digitValue?_digitChar (Nat.le_refl _) (by omega)
  have hvalue : hexValue? '0' '0' (Nat.digitChar (c.toNat / 16)) (Nat.digitChar (c.toNat % 16)) =
      some c.toNat := by
    rw [hexValue?, hzero, hhigh, hlow]
    exact congrArg some (by omega)
  have hleading : isLeading c.toNat = false :=
    Bool.and_eq_false_iff.2 (.inl (decide_eq_false (by omega)))
  have htrailing : isTrailing c.toNat = false :=
    Bool.and_eq_false_iff.2 (.inl (decide_eq_false (by omega)))
  simp only [readUnicode, readHex, hvalue, hleading, htrailing, Bool.false_eq_true, if_false,
    Char.ofNat_toNat]

/-- A character that was written is read again. -/
theorem readString_escape {c : Char} {s rest tail : List Char}
    (h : readString rest = .ok (s, tail)) :
    readString (escape c ++ rest) = .ok (c :: s, tail) := by
  have hescape {cs : List Char} (hread : readEscape cs = .ok (c, rest))
      (hlength : rest.length < cs.length) : readString ('\\' :: cs) = .ok (c :: s, tail) := by
    rw [readString, hread]
    dsimp only
    rw [if_pos hlength, h]
  -- A letter and a number stand for the character, any other character for itself.
  generalize hcs : escape c = written
  have hwritten := hcs ▸ escaped_escape c
  cases hwritten with
  | @letter l hl hc =>
    refine hescape ?_ (Nat.lt_succ_self _)
    change readEscape (l :: rest) = _
    rw [readEscape]
    · rw [hc]
    · exact hl
  | unicode hc => exact hescape (readUnicode_of_lt hc rest) (by simp; omega)
  | plain hquote hbackslash hcontrol =>
    change readString (c :: rest) = _
    rw [readString, if_neg (ne_true_of_eq_false hcontrol), h]
    · exact hquote
    · exact hbackslash

/-- A string that was written is read again, and what follows it is left. -/
theorem readString_flatMap_escape (cs rest : List Char) :
    readString (cs.flatMap escape ++ '"' :: rest) = .ok (cs, rest) := by
  induction cs with
  | nil => rw [List.flatMap_nil, List.nil_append, readString]
  | cons c cs ih =>
    rw [List.flatMap_cons, List.append_assoc]
    exact readString_escape ih

/-! ## Texts that tell something -/

/-- What may follow a value within another. -/
def Ends (rest : List Char) : Prop :=
  ∃ c cs, rest = c :: cs ∧ (c = ',' ∨ c = ']' ∨ c = '\x7d')

theorem Ends.digitValue? {rest : List Char} (h : Ends rest) :
    ∀ c ∈ rest.head?, digitValue? 10 c = none := by
  obtain ⟨c, cs, rfl, hc⟩ := h
  rintro c' ⟨rfl⟩
  rcases hc with rfl | rfl | rfl <;> decide

/-- The text `f` of something tells what `g` says of it, and where the text ends. -/
def Tells {α : Type u} {β : Type v} (f : α → List Char) (g : α → β) : Prop :=
  ∀ ⦃x y : α⦄ ⦃rest rest' : List Char⦄, Ends rest → Ends rest' →
    f x ++ rest = f y ++ rest' → g x = g y ∧ rest = rest'

theorem tells_string : Tells string id := by
  intro x y rest rest' _ _ h
  have hread (s : String) (rest : List Char) :
      readString ((string s ++ rest).tail) = .ok (s.toList, rest) := by
    rw [string, List.cons_append, List.cons_append, List.append_assoc]
    exact readString_flatMap_escape s.toList rest
  have hboth := (hread x rest).symm.trans (h ▸ hread y rest')
  obtain ⟨hs, hrest⟩ := Prod.mk.inj (Except.ok.inj hboth)
  exact ⟨String.toList_injective hs, hrest⟩

theorem tells_number : Tells number id := by
  intro x y rest rest' hrest hrest' h
  have hread {n : Nat} {rest : List Char} (hn : n < x + y + 1) (hrest : Ends rest) :
      scanNumber 10 none false (x + y + 1) (number n ++ rest) = some (n, rest) :=
    scanNumber_toDigits (by decide) (by decide) hn nofun hrest.digitValue?
  have hboth := (hread (by omega) hrest).symm.trans (h ▸ hread (by omega) hrest')
  exact Prod.mk.inj (Option.some.inj hboth)

namespace Tells

variable {α : Type u} {β : Type v} {γ : Type w} {f f' : α → List Char} {g : α → β} {g' : α → γ}

/-- What is known from something that is told. -/
theorem imp (hf : Tells f g) (h : ∀ x y, g x = g y → g' x = g' y) : Tells f g' := by
  intro x y rest rest' hrest hrest' he
  obtain ⟨hxy, hrests⟩ := hf hrest hrest' he
  exact ⟨h x y hxy, hrests⟩

theorem comp (hf : Tells f g) (k : γ → α) : Tells (fun x => f (k x)) fun x => g (k x) :=
  fun _ _ _ _ hrest hrest' he => hf hrest hrest' he

theorem member (hf : Tells f g) (name : String) : Tells (fun x => string name ++ ':' :: f x) g := by
  intro x y rest rest' hrest hrest' h
  rw [List.append_assoc, List.append_assoc] at h
  exact hf hrest hrest' (List.cons.inj (List.append_cancel_left h)).2

theorem comma (hf : Tells f g) (hf' : Tells f' g') :
    Tells (fun x => f x ++ ',' :: f' x) fun x => (g x, g' x) := by
  intro x y rest rest' hrest hrest' h
  rw [List.append_assoc, List.append_assoc] at h
  obtain ⟨hxy, htail⟩ := hf ⟨_, _, rfl, .inl rfl⟩ ⟨_, _, rfl, .inl rfl⟩ h
  obtain ⟨hxy', hrests⟩ := hf' hrest hrest' (List.cons.inj htail).2
  exact ⟨Prod.ext hxy hxy', hrests⟩

theorem braces (hf : Tells f g) : Tells (fun x => '\x7b' :: f x ++ ['\x7d']) g := by
  intro x y rest rest' _ _ h
  rw [List.append_assoc, List.append_assoc] at h
  have hclose (rest : List Char) : Ends (['\x7d'] ++ rest) := ⟨_, _, rfl, .inr (.inr rfl)⟩
  obtain ⟨hxy, hrests⟩ := hf (hclose rest) (hclose rest') (List.cons.inj h).2
  exact ⟨hxy, (List.cons.inj hrests).2⟩

end Tells

/-! ## Arrays -/

theorem commaSeparated_cons (t : List Char) (ts : List (List Char)) :
    commaSeparated (t :: ts) = t ++ ts.flatMap (',' :: ·) := by
  induction ts generalizing t with
  | nil => exact (List.append_nil t).symm
  | cons t' ts ih =>
    rw [commaSeparated, ih, List.flatMap_cons, List.cons_append]
    exact nofun

section Items

variable {α : Type u} {β : Type v} {f : α → List Char} {g : α → β}

theorem ends_flatMap (ts : List (List Char)) : Ends (ts.flatMap (',' :: ·) ++ [']']) := by
  cases ts with
  | nil => exact ⟨_, _, rfl, .inr (.inl rfl)⟩
  | cons t ts => exact ⟨_, _, rfl, .inl rfl⟩

/-- Behind the first item of an array. -/
theorem map_eq_of_flatMap (hf : Tells f g) {xs ys : List α}
    (h : (xs.map f).flatMap (',' :: ·) ++ [']'] = (ys.map f).flatMap (',' :: ·) ++ [']']) :
    xs.map g = ys.map g := by
  induction xs generalizing ys with
  | nil =>
    cases ys with
    | nil => rfl
    | cons y ys => cases h
  | cons x xs ih =>
    cases ys with
    | nil => cases h
    | cons y ys =>
      rw [List.map_cons, List.map_cons, List.flatMap_cons, List.flatMap_cons, List.append_assoc,
        List.append_assoc] at h
      obtain ⟨hxy, hrest⟩ := hf (ends_flatMap _) (ends_flatMap _) (List.cons.inj h).2
      rw [List.map_cons, List.map_cons, hxy, ih hrest]

/-- The text of an array tells what the texts of its items tell, none of which begins as the
    array would end. -/
theorem map_eq_of_array (hf : Tells f g) (hstart : ∀ x, ∃ c cs, f x = c :: cs ∧ c ≠ ']')
    {xs ys : List α} (h : array (xs.map f) = array (ys.map f)) : xs.map g = ys.map g := by
  -- An array with an item is not taken for the empty one.
  have hitem (x : α) (xs : List α) : array ((x :: xs).map f) ≠ array [] := by
    obtain ⟨c, cs, hx, hc⟩ := hstart x
    rw [List.map_cons, array, array, commaSeparated_cons, hx]
    intro he
    exact hc (List.cons.inj (List.cons.inj he).2).1
  cases xs with
  | nil =>
    cases ys with
    | nil => rfl
    | cons y ys => exact absurd h.symm (hitem y ys)
  | cons x xs =>
    cases ys with
    | nil => exact absurd h (hitem x xs)
    | cons y ys =>
      rw [array, array, List.map_cons, List.map_cons, commaSeparated_cons, commaSeparated_cons,
        List.cons_append, List.cons_append, List.append_assoc, List.append_assoc] at h
      obtain ⟨hxy, hrest⟩ := hf (ends_flatMap _) (ends_flatMap _) (List.cons.inj h).2
      rw [List.map_cons, List.map_cons, hxy, map_eq_of_flatMap hf hrest]

end Items

end ServiceDiscovery.Json
