import ServiceDiscovery.Json.Reader
import ServiceDiscovery.Proofs.Association
import ServiceDiscovery.Proofs.Json.Text

/-!
# Values that are read again

A text is read as a value (`Reads`) if the value is found however the text goes on after
it, that is with nothing or with the rest of another value (`Follows`). Strings, ports and
words of an enumeration are read as what was written.

The members of an object are read one after another, each into what was gathered before it
(`Gathers`). So a table is read as what was written, in its order, since no key is written
twice (`reads_table`). A record is read as what its fields are filled in with (`Fills`),
since no two fields have the same name (`RecordFormat.reads_object`).
-/

namespace ServiceDiscovery.Json

/-- What may follow a value: nothing, or what goes on within another one. -/
def Follows (rest : List Char) : Prop := rest = [] ∨ Ends rest

/-- A text is read as `a`, and what follows it is left. -/
def Reads {α : Type} (read : Reader α) (text : List Char) (a : α) : Prop :=
  ∀ ⦃rest : List Char⦄, Follows rest → read (text ++ rest) = .ok (a, rest)

theorem Reads.parse {α : Type} {read : Reader α} {text : List Char} {a : α}
    (h : Reads read text a) : parse read (String.ofList text) = .ok a := by
  have hread := h (.inl rfl)
  rw [List.append_nil] at hread
  rw [Json.parse, String.toList_ofList, hread]
  rfl

theorem skipBlanks_cons {c : Char} {cs : List Char} (h : isBlank c = false) :
    skipBlanks (c :: cs) = c :: cs := List.dropWhile_cons_of_neg (ne_true_of_eq_false h)

/-! ## Strings -/

section Strings

variable {α : Type} {expected s : String}

theorem string_append (s : String) (rest : List Char) :
    string s ++ rest = '"' :: (s.toList.flatMap escape ++ '"' :: rest) := by
  rw [string, List.cons_append, List.cons_append, List.append_assoc]
  rfl

theorem skipBlanks_string (s : String) (rest : List Char) :
    skipBlanks (string s ++ rest) = '"' :: (s.toList.flatMap escape ++ '"' :: rest) := by
  rw [string_append, skipBlanks_cons (by decide)]

theorem reads_string : Reads (readText expected) (string s) s := by
  intro rest _
  simp only [readText, skipBlanks_string, readString_flatMap_escape, String.ofList_toList]

/-- A string that stands for a value. -/
theorem reads_parsed {parse : String → Except String α} {a : α} (h : parse s = .ok a) :
    Reads (readParsed expected parse) (string s) a := by
  intro rest hrest
  have hread : readText expected (string s ++ rest) = .ok (s, rest) := reads_string hrest
  simp only [readParsed, hread, h]

/-- A word of an enumeration. -/
theorem reads_word {known : List String} {parse : String → Option α} {a : α}
    (h : parse s = some a) : Reads (readWordOf known parse) (string s) a := by
  intro rest _
  simp only [readWordOf, skipBlanks_string, readString_flatMap_escape, String.ofList_toList, h,
    bind, Except.bind, pure, Except.pure]

end Strings

/-! ## Numbers -/

section Numbers

variable {n : Nat} {rest : List Char}

theorem Follows.isDigit (h : Follows rest) : ∀ c ∈ rest.head?, c.isDigit = false := by
  rcases h with rfl | ⟨c, cs, rfl, hc⟩
  · exact nofun
  · rintro _ ⟨rfl⟩
    rcases hc with rfl | rfl | rfl <;> decide

theorem le_ofDigitChars (k : Nat) (ds : List Char) : k ≤ Nat.ofDigitChars 10 ds k := by
  induction ds generalizing k with
  | nil => exact Nat.le_refl k
  | cons d ds ih =>
    rw [Nat.ofDigitChars_cons]
    exact Nat.le_trans (by omega) (ih _)

/-- All digits of a number that fits count. -/
theorem appendDigits_eq {k : Nat} {ds : List Char} (h : Nat.ofDigitChars 10 ds k ≤ maxWord) :
    appendDigits k ds = (Nat.ofDigitChars 10 ds k, []) := by
  induction ds generalizing k with
  | nil => rfl
  | cons d ds ih =>
    rw [Nat.ofDigitChars_cons, Nat.mul_comm 10 k] at h ⊢
    rw [appendDigits, if_pos (Nat.le_trans (le_ofDigitChars _ ds) h), ih h]

theorem appendDigits_number (h : n ≤ maxWord) : appendDigits 0 (number n) = (n, []) := by
  have hdigits : Nat.ofDigitChars 10 (number n) 0 = n := Nat.ofDigitChars_ten_toDigits
  rw [appendDigits_eq (hdigits.symm ▸ h), hdigits]

/-- A number begins with a digit. -/
theorem exists_cons_number (n : Nat) : ∃ c cs, number n = c :: cs ∧ c.isDigit := by
  obtain ⟨c, cs, he⟩ := List.exists_cons_of_ne_nil (Nat.toDigits_ne_nil (n := n) (b := 10))
  exact ⟨c, cs, he, Nat.isDigit_of_mem_toDigits (by decide) (by decide) (he ▸ List.mem_cons_self)⟩

theorem spanDigits_number (hrest : Follows rest) :
    spanDigits (number n ++ rest) = (number n, rest) := by
  have hdigits : ∀ c ∈ number n, c.isDigit :=
    fun _ => Nat.isDigit_of_mem_toDigits (by decide) (by decide)
  rw [spanDigits, takeWhile_append_of_stop hdigits hrest.isDigit,
    dropWhile_append_of_stop hdigits hrest.isDigit]

theorem readTail_of_follows (hrest : Follows rest) :
    readTail false n rest = .ok (.integer n, rest) := by
  rcases hrest with rfl | ⟨c, cs, rfl, hc⟩
  · rfl
  · rcases hc with rfl | rfl | rfl <;> rfl

theorem readUnsigned_number (hn : n ≤ maxWord) (hrest : Follows rest) :
    readUnsigned false (number n ++ rest) = .ok (.integer n, rest) := by
  rw [readUnsigned, spanDigits_number hrest]
  by_cases hzero : n = 0
  · rw [hzero]
    exact readTail_of_follows hrest
  · -- Only the number zero begins with a zero.
    obtain ⟨c, cs, he, -⟩ := exists_cons_number n
    have hhead : c ≠ '0' := by
      rintro rfl
      exact head?_toDigits_ne (by decide) (by decide) hzero (congrArg List.head? he)
    have happend := appendDigits_number hn
    rw [he] at happend ⊢
    split
    · rename_i hcs
      cases (Prod.mk.inj hcs).1
    · rename_i hcs
      exact absurd (List.cons.inj (Prod.mk.inj hcs).1).1 hhead
    · rename_i hcs
      exact absurd (List.cons.inj (Prod.mk.inj hcs).1).1 hhead
    · rename_i hcs
      obtain ⟨rfl, rfl⟩ := Prod.mk.inj hcs
      rw [happend]
      exact readTail_of_follows hrest

theorem reads_port (port : UInt16) : Reads readPort (number port.toNat) port := by
  intro rest hrest
  obtain ⟨c, cs, he, hc⟩ := exists_cons_number port.toNat
  have hblank : isBlank c = false := by
    simp only [isBlank, Bool.or_eq_false_iff, decide_eq_false_iff_not]
    exact ⟨⟨⟨ne_of_isDigit hc rfl, ne_of_isDigit hc rfl⟩, ne_of_isDigit hc rfl⟩,
      ne_of_isDigit hc rfl⟩
  have hmax : port.toNat ≤ maxWord :=
    Nat.le_trans (Nat.le_of_lt port.toNat_lt) (by decide : 65536 ≤ maxWord)
  have hread : readNumber (c :: (cs ++ rest)) = .ok (.integer port.toNat, rest) := by
    rw [readNumber, ← List.cons_append, ← he]
    · exact readUnsigned_number hmax hrest
    · exact fun _ hcs => ne_of_isDigit hc rfl (List.cons.inj hcs).1
  have hrange : (0 : Int) ≤ port.toNat ∧ (port.toNat : Int) < Nat.pow 2 16 :=
    ⟨Int.natCast_nonneg _, Int.ofNat_lt.2 port.toNat_lt⟩
  have hport : (port.toNat : Int).toNat.toUInt16 = port := UInt16.ofNat_toNat
  simp only [he, List.cons_append, readPort, skipBlanks_cons hblank, hc, Bool.or_true, if_true,
    hread, hport]
  exact if_pos hrange

end Numbers

/-! ## Objects -/

/-- The members are read, one after another, into what was gathered before. -/
inductive Gathers {σ : Type} (member : String → σ → Reader σ) :
    σ → List (String × List Char) → σ → Prop
  | nil (s : σ) : Gathers member s [] s
  | cons {s s' s'' : σ} {name : String} {text : List Char} {members : List (String × List Char)} :
    Reads (member name s) text s' → Gathers member s' members s'' →
      Gathers member s ((name, text) :: members) s''

/-- The text of a member. -/
def memberText (member : String × List Char) : List Char := string member.1 ++ ':' :: member.2

/-- The text of an object up to its closing brace, behind the opening one. -/
def membersText (members : List (String × List Char)) : List Char :=
  commaSeparated (members.map memberText)

section Objects

variable {σ : Type} {member : String → σ → Reader σ} {s s' : σ}
  {members : List (String × List Char)}

theorem memberText_append (name : String) (text rest : List Char) :
    memberText (name, text) ++ rest =
      '"' :: (name.toList.flatMap escape ++ '"' :: ':' :: (text ++ rest)) := by
  rw [memberText, List.append_assoc, string_append]
  rfl

theorem object_append (members : List (String × List Char)) (rest : List Char) :
    object members ++ rest = '\x7b' :: (membersText members ++ '\x7d' :: rest) := by
  rw [object, List.cons_append, List.cons_append, List.append_assoc]
  rfl

/-- One member is read, up to the comma or brace that follows it. -/
theorem readMembers_member (first : Bool) {name : String} {text rest : List Char}
    (hmember : Reads (member name s) text s') (hrest : Follows rest) :
    readMembers member first s ((if first then [] else [',']) ++ (memberText (name, text) ++ rest)) =
      readMembers member false s' rest := by
  have hnext : nextMember? first ((if first then [] else [',']) ++
      (memberText (name, text) ++ rest)) =
      .ok (some (name.toList.flatMap escape ++ '"' :: ':' :: (text ++ rest))) := by
    rw [memberText_append]
    cases first <;> rfl
  have hlength : rest.length < ((if first then [] else [',']) ++
      (memberText (name, text) ++ rest)).length := by
    rw [memberText_append]
    simp only [List.length_append, List.length_cons]
    omega
  rw [readMembers, hnext]
  simp only [readName, readString_flatMap_escape, skipBlanks_cons (c := ':') (by decide),
    String.ofList_toList, hmember hrest, if_pos hlength]

theorem readMembers_close (first : Bool) (s : σ) (rest : List Char) :
    readMembers member first s ('\x7d' :: rest) = .ok (s, '\x7d' :: rest) := by
  have hnext : nextMember? first ('\x7d' :: rest) = .ok none := rfl
  rw [readMembers, hnext]

/-- Behind a member there is a comma or the closing brace. -/
theorem follows_member (members : List (String × List Char)) (rest : List Char) :
    Follows ((members.map memberText).flatMap (',' :: ·) ++ '\x7d' :: rest) := by
  cases members with
  | nil => exact .inr ⟨_, _, rfl, .inr (.inr rfl)⟩
  | cons m members => exact .inr ⟨_, _, rfl, .inl rfl⟩

/-- The members behind the first one. -/
theorem readMembers_flatMap (h : Gathers member s members s') (rest : List Char) :
    readMembers member false s
        ((members.map memberText).flatMap (',' :: ·) ++ '\x7d' :: rest) =
      .ok (s', '\x7d' :: rest) := by
  induction h with
  | nil s => exact readMembers_close false s rest
  | @cons s s' s'' name text members hmember _ ih =>
    rw [← ih, ← readMembers_member false hmember (follows_member members rest), List.map_cons,
      List.flatMap_cons, List.append_assoc]
    rfl

theorem readMembers_membersText (h : Gathers member s members s') (rest : List Char) :
    readMembers member true s (membersText members ++ '\x7d' :: rest) =
      .ok (s', '\x7d' :: rest) := by
  cases h with
  | nil => exact readMembers_close true s rest
  | @cons s s' s'' name text members hmember hmembers =>
    rw [← readMembers_flatMap hmembers,
      ← readMembers_member true hmember (follows_member members rest), membersText, List.map_cons,
      commaSeparated_cons, List.append_assoc]
    rfl

theorem closeObject_cons (rest : List Char) : closeObject ('\x7d' :: rest) = .ok ((), rest) := rfl

end Objects

/-! ## Tables -/

theorem gathers_bindings
    {member : String → Association String String → Reader (Association String String)}
    (hmember : ∀ name table value, Reads (member name table) (string value) (table.put name value))
    (bs : List (String × String)) (table : Association String String) :
    Gathers member table (bs.map fun b => (b.1, string b.2))
      (bs.foldl (fun table b => table.put b.1 b.2) table) := by
  induction bs generalizing table with
  | nil => exact .nil table
  | cons b bs ih => exact .cons (hmember b.1 table b.2) (ih (table.put b.1 b.2))

/-- A table is read as what was written, in its order. -/
theorem reads_table (table : Association String String) :
    Reads readTable (object (table.bindings.map fun b => (b.1, string b.2))) table := by
  intro rest _
  have htable : table.bindings.foldl (fun table b => table.put b.1 b.2) .empty = table :=
    table.ofList_bindings
  simp only [object_append, readTable, skipBlanks_cons (c := '\x7b') (by decide)]
  rw [readMembers_membersText (gathers_bindings ?hmember table.bindings .empty), htable]
  · rfl
  case hmember =>
    intro name table value rest hrest
    beta_reduce
    rw [reads_string hrest]
    rfl

/-! ## Records -/

/-- The fields are filled in, in their order, with what is read of their texts. -/
inductive Fills {σ : Type} : σ → List (Field σ) → List (List Char) → σ → Prop
  | nil (s : σ) : Fills s [] [] s
  | cons {s s' s'' : σ} {field : Field σ} {text : List Char} {fields : List (Field σ)}
    {texts : List (List Char)} : field.isSet s = false → Reads (field.read s) text s' →
      Fills s' fields texts s'' → Fills s (field :: fields) (text :: texts) s''

section Records

variable {σ α : Type} {s s' : σ} {texts : List (List Char)}

theorem Field.reads_of {name : String} {get : σ → Option α} {set : σ → α → σ} {value : Reader α}
    {text : List Char} {a : α} (h : Reads value text a) :
    Reads ((Field.of name get set value).read s) text (set s a) := by
  intro rest hrest
  simp only [Field.of, h hrest]

theorem Field.reads_optional {field : Field σ} {text : List Char}
    (h : Reads (field.read s) text s') : Reads (field.optional.read s) text s' := h

namespace RecordFormat

variable {format : RecordFormat σ α}

theorem find?_field (hnames : (format.fields.map (·.name)).Nodup) {field : Field σ}
    (hfield : field ∈ format.fields) :
    format.fields.find? (·.name = field.name) = some field := by
  obtain ⟨before, after, he⟩ := List.mem_iff_append.1 hfield
  rw [he, List.map_append, List.map_cons] at hnames
  refine List.find?_eq_some_iff_append.2 ⟨decide_eq_true rfl, before, after, he, fun f hf => ?_⟩
  have hne : f.name ≠ field.name := fun hname =>
    List.disjoint_of_nodup_append hnames (List.mem_map_of_mem hf) (hname ▸ List.mem_cons_self)
  simpa using hne

theorem reads_member (hnames : (format.fields.map (·.name)).Nodup) {field : Field σ}
    (hfield : field ∈ format.fields) {text : List Char} (hset : field.isSet s = false)
    (hread : Reads (field.read s) text s') : Reads (format.readMember field.name s) text s' := by
  intro rest hrest
  simp only [readMember, find?_field hnames hfield, hset, hread hrest]
  rfl

theorem gathers_of_fills (hnames : (format.fields.map (·.name)).Nodup) {fields : List (Field σ)}
    (hfields : fields ⊆ format.fields) (h : Fills s fields texts s') :
    Gathers format.readMember s (List.zipWith (fun field text => (field.name, text)) fields texts)
      s' := by
  induction h with
  | nil s => exact .nil s
  | cons hset hread _ ih =>
    obtain ⟨hfield, hfields⟩ := List.cons_subset.1 hfields
    exact .cons (reads_member hnames hfield hset hread) (ih hfields)

/-- A record is read as what its fields are filled in with. -/
theorem reads_object (hnames : (format.fields.map (·.name)).Nodup) {a : α}
    (h : Fills format.blank format.fields texts s) (hfinish : format.finish s = .ok a) :
    Reads format.read
      (object (List.zipWith (fun field text => (field.name, text)) format.fields texts)) a := by
  intro rest _
  have hread := readMembers_membersText (gathers_of_fills hnames (List.Subset.refl _) h) rest
  simp only [object_append, read, skipBlanks_cons (c := '\x7b') (by decide), bind, Except.bind, pure,
    Except.pure, hread, hfinish, closeObject_cons]

end RecordFormat

end Records

end ServiceDiscovery.Json
