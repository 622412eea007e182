import ServiceDiscovery.Association
import ServiceDiscovery.Json.Skip

/-!
# Reading JSON: values of a wanted type

Readers for texts, numbers, words of an enumeration, tables and records. The
first fault that is met counts, be it in the form of the text or in what it
stands for.

A record is given as an object of its fields, in any order, of which unknown
ones are skipped, or as an array of its fields in their order. A `Field` says
how to read one field into a draft of the record.
-/

namespace ServiceDiscovery.Json

/-- The fault of a value that is of another kind than expected. A value that is
    no array or object is read for it. -/
def misfit (expected : String) (cs : List Char) : Fault :=
  let unfit (found : Found) : Fault := .unfit (.kind found expected)
  let word (rest : List Char) (cs : List Char) (found : Found) : Fault :=
    match readWord rest cs with
    | .ok _ => unfit found
    | .error fault => fault
  match cs with
  | 'n' :: cs => word "ull".toList cs .null
  | 't' :: cs => word "rue".toList cs (.boolean true)
  | 'f' :: cs => word "alse".toList cs (.boolean false)
  | '"' :: cs =>
    match readString cs with
    | .ok (s, _) => unfit (.string (String.ofList s))
    | .error fault => fault
  | '[' :: _ => unfit .sequence
  | '\x7b' :: _ => unfit .map
  | c :: cs =>
    if c = '-' || c.isDigit then
      match readNumber (c :: cs) with
      | .ok (n, _) => unfit n.found
      | .error fault => fault
    else .malformed
  | [] => .truncated

/-! ## Simple values -/

/-- Read a string, of which `expected` says what it is. -/
def readText (expected : String) : Reader String := fun cs =>
  match skipBlanks cs with
  | [] => .error .truncated
  | '"' :: cs =>
    match readString cs with
    | .ok (s, rest) => .ok (String.ofList s, rest)
    | .error fault => .error fault
  | cs => .error (misfit expected cs)

/-- Read a string that stands for a value. -/
def readParsed (expected : String) (parse : String → Except String α) : Reader α := fun cs =>
  match readText expected cs with
  | .error fault => .error fault
  | .ok (s, rest) =>
    match parse s with
    | .ok a => .ok (a, rest)
    | .error reason => .error (.unfit (.text reason))

/-- Read a port. -/
def readPort : Reader UInt16 := fun cs =>
  match skipBlanks cs with
  | [] => .error .truncated
  | c :: cs =>
    if c = '-' || c.isDigit then
      match readNumber (c :: cs) with
      | .error fault => .error fault
      | .ok (.integer n, rest) =>
        if 0 ≤ n ∧ n < Nat.pow 2 16 then .ok (n.toNat.toUInt16, rest)
        else .error (.unfit (.value (.integer n) "u16"))
      | .ok (n, _) => .error (.unfit (.kind n.found "u16"))
    else .error (misfit "u16" (c :: cs))

/-- Read `null`. -/
def readNull : Reader Unit := fun cs =>
  match skipBlanks cs with
  | [] => .error .truncated
  | 'n' :: cs => readWord "ull".toList cs
  | cs => .error (misfit "unit" cs)

/-! ## Objects -/

/-- Read the name of a member, whose opening quote was seen, and the colon
    after it. -/
def readName : Reader String := fun cs =>
  match readString cs with
  | .error fault => .error fault
  | .ok (s, rest) =>
    match skipBlanks rest with
    | [] => .error .truncated
    | ':' :: rest => .ok (String.ofList s, rest)
    | _ => .error .malformed

/-- Read what stands between two members: the text from the name on, or nothing
    at the end of the object. -/
def nextMember? (first : Bool) (cs : List Char) : Except Fault (Option (List Char)) :=
  match skipBlanks cs with
  | [] => .error .truncated
  | '\x7d' :: _ => .ok none
  | '"' :: cs => if first then .ok (some cs) else .error .malformed
  | ',' :: cs =>
    if first then .error .malformed
    else
      match skipBlanks cs with
      | [] => .error .truncated
      | '"' :: cs => .ok (some cs)
      | _ => .error .malformed
  | _ => .error .malformed

/-- Read the members of an object up to its closing brace, which is left. A
    member takes up characters, so that the text gets shorter. -/
def readMembers (member : String → σ → Reader σ) (first : Bool) (s : σ) (cs : List Char) :
    Except Fault (σ × List Char) :=
  match nextMember? first cs with
  | .error fault => .error fault
  | .ok none => .ok (s, cs)
  | .ok (some cs') =>
    match readName cs' with
    | .error fault => .error fault
    | .ok (name, rest) =>
      match member name s rest with
      | .error fault => .error fault
      | .ok (s, rest) =>
        if rest.length < cs.length then readMembers member false s rest else .error .malformed
termination_by cs.length

/-- Read the brace that closes an object. -/
def closeObject : Reader Unit := fun cs =>
  match skipBlanks cs with
  | [] => .error .truncated
  | '\x7d' :: rest => .ok ((), rest)
  | _ => .error .malformed

/-- Read a table of texts. Of members with the same name the last one counts. -/
def readTable : Reader (Association String String) := fun cs =>
  match skipBlanks cs with
  | [] => .error .truncated
  | '\x7b' :: cs => do
    let member (name : String) (table : Association String String) :
        Reader (Association String String) := fun cs => do
      let (value, rest) ← readText "a string" cs
      return (table.put name value, rest)
    let (table, rest) ← readMembers member true .empty cs
    let (_, rest) ← closeObject rest
    return (table, rest)
  | cs => .error (misfit "a map" cs)

/-! ## Enumerations -/

/-- Read a word of an enumeration. It may also be given as the only member of an
    object, with the value `null`. -/
def readWordOf (known : List String) (parse : String → Option α) : Reader α := fun cs =>
  let parseWord (word : String) : Except Fault α :=
    match parse word with
    | some a => .ok a
    | none => .error (.unfit (.unknownWord word known))
  match skipBlanks cs with
  | [] => .error .truncated
  | '"' :: cs => do
    let (s, rest) ← readString cs
    return (← parseWord (String.ofList s), rest)
  | '\x7b' :: cs => do
    let (word, rest) ← readText "variant identifier" cs
    let a ← parseWord word
    match skipBlanks rest with
    | [] => .error .truncated
    | ':' :: rest =>
      let (_, rest) ← readNull rest
      let (_, rest) ← closeObject rest
      return (a, rest)
    | _ => .error .malformed
  | _ => .error .malformed

/-! ## Records -/

/-- A field of a record that is read into a draft `σ`. -/
structure Field (σ : Type) where
  name : String
  /-- Whether the field has to be given. -/
  required : Bool := true
  /-- Whether the draft has the field. -/
  isSet : σ → Bool
  /-- Read the value of the field into the draft. -/
  read : σ → Reader σ

/-- A field whose value is kept in the draft as an option. -/
def Field.of (name : String) (get : σ → Option α) (set : σ → α → σ) (value : Reader α) :
    Field σ where
  name
  isSet s := (get s).isSome
  read s cs :=
    match value cs with
    | .ok (a, rest) => .ok (set s a, rest)
    | .error fault => .error fault

/-- A field that may be left out. -/
def Field.optional (f : Field σ) : Field σ := { f with required := false }

/-- How a record `α` is read. -/
structure RecordFormat (σ α : Type) where
  /-- What the record is called. -/
  name : String
  fields : List (Field σ)
  /-- The draft without any field. -/
  blank : σ
  /-- The record of a draft with all required fields. -/
  build : σ → Option α

namespace RecordFormat

variable {σ α : Type} (format : RecordFormat σ α)

/-- Read the member of a name: a field that was not given yet, or something to
    be skipped. -/
def readMember (name : String) (s : σ) : Reader σ := fun cs =>
  match format.fields.find? (·.name = name) with
  | none =>
    match skipValue cs with
    | .ok rest => .ok (s, rest)
    | .error fault => .error fault
  | some field =>
    if field.isSet s then .error (.unfit (.duplicateField name)) else field.read s cs

/-- The record of a draft. -/
def finish (s : σ) : Except Fault α :=
  match format.fields.find? fun field => field.required && !field.isSet s with
  | some field => .error (.unfit (.missingField field.name))
  | none =>
    match format.build s with
    | some a => .ok a
    | none => .error .malformed

/-- What an array of too few elements should be. -/
def arrayShape : String :=
  "struct " ++ format.name ++ " with " ++ toString format.fields.length ++ " elements"

/-- Go to the next element of an array, if there is one. -/
def nextElement? (first : Bool) (cs : List Char) : Except Fault (Option (List Char)) :=
  match skipBlanks cs with
  | [] => .error .truncated
  | ']' :: _ => .ok none
  | c :: cs =>
    if first then .ok (some (c :: cs))
    else if c ≠ ',' then .error .malformed
    else
      match skipBlanks cs with
      | [] => .error .truncated
      | ']' :: _ => .error .malformed
      | cs => .ok (some cs)

/-- Read the fields of a record from the elements of an array; `count` of them
    were read already. -/
def readElements (count : Nat) (s : σ) (cs : List Char) :
    List (Field σ) → Except Fault (σ × List Char)
  | [] => .ok (s, cs)
  | field :: fields =>
    match nextElement? (count = 0) cs with
    | .error fault => .error fault
    | .ok none =>
      if field.required then .error (.unfit (.length count format.arrayShape))
      else readElements (count + 1) s cs fields
    | .ok (some cs) =>
      match field.read s cs with
      | .error fault => .error fault
      | .ok (s, rest) => readElements (count + 1) s rest fields

/-- Read the bracket that closes an array. -/
def closeArray : Reader Unit := fun cs =>
  match skipBlanks cs with
  | [] => .error .truncated
  | ']' :: rest => .ok ((), rest)
  | _ => .error .malformed

/-- Read a record. -/
def read : Reader α := fun cs =>
  match skipBlanks cs with
  | [] => .error .truncated
  | '\x7b' :: cs => do
    let (s, rest) ← readMembers format.readMember true format.blank cs
    let a ← format.finish s
    let (_, rest) ← closeObject rest
    return (a, rest)
  | '[' :: cs => do
    let (s, rest) ← format.readElements 0 format.blank cs format.fields
    let a ← format.finish s
    let (_, rest) ← closeArray rest
    return (a, rest)
  | cs => .error (misfit ("struct " ++ format.name) cs)

end RecordFormat

/-! ## Whole texts -/

/-- Read a text that holds one value and nothing else. -/
def parse (read : Reader α) (text : String) : Except Fault α :=
  match read text.toList with
  | .error fault => .error fault
  | .ok (a, rest) => if (skipBlanks rest).isEmpty then .ok a else .error .malformed

end ServiceDiscovery.Json
