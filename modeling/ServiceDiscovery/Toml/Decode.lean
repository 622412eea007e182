import ServiceDiscovery.Association
import ServiceDiscovery.Toml.Value

/-!
# TOML values of a wanted type

Decoders for texts, numbers, tables of texts and records. The first value that
does not fit counts, in the order of the document; a field that is missing
counts only after all that are there.

A record is given as a table of its fields, of which unknown ones are ignored,
or as an array of its fields in their order, of which those beyond the last are
ignored. A `Field` says how one field is put into the record.
-/

namespace ServiceDiscovery.Toml

/-- How a value of a type is made from a TOML value. -/
abbrev Decoder (α : Type) := Value → Except Mismatch α

/-- The mismatch of a value of another kind than expected. -/
def misfit (expected : String) (v : Value) : Mismatch := .kind v.found expected

/-! ## Simple values -/

/-- Decode a text. -/
def decodeText : Decoder String
  | .string s => .ok s
  | v => .error (misfit "a string" v)

/-- Decode a natural number below a bound, of which `expected` says what it is. -/
def decodeNat (bound : Nat) (expected : String) : Decoder Nat
  | .integer n =>
    if 0 ≤ n ∧ n < bound then .ok n.toNat else .error (.value (.integer n) expected)
  | v => .error (misfit expected v)

/-- Decode a port. -/
def decodePort : Decoder UInt16 := fun v => (decodeNat (Nat.pow 2 16) "u16" v).map Nat.toUInt16

/-- Decode a number of up to thirty-two bits. -/
def decodeCount : Decoder Nat := decodeNat (Nat.pow 2 32) "u32"

/-- Decode a number of milliseconds. -/
def decodeMillis : Decoder Nat := decodeNat (Nat.pow 2 64) "u64"

/-! ## Tables -/

/-- The name under which a date or time is found in its table. -/
def dateTimeName : String := "$__toml_private_datetime"

/-- The entries of a value, if it is a table. A date or time is one too, with
    its text as the only entry. -/
def Value.entries? : Value → Option (List (String × Value))
  | .table entries => some entries
  | .dateTime text => some [(dateTimeName, .string text)]
  | _ => none

/-- Decode the entries of a table of texts. -/
def decodeTexts (table : Association String String) :
    List (String × Value) → Except Mismatch (Association String String)
  | [] => .ok table
  | (name, value) :: entries =>
    match decodeText value with
    | .ok text => decodeTexts (table.put name text) entries
    | .error mismatch => .error mismatch

/-- Decode a table of texts. -/
def decodeTable : Decoder (Association String String) := fun v =>
  match v.entries? with
  | some entries => decodeTexts .empty entries
  | none => .error (misfit "a map" v)

/-! ## Records -/

/-- A field of a record `α`. -/
structure Field (α : Type) where
  name : String
  /-- Whether the field has to be given. -/
  required : Bool := false
  /-- Decode the value of the field into the record. -/
  read : α → Decoder α

/-- A field whose value is put into the record by `set`. -/
def Field.of (name : String) (decode : Decoder β) (set : α → β → α) : Field α where
  name
  read a v := (decode v).map (set a)

/-- The field as one that has to be given. -/
def Field.needed (f : Field α) : Field α := { f with required := true }

/-- How a record is decoded. -/
structure RecordFormat (α : Type) where
  /-- What the record is called. -/
  name : String
  fields : List (Field α)
  /-- The record before any field is decoded, with the defaults of those that
      may be left out. -/
  blank : α

namespace RecordFormat

variable {α : Type} (format : RecordFormat α)

/-- Decode the entries of a table into a record. -/
def readEntries (a : α) : List (String × Value) → Except Mismatch α
  | [] => .ok a
  | (name, value) :: entries =>
    match format.fields.find? (·.name = name) with
    | none => readEntries a entries
    | some field =>
      match field.read a value with
      | .ok a => readEntries a entries
      | .error mismatch => .error mismatch

/-- The first field that has to be given and is not among some entries. -/
def missing? (entries : List (String × Value)) : Option (Field α) :=
  format.fields.find? fun field => field.required && !entries.any (·.1 = field.name)

/-- What an array of too few elements should be. -/
def arrayShape : String :=
  "struct " ++ format.name ++ " with " ++ toString format.fields.length ++ " elements"

/-- Decode the elements of an array into a record; `count` of them were decoded
    already. -/
def readElements (count : Nat) (a : α) : List Value → List (Field α) → Except Mismatch α
  | _, [] => .ok a
  | [], field :: fields =>
    if field.required then .error (.length count format.arrayShape)
    else readElements (count + 1) a [] fields
  | value :: values, field :: fields =>
    match field.read a value with
    | .ok a => readElements (count + 1) a values fields
    | .error mismatch => .error mismatch

/-- Decode a record. -/
def decode : Decoder α
  | .array values => format.readElements 0 format.blank values format.fields
  | v =>
    match v.entries? with
    | none => .error (misfit ("struct " ++ format.name) v)
    | some entries =>
      match format.readEntries format.blank entries with
      | .error mismatch => .error mismatch
      | .ok a =>
        match format.missing? entries with
        | some field => .error (.missingField field.name)
        | none => .ok a

end RecordFormat

end ServiceDiscovery.Toml
