import ServiceDiscovery.Number.FloatText
import ServiceDiscovery.Text.Quoted

/-!
# Mismatches

Why a value that was read does not fit what is wanted. A mismatch names what was
found and what was expected; a record of several fields may besides lack a
field, have one twice, or be given as a list that is too short.
-/

namespace ServiceDiscovery

/-- What was found where something else was expected. -/
inductive Found
  | null
  | boolean (value : Bool)
  | integer (value : Int)
  /-- A number with a point or an exponent, as it is shown. -/
  | float (text : String)
  | string (value : String)
  | sequence
  | map
  deriving DecidableEq, Repr

def Found.describe : Found → String
  | null => "null"
  | boolean value => "boolean `" ++ (if value then "true" else "false") ++ "`"
  | integer value => "integer `" ++ toString value ++ "`"
  | float text => "floating point `" ++ text ++ "`"
  | string value => "string " ++ quote value
  | sequence => "sequence"
  | map => "map"

/-- Why a value does not fit. -/
inductive Mismatch
  /-- It is of another kind. -/
  | kind (found : Found) (expected : String)
  /-- It is of the right kind but out of range. -/
  | value (found : Found) (expected : String)
  /-- It is a list with so few elements. -/
  | length (count : Nat) (expected : String)
  | missingField (name : String)
  | duplicateField (name : String)
  /-- It is no member of an enumeration. -/
  | unknownWord (word : String) (known : List String)
  /-- Its text does not stand for anything. -/
  | text (reason : String)
  deriving DecidableEq, Repr

def Mismatch.message : Mismatch → String
  | kind found expected => "invalid type: " ++ found.describe ++ ", expected " ++ expected
  | value found expected => "invalid value: " ++ found.describe ++ ", expected " ++ expected
  | length count expected => "invalid length " ++ toString count ++ ", expected " ++ expected
  | missingField name => "missing field `" ++ name ++ "`"
  | duplicateField name => "duplicate field `" ++ name ++ "`"
  | unknownWord word known =>
    "unknown variant `" ++ word ++ "`, expected one of " ++
      String.intercalate ", " (known.map fun w => "`" ++ w ++ "`")
  | text reason => reason

end ServiceDiscovery
