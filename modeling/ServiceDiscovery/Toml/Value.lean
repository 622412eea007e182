import ServiceDiscovery.Mismatch

/-!
# TOML values

What a document in TOML holds. Tables keep the order of their entries, and no
name occurs in one twice. Dates and times are not told apart from each other;
they are kept as text.
-/

namespace ServiceDiscovery.Toml

/-- A value. -/
inductive Value
  | string (value : String)
  | integer (value : Int)
  | float (value : FloatValue)
  | boolean (value : Bool)
  | dateTime (text : String)
  | array (items : List Value)
  | table (entries : List (String × Value))

/-- What a value is where something else is expected. -/
def Value.found : Value → Found
  | string value => .string value
  | integer value => .integer value
  | float value => .float value.positional
  | boolean value => .boolean value
  | dateTime _ | table _ => .map
  | array _ => .sequence

end ServiceDiscovery.Toml
