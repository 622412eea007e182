/-!
# Writing JSON

Compact JSON text, without blanks. In a string the quote, the backslash and
the control characters are escaped, the latter by a short form where there is
one (`\b \t \n \f \r`) and by four lower-case hexadecimal digits otherwise; all
other characters stand for themselves.

The writers put together lists of characters: `Json.object` and `Json.array`
take texts that are JSON already.
-/

namespace ServiceDiscovery.Json

/-- The text of a character within a string. -/
def escape (c : Char) : List Char :=
  if c = '"' then ['\\', '"']
  else if c = '\\' then ['\\', '\\']
  else if c.toNat = 8 then ['\\', 'b']
  else if c.toNat = 9 then ['\\', 't']
  else if c.toNat = 10 then ['\\', 'n']
  else if c.toNat = 12 then ['\\', 'f']
  else if c.toNat = 13 then ['\\', 'r']
  else if c.toNat < 32 then
    ['\\', 'u', '0', '0', Nat.digitChar (c.toNat / 16), Nat.digitChar (c.toNat % 16)]
  else [c]

/-- The text of a string. -/
def string (s : String) : List Char := '"' :: s.toList.flatMap escape ++ ['"']

/-- The text of a natural number. -/
def number (n : Nat) : List Char := Nat.toDigits 10 n

/-- Texts with a comma between them. -/
def commaSeparated : List (List Char) → List Char
  | [] => []
  | [t] => t
  | t :: ts => t ++ ',' :: commaSeparated ts

/-- The text of an array of texts. -/
def array (items : List (List Char)) : List Char := '[' :: commaSeparated items ++ [']']

/-- The text of an object with these members, in this order. -/
def object (members : List (String × List Char)) : List Char :=
  '\x7b' :: commaSeparated (members.map fun (name, text) => string name ++ ':' :: text) ++ ['\x7d']

end ServiceDiscovery.Json
