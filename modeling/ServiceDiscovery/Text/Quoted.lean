import ServiceDiscovery.Text.Printable

/-!
# Quoted texts

A text as it is shown within a message: in quotes, with a backslash before the
quote and the backslash, short forms for tab, line feed, carriage return and
the null character, and the code point in braces for whatever else cannot be
shown.
-/

namespace ServiceDiscovery

/-- A character as it is shown within quotes. -/
def showChar (c : Char) : List Char :=
  if c = '"' then ['\\', '"']
  else if c = '\\' then ['\\', '\\']
  else if c = '\t' then ['\\', 't']
  else if c = '\n' then ['\\', 'n']
  else if c = '\r' then ['\\', 'r']
  else if c.toNat = 0 then ['\\', '0']
  else if isPrintable c then [c]
  else "\\u\x7b".toList ++ Nat.toDigits 16 c.toNat ++ ['\x7d']

/-- A text in quotes. -/
def quote (s : String) : String := String.ofList ('"' :: s.toList.flatMap showChar ++ ['"'])

end ServiceDiscovery
