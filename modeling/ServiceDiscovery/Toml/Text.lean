import ServiceDiscovery.Text.Scan

/-!
# Reading TOML: blanks, comments and strings

Within a line stand tabs and all characters that are no control characters; a
line ends in a line feed, with or without a carriage return before it.

There are four kinds of strings: in double quotes with escapes, in single quotes
without, and both over several lines, in three quotes. Over several lines a
first line end is left out, all line ends count as line feeds, and a backslash at
the end of a line takes the blanks and line ends after it away; up to two quotes
may stand within the string and also before the closing quotes.

Scanners take something off the front of a text, or fail.
-/

namespace ServiceDiscovery.Toml

/-- What takes an `α` off the front of a text. -/
abbrev Scanner (α : Type) := List Char → Option (α × List Char)

/-! ## Blanks, line ends and comments -/

/-- Whether a character may stand within a line. -/
def isInline (c : Char) : Bool := c = '\t' || (32 ≤ c.toNat && c.toNat ≠ 127)

/-- Whether a character is a blank. -/
def isBlank (c : Char) : Bool := c = ' ' || c = '\t'

/-- A text without the blanks in front. -/
def skipBlanks (cs : List Char) : List Char := cs.dropWhile isBlank

/-- The text after the line end it starts with. -/
def lineEnd? : List Char → Option (List Char)
  | '\n' :: cs => some cs
  | '\r' :: '\n' :: cs => some cs
  | _ => none

/-- A text without the blanks, line ends and comments in front. -/
def skipSpace : (inComment : Bool) → List Char → List Char
  | _, [] => []
  | inComment, c :: cs =>
    if inComment && isInline c then skipSpace true cs
    else if c = '#' then skipSpace true cs
    else if isBlank c || c = '\n' then skipSpace false cs
    else if c = '\r' && cs.head? = some '\n' then skipSpace false cs
    else c :: cs

/-- The text after the end of the line, before which there may be blanks and a
    comment. The last line may lack its end. -/
def endLine? (cs : List Char) : Option (List Char) :=
  let cs :=
    match skipBlanks cs with
    | '#' :: cs => cs.dropWhile isInline
    | cs => cs
  if cs.isEmpty then some [] else lineEnd? cs

/-! ## Escapes -/

/-- The character of a code point, if there is one. -/
def charOf? (n : Nat) : Option Char :=
  if n < 0xD800 ∨ (0xDFFF < n ∧ n < 0x110000) then some (Char.ofNat n) else none

/-- Scan a code point of so many hexadecimal digits. -/
def scanCodePoint (width : Nat) : Scanner Char := fun cs =>
  let digits := cs.take width
  if digits.length = width ∧ digits.all (fun c => (digitValue? 16 c).isSome) then
    (charOf? (digitsValue 16 digits)).map (·, cs.drop width)
  else none

/-- Scan the escape whose backslash was seen. -/
def scanEscape : Scanner Char
  | [] => none
  | c :: cs =>
    if c = '"' || c = '\\' then some (c, cs)
    else if c = 'b' then some (Char.ofNat 8, cs)
    else if c = 't' then some ('\t', cs)
    else if c = 'n' then some ('\n', cs)
    else if c = 'f' then some (Char.ofNat 12, cs)
    else if c = 'r' then some ('\r', cs)
    else if c = 'u' then scanCodePoint 4 cs
    else if c = 'U' then scanCodePoint 8 cs
    else none

/-- A text without the blanks and line ends in front. -/
def skipLines : List Char → List Char
  | [] => []
  | c :: cs =>
    if isBlank c || c = '\n' || (c = '\r' && cs.head? = some '\n') then skipLines cs else c :: cs

/-- The text after a backslash at the end of a line, and the blanks and line ends
    behind it, if the backslash that was seen is one. -/
def joinLines? (cs : List Char) : Option (List Char) := (lineEnd? (skipBlanks cs)).map skipLines

/-! ## Strings in one line -/

/-- Scan a string whose opening double quote was seen. -/
def scanBasic (cs : List Char) : Option (List Char × List Char) :=
  match cs with
  | [] => none
  | '"' :: rest => some ([], rest)
  | '\\' :: cs' => do
    let (c, rest) ← scanEscape cs'
    if rest.length < cs'.length then
      let (s, rest) ← scanBasic rest
      return (c :: s, rest)
    else none
  | c :: cs' =>
    if isInline c then do
      let (s, rest) ← scanBasic cs'
      return (c :: s, rest)
    else none
termination_by cs.length

/-- Scan a string whose opening single quote was seen. -/
def scanLiteral : Scanner (List Char)
  | [] => none
  | '\'' :: rest => some ([], rest)
  | c :: cs =>
    if isInline c then do
      let (s, rest) ← scanLiteral cs
      return (c :: s, rest)
    else none

/-! ## Strings over several lines -/

/-- The end of a string in three quotes: the quotes that belong to it still, and
    the text behind it. -/
def closing? (quote : Char) (cs : List Char) : Option (List Char × List Char) :=
  let count := min 5 (cs.takeWhile (· == quote)).length
  if count < 3 then none else some (List.replicate (count - 3) quote, cs.drop count)

/-- Scan a string whose three opening double quotes were seen. -/
def scanBasicLines (cs : List Char) : Option (List Char × List Char) :=
  match closing? '"' cs with
  | some found => some found
  | none =>
    match cs with
    | [] => none
    | '\\' :: cs' =>
      match joinLines? cs' with
      | some rest => if rest.length < cs'.length then scanBasicLines rest else none
      | none => do
        let (c, rest) ← scanEscape cs'
        if rest.length < cs'.length then
          let (s, rest) ← scanBasicLines rest
          return (c :: s, rest)
        else none
    | '\r' :: '\n' :: cs' => do
      let (s, rest) ← scanBasicLines cs'
      return ('\n' :: s, rest)
    | c :: cs' =>
      if isInline c || c = '\n' then do
        let (s, rest) ← scanBasicLines cs'
        return (c :: s, rest)
      else none
termination_by cs.length

/-- Scan a string whose three opening single quotes were seen. -/
def scanLiteralLines (cs : List Char) : Option (List Char × List Char) :=
  match closing? '\'' cs with
  | some found => some found
  | none =>
    match cs with
    | [] => none
    | '\r' :: '\n' :: cs' => do
      let (s, rest) ← scanLiteralLines cs'
      return ('\n' :: s, rest)
    | c :: cs' =>
      if isInline c || c = '\n' then do
        let (s, rest) ← scanLiteralLines cs'
        return (c :: s, rest)
      else none
termination_by cs.length

/-- A text without a line end in front. -/
def skipLineEnd (cs : List Char) : List Char := (lineEnd? cs).getD cs

/-- Scan a string of any kind. -/
def scanString : Scanner String := fun cs =>
  let found :=
    match cs with
    | '"' :: '"' :: '"' :: cs => scanBasicLines (skipLineEnd cs)
    | '"' :: cs => scanBasic cs
    | '\'' :: '\'' :: '\'' :: cs => scanLiteralLines (skipLineEnd cs)
    | '\'' :: cs => scanLiteral cs
    | _ => none
  found.map fun (s, rest) => (String.ofList s, rest)

end ServiceDiscovery.Toml
