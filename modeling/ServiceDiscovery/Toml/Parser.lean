import ServiceDiscovery.Toml.Document
import ServiceDiscovery.Toml.Number

/-!
# Reading TOML

A document consists of lines: entries, headers of tables, comments and empty
lines. `Toml.parse?` gives the entries of the document, or nothing for a text
that is no TOML 1.0. Arrays and tables within a line may be nested up to
seventy-nine deep, and a dotted name has at most as many parts.
-/

namespace ServiceDiscovery.Toml

/-! ## Names -/

/-- The largest depth of values and names. -/
def maxDepth : Nat := 79

/-- Whether a character may stand in a name without quotes. -/
def isBare (c : Char) : Bool := c.isAlphanum || c = '_' || c = '-'

/-- Scan one part of a name. -/
def scanPart : Scanner String := fun cs =>
  let found :=
    match cs with
    | '"' :: cs => scanBasic cs
    | '\'' :: cs => scanLiteral cs
    | cs =>
      let bare := cs.takeWhile isBare
      if bare.isEmpty then none else some (bare, cs.drop bare.length)
  found.map fun (s, rest) => (String.ofList s, rest)

/-- Scan the parts of a name, with a dot between them and blanks around them. -/
def scanParts (cs : List Char) : Option (List String × List Char) := do
  let (part, rest) ← scanPart (skipBlanks cs)
  match skipBlanks rest with
  | '.' :: rest =>
    if rest.length < cs.length then
      let (parts, rest) ← scanParts rest
      return (part :: parts, rest)
    else none
  | rest => return ([part], rest)
termination_by cs.length

/-- Scan a name. -/
def scanName : Scanner (List String) := fun cs => do
  let (parts, rest) ← scanParts cs
  guard (parts.length ≤ maxDepth)
  return (parts, rest)

/-! ## Values -/

/-- Scan the items of an array whose opening bracket was seen. -/
def scanItems (item : Scanner Value) (cs : List Char) : Option (List Value × List Char) :=
  match skipSpace false cs with
  | ']' :: rest => some ([], rest)
  | cs' => do
    let (value, rest) ← item cs'
    match skipSpace false rest with
    | ',' :: rest =>
      if rest.length < cs.length then
        let (values, rest) ← scanItems item rest
        return (value :: values, rest)
      else none
    | ']' :: rest => return ([value], rest)
    | _ => none
termination_by cs.length

/-- Scan the entry of a table, and add it to those before. -/
def scanEntry (item : Scanner Value) (entries : Entries) : Scanner Entries := fun cs => do
  let (parts, rest) ← scanName cs
  let rest ← scanChar '=' rest
  let (value, rest) ← item (skipBlanks rest)
  let name ← parts.getLast?
  return (← entries.insert? parts.dropLast name value, skipBlanks rest)

/-- Scan the entries of a table, each followed by a comma or by the closing
    brace. -/
def scanEntries (item : Scanner Value) (entries : Entries) (cs : List Char) :
    Option (Entries × List Char) := do
  let (entries, rest) ← scanEntry item entries cs
  match rest with
  | ',' :: rest =>
    if rest.length < cs.length then scanEntries item entries rest else none
  | '\x7d' :: rest => return (entries, rest)
  | _ => none
termination_by cs.length

/-- Scan a table in braces, the first of which was seen. -/
def scanInlineTable (item : Scanner Value) : Scanner Value := fun cs =>
  match skipBlanks cs with
  | '\x7d' :: rest => some (.table [], rest)
  | cs => (scanEntries item [] cs).map fun (entries, rest) => (.table (entryValues entries), rest)

/-- The rest of a text after a word. -/
def dropWord? (word : String) (cs : List Char) : Option (List Char) :=
  if word.toList.isPrefixOf cs then some (cs.drop word.length) else none

/-- Scan a value that is neither an array nor a table. -/
def scanSimple : Scanner Value
  | [] => none
  | c :: cs =>
    let cs := c :: cs
    if c = '"' || c = '\'' then (scanString cs).map fun (s, rest) => (.string s, rest)
    else if c = 't' then (dropWord? "true" cs).map (.boolean true, ·)
    else if c = 'f' then (dropWord? "false" cs).map (.boolean false, ·)
    else if c = 'i' || c = 'n' then scanSpecial false cs
    else scanDateTime cs <|> scanFloat cs <|> scanInteger cs

/-- Scan a value in which arrays and tables are nested up to a depth. -/
def scanValue : (depth : Nat) → Scanner Value
  | 0, cs => scanSimple cs
  | depth + 1, cs =>
    match cs with
    | '[' :: cs => (scanItems (scanValue depth) cs).map fun (items, rest) => (.array items, rest)
    | '\x7b' :: cs => scanInlineTable (scanValue depth) cs
    | cs => scanSimple cs

/-! ## Lines -/

/-- Scan a line with an entry. -/
def scanEntryLine (d : Draft) (cs : List Char) : Option (Draft × List Char) := do
  let (parts, rest) ← scanName cs
  let rest ← scanChar '=' rest
  let (value, rest) ← scanValue maxDepth (skipBlanks rest)
  let rest ← endLine? rest
  return (← d.add? parts value, rest)

/-- Scan the rest of a line with a header. -/
def scanHeader (d : Draft) (cs : List Char) : Option (Draft × List Char) :=
  match cs with
  | '[' :: cs => do
    let (parts, rest) ← scanName cs
    let rest ← dropWord? "]]" rest
    return (← d.openRepeated? parts, ← endLine? rest)
  | cs => do
    let (parts, rest) ← scanName cs
    let rest ← scanChar ']' rest
    return (← d.openTable? parts, ← endLine? rest)

/-- Scan a line. -/
def scanLine (d : Draft) (cs : List Char) : Option (Draft × List Char) :=
  match skipBlanks cs with
  | [] => some (d, [])
  | '[' :: cs => scanHeader d cs
  | c :: cs =>
    if c = '#' || c = '\n' || c = '\r' then (endLine? (c :: cs)).map (d, ·)
    else scanEntryLine d (c :: cs)

/-- Scan lines to the end. Every line takes up a character at least. -/
def scanLines (d : Draft) (cs : List Char) : Option Draft :=
  if cs.isEmpty then some d
  else do
    let (d, rest) ← scanLine d cs
    if rest.length < cs.length then scanLines d rest else none
termination_by cs.length

/-- The mark that may stand in front of a document. -/
def byteOrderMark : Char := Char.ofNat 0xFEFF

/-- The entries of a document. -/
def parse? (text : String) : Option (List (String × Value)) := do
  let cs :=
    match text.toList with
    | c :: cs => if c = byteOrderMark then cs else c :: cs
    | [] => []
  let d ← scanLines {} cs
  return entryValues (← d.close?)

end ServiceDiscovery.Toml
