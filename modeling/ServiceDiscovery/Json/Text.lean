import ServiceDiscovery.Mismatch
import ServiceDiscovery.Text.Scan

/-!
# Reading JSON: blanks, words and strings

Reading takes characters off the front of a list. It fails with the first fault
it comes across: the text is no JSON (`malformed`), it ends too early
(`truncated`), or it is JSON but does not fit (`unfit`).

A string can be read or skipped. Skipping does not look at what the escapes
stand for, so that it accepts half a surrogate pair.
-/

namespace ServiceDiscovery.Json

/-- Why a text could not be read. -/
inductive Fault
  | malformed
  | truncated
  | unfit (mismatch : Mismatch)
  deriving DecidableEq, Repr

/-- What reads an `α` off the front of a text. -/
abbrev Reader (α : Type) := List Char → Except Fault (α × List Char)

/-! ## Blanks and words -/

/-- The characters that may stand between values. -/
def isBlank (c : Char) : Bool := c = ' ' || c = '\t' || c = '\n' || c = '\r'

/-- A text without the blanks in front. -/
def skipBlanks (cs : List Char) : List Char := cs.dropWhile isBlank

/-- Read the rest of a word whose first letter was seen. -/
def readWord : List Char → Reader Unit
  | [], cs => .ok ((), cs)
  | _ :: _, [] => .error .truncated
  | w :: ws, c :: cs => if c = w then readWord ws cs else .error .malformed

/-! ## Escapes -/

/-- The number that four hexadecimal digits stand for. -/
def hexValue? (a b c d : Char) : Option Nat := do
  let a ← digitValue? 16 a
  let b ← digitValue? 16 b
  let c ← digitValue? 16 c
  let d ← digitValue? 16 d
  return ((a * 16 + b) * 16 + c) * 16 + d

/-- The length of a text in bytes. -/
def byteLength (cs : List Char) : Nat := cs.foldl (fun n c => n + c.utf8Size) 0

/-- Read four hexadecimal digits. With fewer than four bytes left the text is
    truncated. -/
def readHex : Reader Nat
  | a :: b :: c :: d :: rest =>
    match hexValue? a b c d with
    | some n => .ok (n, rest)
    | none => .error .malformed
  | cs => .error (if byteLength cs < 4 then .truncated else .malformed)

/-- Whether a number of sixteen bits is the first half of a surrogate pair. -/
def isLeading (n : Nat) : Bool := 0xD800 ≤ n && n ≤ 0xDBFF

/-- Whether a number of sixteen bits is the second half of a surrogate pair. -/
def isTrailing (n : Nat) : Bool := 0xDC00 ≤ n && n ≤ 0xDFFF

/-- Read the escape that must follow the first half of a surrogate pair. -/
def readTrailing (leading : Nat) : Reader Char
  | '\\' :: 'u' :: cs =>
    match readHex cs with
    | .error fault => .error fault
    | .ok (n, rest) =>
      if isTrailing n then
        .ok (Char.ofNat (0x10000 + (leading - 0xD800) * 0x400 + (n - 0xDC00)), rest)
      else .error .malformed
  | [] | ['\\'] => .error .truncated
  | _ => .error .malformed

/-- Read the numeric escape whose `\u` was seen. -/
def readUnicode (cs : List Char) : Except Fault (Char × List Char) :=
  match readHex cs with
  | .error fault => .error fault
  | .ok (n, rest) =>
    if isTrailing n then .error .malformed
    else if isLeading n then readTrailing n rest
    else .ok (Char.ofNat n, rest)

/-- The character that a letter stands for after a backslash. -/
def escaped? (c : Char) : Option Char :=
  if c = '"' || c = '\\' || c = '/' then some c
  else if c = 'b' then some (Char.ofNat 8)
  else if c = 'f' then some (Char.ofNat 12)
  else if c = 'n' then some '\n'
  else if c = 'r' then some '\r'
  else if c = 't' then some '\t'
  else none

/-- Read the escape whose backslash was seen. -/
def readEscape : Reader Char
  | [] => .error .truncated
  | 'u' :: cs => readUnicode cs
  | c :: cs =>
    match escaped? c with
    | some e => .ok (e, cs)
    | none => .error .malformed

/-- Skip the escape whose backslash was seen. -/
def skipEscape : List Char → Except Fault (List Char)
  | [] => .error .truncated
  | 'u' :: cs => (readHex cs).map Prod.snd
  | c :: cs => if (escaped? c).isSome then .ok cs else .error .malformed

/-! ## Strings -/

/-- Whether a character must not stand in a string as it is. -/
def isControl (c : Char) : Bool := c.toNat < 32

/-- Read a string whose opening quote was seen. -/
def readString (cs : List Char) : Except Fault (List Char × List Char) :=
  match cs with
  | [] => .error .truncated
  | '"' :: rest => .ok ([], rest)
  | '\\' :: cs' =>
    match readEscape cs' with
    | .error fault => .error fault
    | .ok (c, rest) =>
      -- An escape takes up at least one character.
      if rest.length < cs'.length then
        match readString rest with
        | .error fault => .error fault
        | .ok (s, rest) => .ok (c :: s, rest)
      else .error .malformed
  | c :: cs' =>
    if isControl c then .error .malformed
    else
      match readString cs' with
      | .error fault => .error fault
      | .ok (s, rest) => .ok (c :: s, rest)
termination_by cs.length

/-- Skip a string whose opening quote was seen. -/
def skipString (cs : List Char) : Except Fault (List Char) :=
  match cs with
  | [] => .error .truncated
  | '"' :: rest => .ok rest
  | '\\' :: cs' =>
    match skipEscape cs' with
    | .error fault => .error fault
    | .ok rest => if rest.length < cs'.length then skipString rest else .error .malformed
  | c :: cs' => if isControl c then .error .malformed else skipString cs'
termination_by cs.length

end ServiceDiscovery.Json
