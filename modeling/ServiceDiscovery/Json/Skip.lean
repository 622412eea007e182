import ServiceDiscovery.Json.Number

/-!
# Skipping JSON values

A value that nobody wants is skipped. It has to be JSON nevertheless, but it may
be nested to any depth.

Skipping goes from one place to the next: before a value, before an element or
a member, and after one; the brackets that are still open are remembered.
-/

namespace ServiceDiscovery.Json

/-- An open bracket. -/
inductive Bracket
  | array
  | object
  deriving DecidableEq, Repr

/-- The character that closes a bracket. -/
def Bracket.close : Bracket → Char
  | array => ']'
  | object => '\x7d'

/-- Where skipping is. -/
inductive Place
  /-- Before a value. -/
  | value
  /-- Within a bracket, before its first element. -/
  | opened
  /-- Within a bracket, after an element. -/
  | after
  deriving DecidableEq, Repr

/-- Skip a name and the colon after it. -/
def skipName (cs : List Char) : Except Fault (List Char) :=
  match skipBlanks cs with
  | [] => .error .truncated
  | '"' :: cs =>
    match skipString cs with
    | .error fault => .error fault
    | .ok cs =>
      match skipBlanks cs with
      | [] => .error .truncated
      | ':' :: cs => .ok cs
      | _ => .error .malformed
  | _ => .error .malformed

/-- Skip to the value of the next element of a bracket. -/
def skipToValue : Bracket → List Char → Except Fault (List Char)
  | .array, cs => .ok cs
  | .object, cs => skipName cs

/-- Skip a value that is no array or object. -/
def skipScalar : List Char → Except Fault (List Char)
  | 'n' :: cs => (readWord "ull".toList cs).map Prod.snd
  | 't' :: cs => (readWord "rue".toList cs).map Prod.snd
  | 'f' :: cs => (readWord "alse".toList cs).map Prod.snd
  | '"' :: cs => skipString cs
  | c :: cs => if c = '-' || c.isDigit then skipNumber (c :: cs) else .error .malformed
  | [] => .error .truncated

/-- The bracket that a value opens. -/
def opening? : List Char → Option (Bracket × List Char)
  | '[' :: cs => some (.array, cs)
  | '\x7b' :: cs => some (.object, cs)
  | _ => none

/-- Skip on from a place, in so many steps at most. -/
def skipFrom : (fuel : Nat) → Place → List Bracket → List Char → Except Fault (List Char)
  | 0, _, _, _ => .error .malformed
  | fuel + 1, .value, brackets, cs =>
    let cs := skipBlanks cs
    match opening? cs with
    | some (bracket, cs) => skipFrom fuel .opened (bracket :: brackets) cs
    | none => do
      let cs ← skipScalar cs
      if brackets.isEmpty then return cs else skipFrom fuel .after brackets cs
  | _ + 1, _, [], cs => .ok cs
  | fuel + 1, place, bracket :: brackets, cs =>
    match skipBlanks cs with
    | [] => .error .truncated
    | c :: cs =>
      if c = bracket.close then
        if brackets.isEmpty then .ok cs else skipFrom fuel .after brackets cs
      else if place = .opened then do
        let cs ← skipToValue bracket (c :: cs)
        skipFrom fuel .value (bracket :: brackets) cs
      else if c = ',' then do
        let cs ← skipToValue bracket cs
        skipFrom fuel .value (bracket :: brackets) cs
      else .error .malformed

/-- Skip a value. Every two steps take up a character. -/
def skipValue (cs : List Char) : Except Fault (List Char) :=
  skipFrom (2 * cs.length + 1) .value [] cs

end ServiceDiscovery.Json
