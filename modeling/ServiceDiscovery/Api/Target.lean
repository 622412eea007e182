/-!
# Request targets

What may stand in an HTTP request for its target, and the path in it: a path
with perhaps a query, a whole URI with scheme and authority, an authority
alone, or an asterisk. Anything after a `#` is cut off.

The path is kept as it is written. Percent escapes are decoded in a part of it
only (`Percent.decode`): a percent sign and two hexadecimal digits stand for a
byte, everything else for itself, and the bytes have to be UTF-8.
-/

namespace ServiceDiscovery

namespace Percent

/-- The value of a hexadecimal digit, given as a byte. -/
def digit? (b : UInt8) : Option UInt8 :=
  if 0x30 ≤ b ∧ b ≤ 0x39 then some (b - 0x30)
  else if 0x41 ≤ b ∧ b ≤ 0x46 then some (b - 0x41 + 10)
  else if 0x61 ≤ b ∧ b ≤ 0x66 then some (b - 0x61 + 10)
  else none

/-- The byte that two hexadecimal digits stand for. -/
def byte? (hi lo : UInt8) : Option UInt8 :=
  match digit? hi, digit? lo with
  | some h, some l => some (h * 16 + l)
  | _, _ => none

/-- The bytes with escapes decoded; a percent sign without two digits stands
    for itself. -/
def decodeBytes : List UInt8 → List UInt8
  | [] => []
  | [b] => [b]
  | [b, c] => [b, c]
  | b :: hi :: lo :: rest =>
    if b = 0x25 then
      match byte? hi lo with
      | some v => v :: decodeBytes rest
      | none => b :: decodeBytes (hi :: lo :: rest)
    else b :: decodeBytes (hi :: lo :: rest)

/-- The text that some written text stands for, if its bytes are UTF-8. -/
def decode (s : String) : Option String :=
  String.fromUTF8? ⟨(decodeBytes s.toUTF8.toList).toArray⟩

end Percent

namespace Target

/-- The characters of a path: those of RFC 3986 without the percent-encoded,
    the percent sign, quotes and braces, and everything outside of ASCII. -/
def isPathChar (c : Char) : Bool :=
  let n := c.toNat
  n = 0x21 || (0x24 ≤ n && n ≤ 0x3b) || n = 0x3d || (0x40 ≤ n && n ≤ 0x5f) ||
    (0x61 ≤ n && n ≤ 0x7e) || 0x7f ≤ n || n = 0x22

/-- The characters of a query. -/
def isQueryChar (c : Char) : Bool :=
  let n := c.toNat
  n = 0x21 || (0x24 ≤ n && n ≤ 0x3b) || n = 0x3d || 0x3f ≤ n

/-- The path of a path with perhaps a query and a fragment, if all characters
    up to the fragment are in order. -/
def pathOf? (cs : List Char) : Option (List Char) :=
  let path := cs.takeWhile fun c => c != '?' && c != '#'
  let rest := cs.drop path.length
  let query := if rest.head? = some '?' then rest.tail.takeWhile (· != '#') else []
  if path.all isPathChar && query.all isQueryChar then some path else none

/-- The characters of an authority that have no meaning in it, or one that
    `authority?` looks at. -/
def isAuthorityChar (c : Char) : Bool :=
  c.isAlphanum || "!$&'()*+,-.:;=@[]_~".toList.contains c

/-- What was seen of an authority. -/
structure AuthorityState where
  colons : Nat := 0
  opened : Bool := false
  closed : Bool := false
  percent : Bool := false
  endsInAt : Bool := false

/-- One more character of an authority. Colons and percent signs before an `@`
    belong to the user, those in brackets to an address. -/
def AuthorityState.next? (s : AuthorityState) (c : Char) : Option AuthorityState :=
  let s := { s with endsInAt := false }
  if c = ':' then if 8 ≤ s.colons then none else some { s with colons := s.colons + 1 }
  else if c = '[' then if s.percent || s.opened then none else some { s with opened := true }
  else if c = ']' then
    if !s.opened || s.closed then none
    else some { s with closed := true, colons := 0, percent := false }
  else if c = '@' then some { s with colons := 0, percent := false, endsInAt := true }
  else if c = '%' then some { s with percent := true }
  else if isAuthorityChar c then some s
  else none

/-- Whether characters without `/`, `?` and `#` are an authority. -/
def isAuthority (cs : List Char) : Bool :=
  match cs.foldlM AuthorityState.next? {} with
  | none => false
  | some s => s.opened == s.closed && s.colons ≤ 1 && !s.endsInAt && !s.percent

/-- The characters before the first `/`, `?` or `#`. -/
def authorityPart (cs : List Char) : List Char :=
  cs.takeWhile fun c => c != '/' && c != '?' && c != '#'

/-- The characters of a scheme. -/
def isSchemeChar (c : Char) : Bool := c.isAlphanum || c = '+' || c = '-' || c = '.'

/-- The length of the longest scheme. -/
def maxScheme : Nat := 64

/-- The scheme before `://` and what follows, if the text starts so. -/
def scheme? (cs : List Char) : Option (List Char × List Char) :=
  let scheme := cs.takeWhile isSchemeChar
  match cs.drop scheme.length with
  | ':' :: '/' :: '/' :: rest => some (scheme, rest)
  | _ => none

/-- The path of a request target, if the text is one. An authority alone has an
    empty path, an authority after a scheme the path `/`. -/
def path? (target : String) : Option String :=
  let cs := target.toList
  match cs with
  | [] => none
  | ['*'] => some target
  | '/' :: _ => (pathOf? cs).map String.ofList
  | _ =>
    match scheme? cs with
    | some (scheme, rest) =>
      let authority := authorityPart rest
      if maxScheme < scheme.length || authority.isEmpty || !isAuthority authority then none
      else
        (pathOf? (rest.drop authority.length)).map fun path =>
          if path.isEmpty then "/" else String.ofList path
    | none => if authorityPart cs = cs && isAuthority cs then some "" else none

end Target

end ServiceDiscovery
