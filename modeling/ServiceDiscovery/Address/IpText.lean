import ServiceDiscovery.Address.Ip
import ServiceDiscovery.Text.Scan

/-!
# Texts of internet addresses

An IPv4 address is written as four decimal octets. An IPv6 address is written
in lower-case hexadecimal groups, its longest run of at least two zero groups
(the first of several as long) replaced by `::`, and with a trailing IPv4
address if it is an IPv4-mapped one.

Reading is strict. An octet has one to three digits and no leading zero; a
group has one to four hexadecimal digits; `::` stands for at least one group
and occurs at most once; an IPv4 address may stand for the last two groups,
and nothing may surround the address (no blanks, brackets or zone).

The readers work on lists of characters and return what they leave unread.
-/

namespace ServiceDiscovery

/-! ## IPv4 -/

namespace Ipv4

/-- The characters of the text of an address. -/
def render (ip : Ipv4) : List Char :=
  Nat.toDigits 10 ip.a.toNat ++ '.' :: Nat.toDigits 10 ip.b.toNat ++
    '.' :: Nat.toDigits 10 ip.c.toNat ++ '.' :: Nat.toDigits 10 ip.d.toNat

/-- An octet: one to three decimal digits without a leading zero. -/
def scanOctet (cs : List Char) : Option (UInt8 × List Char) :=
  (scanNumber 10 (some 3) false 256 cs).map fun (n, rest) => (n.toUInt8, rest)

/-- The address that `cs` starts with, and the rest of `cs`. -/
def scan (cs : List Char) : Option (Ipv4 × List Char) := do
  let (a, cs) ← scanOctet cs
  let cs ← scanChar '.' cs
  let (b, cs) ← scanOctet cs
  let cs ← scanChar '.' cs
  let (c, cs) ← scanOctet cs
  let cs ← scanChar '.' cs
  let (d, cs) ← scanOctet cs
  return (⟨a, b, c, d⟩, cs)

end Ipv4

/-! ## IPv6 -/

namespace Ipv6

/-- Groups in hexadecimal, separated by colons. -/
def renderGroups : List UInt16 → List Char
  | [] => []
  | [g] => Nat.toDigits 16 g.toNat
  | g :: gs => Nat.toDigits 16 g.toNat ++ ':' :: renderGroups gs

/-- How many zero groups follow one another from position `i` on. -/
def zerosAt (gs : List UInt16) (i : Nat) : Nat := ((gs.drop i).takeWhile (· == 0)).length

/-- Start and length of the longest run of zero groups, the first of several
    as long. -/
def longestZeros (gs : List UInt16) : Nat × Nat :=
  (List.range gs.length).foldl
    (fun best i => if best.2 < zerosAt gs i then (i, zerosAt gs i) else best) (0, 0)

/-- The characters of the text of an address. -/
def render (ip : Ipv6) : List Char :=
  match ip.mapped? with
  | some v4 => "::ffff:".toList ++ v4.render
  | none =>
    let (start, length) := longestZeros ip.groups
    if 1 < length then
      renderGroups (ip.groups.take start) ++ ':' :: ':' ::
        renderGroups (ip.groups.drop (start + length))
    else renderGroups ip.groups

/-- What follows the colon before a group; there is none before the first. -/
def scanSeparator (first : Bool) (cs : List Char) : Option (List Char) :=
  if first then some cs else scanChar ':' cs

/-- One to four hexadecimal digits. -/
def scanGroup (cs : List Char) : Option (UInt16 × List Char) :=
  (scanNumber 16 (some 4) true 65536 cs).map fun (n, rest) => (n.toUInt16, rest)

/-- Groups separated by colons, as many as `cs` starts with but at most
    `room`, and the rest of `cs`. Where two groups have room an IPv4 address is
    tried first; it ends the groups, which the flag tells. -/
def scanGroups : (room : Nat) → (first : Bool) → List Char → List UInt16 × Bool × List Char
  | 0, _, cs => ([], false, cs)
  | room + 1, first, cs =>
    match if 0 < room then (scanSeparator first cs).bind Ipv4.scan else none with
    | some (ip, rest) => (ip.groups, true, rest)
    | none =>
      match (scanSeparator first cs).bind scanGroup with
      | none => ([], false, cs)
      | some (g, rest) =>
        let (gs, embedded, rest) := scanGroups room false rest
        (g :: gs, embedded, rest)

/-- The address that `cs` starts with, and the rest of `cs`: eight groups, or
    the groups before and after a `::` with zeros between them. -/
def scan (cs : List Char) : Option (Ipv6 × List Char) :=
  let (head, embedded, rest) := scanGroups 8 true cs
  if head.length = 8 then (ofGroups? head).map (·, rest)
  else if embedded then none
  else do
    let rest ← scanChar ':' rest
    let rest ← scanChar ':' rest
    let (tail, _, rest) := scanGroups (7 - head.length) true rest
    let gap := List.replicate (8 - head.length - tail.length) 0
    let ip ← ofGroups? (head ++ gap ++ tail)
    return (ip, rest)

end Ipv6

/-! ## Either family -/

namespace IpAddress

/-- The characters of the text of an address. -/
def renderChars : IpAddress → List Char
  | .v4 ip => ip.render
  | .v6 ip => ip.render

/-- The text of an address. -/
def render (ip : IpAddress) : String := String.ofList ip.renderChars

/-- The address that `cs` starts with, and the rest of `cs`. -/
def scan (cs : List Char) : Option (IpAddress × List Char) :=
  match Ipv4.scan cs with
  | some (ip, rest) => some (.v4 ip, rest)
  | none => (Ipv6.scan cs).map fun (ip, rest) => (.v6 ip, rest)

/-- The address whose text is exactly `cs`. -/
def readChars? (cs : List Char) : Option IpAddress :=
  match scan cs with
  | some (ip, []) => some ip
  | _ => none

/-- The address whose text is exactly `s`. -/
def read? (s : String) : Option IpAddress := readChars? s.toList

end IpAddress

end ServiceDiscovery
