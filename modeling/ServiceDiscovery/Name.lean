import ServiceDiscovery.Service

/-!
# Names of service instances

The full name of an instance is its own name, a dot, and its service type with
domain, as in `nas._files._tcp.local.`. A type with domain is split after its
protocol label: `_files._tcp` and `local.`.

`PeerKey.ofFullName` reads a full name under a browsed type, and
`PeerKey.fullName` writes it again.
-/

namespace ServiceDiscovery

/-! ## Lists of characters -/

/-- The part of `cs` before the first occurrence of `word`. -/
def beforeFirst? (word : List Char) : List Char → Option (List Char)
  | [] => if word.isEmpty then some [] else none
  | c :: cs =>
    if word.isPrefixOf (c :: cs) then some []
    else (beforeFirst? word cs).map (c :: ·)

/-- `cs` without the dots it ends in. -/
def trimDots (cs : List Char) : List Char := (cs.reverse.dropWhile (· == '.')).reverse

/-- The part of `cs` before its ending `ending`, if it has that ending. -/
def dropEnding? (ending cs : List Char) : Option (List Char) :=
  if ending.isSuffixOf cs then some (cs.take (cs.length - ending.length)) else none

/-! ## Service types -/

/-- The two transports, as they stand between a type and its domain. -/
def transportLabels : List String := ["._tcp.", "._udp."]

/-- The service type and the domain of a type with domain, split at the dot
    after the first transport label; `_tcp` is looked for before `_udp`. A
    text without one is a type without domain, and loses its trailing dots. -/
def splitTypeDomain (typeDomain : String) : String × String :=
  let cs := typeDomain.toList
  let split? := transportLabels.findSome? fun label =>
    (beforeFirst? label.toList cs).map (·.length + label.length)
  match split? with
  | some n => (String.ofList (cs.take (n - 1)), String.ofList (cs.drop n))
  | none => (String.ofList (trimDots cs), "")

/-! ## Keys and full names -/

namespace PeerKey

/-- The full name that a key stands for. -/
def fullName (k : PeerKey) : String := k.name ++ "." ++ k.serviceType ++ "." ++ k.domain

/-- The key of the instance `fullName` seen while browsing `typeDomain` on
    `interface`. Its name is what precedes the type, without trailing dots, and
    the whole full name if that does not end in the type. -/
def ofFullName (fullName typeDomain interface : String) : PeerKey :=
  let name := match dropEnding? typeDomain.toList fullName.toList with
    | some cs => String.ofList (trimDots cs)
    | none => fullName
  let (serviceType, domain) := splitTypeDomain typeDomain
  { interface, protocol := .unspec, name, serviceType, domain }

end PeerKey

end ServiceDiscovery
