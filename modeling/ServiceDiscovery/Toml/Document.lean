import ServiceDiscovery.Toml.Value

/-!
# TOML documents under construction

A document is put together from entries and headers. An entry goes into the
table of the last header, and there into the table that its dotted name leads
to. Of every table it is known how it came about (`Origin`), since a table that
has a header of its own, or that was given as a value, must not be extended by
dotted names, and none may have two headers.

The table of a header takes its place in the document when the next header
comes. A header for a table that only other headers had implied so far moves it
to the end of the table around it.

All functions fail on a document that is not allowed.
-/

namespace ServiceDiscovery.Toml

/-- How a table came about. -/
inductive Origin
  /-- It has a header, or is the document itself. -/
  | header
  /-- A header of a table within it implied it. -/
  | implied
  /-- A dotted name implied it. -/
  | dotted
  deriving DecidableEq, Repr

/-- What an entry of a document under construction is. -/
inductive Node
  | value (value : Value)
  | table (origin : Origin) (entries : List (String × Node))
  /-- The tables of a repeated header. -/
  | tables (elements : List (List (String × Node)))

/-- The entries of a table under construction. -/
abbrev Entries := List (String × Node)

namespace Entries

/-- The entry of a name. -/
def find? (name : String) (entries : Entries) : Option Node :=
  (List.find? (fun e => e.1 = name) entries).map Prod.snd

/-- The entries with another one in the place of a name. -/
def replace (name : String) (node : Node) (entries : Entries) : Entries :=
  entries.map fun e => if e.1 = name then (name, node) else e

/-- The entries without the one of a name. -/
def remove (name : String) (entries : Entries) : Entries := entries.filter (·.1 ≠ name)

/-- A list with its last element changed. -/
def updateLast? (f : Entries → Option (Entries × β)) : List Entries → Option (List Entries × β)
  | [] => none
  | [es] => (f es).map fun (es, b) => ([es], b)
  | es :: rest => (updateLast? f rest).map fun (rest, b) => (es :: rest, b)

/-- Change the table at the end of a path, with the tables on the way that are
    not there yet. A repeated table stands for the last one of its header. With
    `dotted` the path is that of a dotted name. -/
def update? (dotted : Bool) (f : Origin → Entries → Option (Entries × β)) :
    (path : List String) → Origin → Entries → Option (Entries × β)
  | [], origin, entries => f origin entries
  | name :: path, _, entries =>
    match find? name entries with
    | none => do
      let origin := if dotted then .dotted else .implied
      let (inner, b) ← update? dotted f path origin []
      return (entries ++ [(name, .table origin inner)], b)
    | some (.value _) => none
    | some (.tables elements) => do
      let (elements, b) ← updateLast? (update? dotted f path .header) elements
      return (replace name (.tables elements) entries, b)
    | some (.table origin inner) => do
      guard !(dotted && origin = .header)
      let (inner, b) ← update? dotted f path origin inner
      return (replace name (.table origin inner) entries, b)

/-- Add an entry under a dotted name, which leads through `path`. Names on the
    way are those of tables that dotted names implied. -/
def insert? (path : List String) (name : String) (value : Value) (entries : Entries) :
    Option Entries :=
  let add (origin : Origin) (entries : Entries) : Option (Entries × Unit) :=
    if (origin = .dotted) = path.isEmpty || (find? name entries).isSome then none
    else some (entries ++ [(name, .value value)], ())
  (update? true add path .header entries).map Prod.fst

end Entries

/-! ## Headers -/

/-- A document under construction. -/
structure Draft where
  /-- The tables that took their places. -/
  root : Entries := []
  /-- The path of the last header. -/
  path : List String := []
  /-- Whether it is a repeated one. -/
  repeated : Bool := false
  /-- The entries of its table. -/
  current : Entries := []

namespace Draft

/-- A path as the one around it and its last name. -/
def splitPath? (path : List String) : Option (List String × String) :=
  path.getLast?.map fun name => (path.dropLast, name)

/-- The document once the table of the last header took its place. -/
def close? (d : Draft) : Option Entries :=
  match splitPath? d.path with
  | none => some d.current
  | some (around, name) =>
    let place (_ : Origin) (entries : Entries) : Option (Entries × Unit) :=
      match entries.find? name, d.repeated with
      | some (.tables elements), true =>
        some (entries.replace name (.tables (elements ++ [d.current])), ())
      | none, false => some (entries ++ [(name, .table .header d.current)], ())
      | _, _ => none
    (Entries.update? false place around .header d.root).map Prod.fst

/-- Go on with the table of a header. -/
def openTable? (d : Draft) (path : List String) : Option Draft := do
  let root ← d.close?
  let (around, name) ← splitPath? path
  let take (_ : Origin) (entries : Entries) : Option (Entries × Entries) :=
    match entries.find? name with
    | none => some (entries, [])
    | some (.table .implied inner) => some (entries.remove name, inner)
    | _ => none
  let (root, current) ← Entries.update? false take around .header root
  return { root, path, current }

/-- Go on with another table of a repeated header. -/
def openRepeated? (d : Draft) (path : List String) : Option Draft := do
  let root ← d.close?
  let (around, name) ← splitPath? path
  let prepare (_ : Origin) (entries : Entries) : Option (Entries × Unit) :=
    match entries.find? name with
    | none => some (entries ++ [(name, .tables [])], ())
    | some (.tables _) => some (entries, ())
    | _ => none
  let (root, _) ← Entries.update? false prepare around .header root
  return { root, path, repeated := true }

/-- Add an entry to the table of the last header. -/
def add? (d : Draft) (path : List String) (value : Value) : Option Draft := do
  let (around, name) ← splitPath? path
  return { d with current := ← d.current.insert? around name value }

end Draft

/-! ## Values -/

mutual

/-- The value that a node stands for. -/
def Node.toValue : Node → Value
  | .value value => value
  | .table _ entries => .table (entryValues entries)
  | .tables elements => .array (tableValues elements)

/-- The values of entries. -/
def entryValues : List (String × Node) → List (String × Value)
  | [] => []
  | (name, node) :: rest => (name, node.toValue) :: entryValues rest

/-- The values of repeated tables. -/
def tableValues : List (List (String × Node)) → List Value
  | [] => []
  | entries :: rest => .table (entryValues entries) :: tableValues rest

end

end ServiceDiscovery.Toml
