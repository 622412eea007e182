import ServiceDiscovery.View.Digest

/-!
# The view

The peer table belongs to one task, the view, which works off requests in the
order in which they were put. After every change it publishes the digest of the
table, before it answers the request that made the change. A request to shut
down is the last one, and has no answer: those behind it, and all later ones,
find the view closed.
-/

namespace ServiceDiscovery

/-- A request to the view. -/
inductive ViewRequest
  | insert (peer : Peer)
  | remove (key : PeerKey)
  /-- All entries. -/
  | all
  /-- An entry with an instance name. -/
  | one (instanceName : String)
  | shutdown
  deriving DecidableEq, Repr

/-- Whether whoever puts a request awaits an answer. Of one to shut down it is only known
    whether it could be put. -/
def ViewRequest.awaited : ViewRequest → Bool
  | insert _ | remove _ | all | one _ => true
  | shutdown => false

/-- An answer of the view. -/
inductive ViewReply (τ : Type u)
  /-- Whether an insertion or a removal changed anything. -/
  | changed (changed : Bool)
  | entries (entries : List (PeerEntry τ))
  | entry (entry : Option (PeerEntry τ))
  /-- The view is closed. -/
  | closed
  deriving DecidableEq, Repr

/-- The view: its table, what it published, and the requests it has not worked
    off, each with a number under which the answer is awaited. -/
structure View (τ : Type u) where
  table : PeerTable τ := {}
  /-- The digest published last. -/
  digest : String := Digest.of ([] : List (PeerEntry τ))
  /-- How often a digest was published. -/
  publications : Nat := 0
  requests : List (Nat × ViewRequest) := []
  closed : Bool := false

namespace View

variable {τ : Type u}

instance : Inhabited (View τ) := ⟨{}⟩

/-- Put a request. A closed view refuses it. -/
def ask (v : View τ) (asker : Nat) (request : ViewRequest) : View τ × Bool :=
  if v.closed then (v, false) else ({ v with requests := v.requests ++ [(asker, request)] }, true)

/-- The view with another table, whose digest it publishes if it changed. -/
def setTable (v : View τ) (table : PeerTable τ) (changed : Bool) : View τ :=
  if changed then
    { v with table, digest := Digest.of table.all, publications := v.publications + 1 }
  else { v with table }

/-- What a request does to the table, and its answer. -/
def handle (v : View τ) (now : τ) : ViewRequest → View τ × Option (ViewReply τ)
  | .insert peer =>
    let (table, changed) := v.table.insert peer now
    (v.setTable table changed, some (.changed changed))
  | .remove key =>
    let (table, changed) := v.table.remove key
    (v.setTable table changed, some (.changed changed))
  | .all => (v, some (.entries v.table.all))
  | .one instanceName => (v, some (.entry (v.table.byInstance? instanceName)))
  | .shutdown => ({ v with closed := true }, none)

/-- What is answered to requests for which the view is closed. -/
def refusals (requests : List (Nat × ViewRequest)) : List (Nat × ViewReply τ) :=
  (requests.filter (·.2.awaited)).map fun p => (p.1, .closed)

/-- Work off the first request. The answers are those to the request and, when
    the view closes, to all requests behind it. -/
def step? (v : View τ) (now : τ) : Option (View τ × List (Nat × ViewReply τ)) :=
  match v.requests with
  | [] => none
  | (asker, request) :: rest =>
    let (v, reply) := { v with requests := rest }.handle now request
    let answers := (reply.map (asker, ·)).toList
    if v.closed then some ({ v with requests := [] }, answers ++ refusals rest)
    else some (v, answers)

end View

end ServiceDiscovery
