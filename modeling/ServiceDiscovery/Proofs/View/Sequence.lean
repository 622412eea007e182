import ServiceDiscovery.Proofs.View.Digest

/-!
# One request after the other

Anybody may put a request to a view at any time, while it is at work on another one, and
may read its digest. A `ViewTask` is a view with what it is about to do: it takes a request,
publishes a digest if the table was changed, and answers (`ViewTask.move?`). What it does
for one request amounts to the step of a view (`View.step?_run`).

`PeerTable.execute` executes requests one after the other on a table, each at its moment.
What is seen of a view, its answers and the digests it publishes, is what is seen of that
execution of all requests in the order in which they were put, whoever put them and whatever
came in between (`ViewTask.Run.in_sequence`). Between two requests, and as soon as an answer
is due, the digest is the one of the table; a digest is published whenever the text that is
hashed has changed.
-/

namespace ServiceDiscovery

variable {τ : Type u}

/-! ## Execution -/

/-- What is seen of a view. -/
inductive ViewOutput (τ : Type u)
  | published (digest : String)
  | answered (asker : Nat) (reply : ViewReply τ)
  deriving DecidableEq

namespace ViewOutput

/-- The answers to requests for which the view is closed. -/
def refused (requests : List (Nat × ViewRequest)) : List (ViewOutput τ) :=
  (requests.filter (·.2.awaited)).map fun p => .answered p.1 .closed

def isPublished : ViewOutput τ → Bool
  | published _ => true
  | answered _ _ => false

/-- A digest is published just before each answer that says that something was changed, and
    before no other. -/
inductive Paired : List (ViewOutput τ) → Prop
  | nil : Paired []
  | changed {seen : List (ViewOutput τ)} (digest : String) (asker : Nat) : Paired seen →
      Paired (.published digest :: .answered asker (.changed true) :: seen)
  | unchanged {seen : List (ViewOutput τ)} {reply : ViewReply τ} (asker : Nat) :
      reply ≠ .changed true → Paired seen → Paired (.answered asker reply :: seen)

/-- The answer that is given, and to whom. -/
def answer? : ViewOutput τ → Option (Nat × ViewReply τ)
  | published _ => none
  | answered asker reply => some (asker, reply)

theorem refused_append (requests more : List (Nat × ViewRequest)) :
    (refused (requests ++ more) : List (ViewOutput τ)) = refused requests ++ refused more := by
  rw [refused, List.filter_append, List.map_append]
  rfl

theorem filterMap_refused (requests : List (Nat × ViewRequest)) :
    (refused requests : List (ViewOutput τ)).filterMap answer? = View.refusals requests := by
  rw [refused, List.filterMap_map]
  exact List.filterMap_eq_map_iff_forall_eq_some.2 fun _ _ => rfl

/-- Nothing is published for those who are refused. -/
theorem countP_refused (requests : List (Nat × ViewRequest)) :
    (refused requests : List (ViewOutput τ)).countP isPublished = 0 := by
  refine List.countP_eq_zero.2 fun seen hm => ?_
  obtain ⟨p, -, rfl⟩ := List.mem_map.1 hm
  exact Bool.false_ne_true

theorem paired_refused (requests : List (Nat × ViewRequest)) :
    Paired (refused requests : List (ViewOutput τ)) := by
  rw [refused]
  induction requests.filter (·.2.awaited) with
  | nil => exact .nil
  | cons p requests ih => exact .unchanged p.1 nofun ih

end ViewOutput

/-- Whether a reply says that something was changed. -/
def ViewReply.changes : ViewReply τ → Bool
  | .changed something => something
  | .entries _ | .entry _ | .closed => false

theorem ViewReply.changes_iff {reply : ViewReply τ} :
    reply.changes = true ↔ reply = .changed true := by
  cases reply <;> simp [changes]

namespace PeerTable

/-- What a request does to a table, and the reply. A request to shut down has none. -/
def serve (t : PeerTable τ) (now : τ) : ViewRequest → PeerTable τ × Option (ViewReply τ)
  | .insert peer => ((t.insert peer now).1, some (.changed (t.insert peer now).2))
  | .remove key => ((t.remove key).1, some (.changed (t.remove key).2))
  | .all => (t, some (.entries t.all))
  | .one instanceName => (t, some (.entry (t.byInstance? instanceName)))
  | .shutdown => (t, none)

/-- What is seen of a request that was served: the digest of the table, if something was
    changed, and then the answer. -/
def answer (t : PeerTable τ) (asker : Nat) (reply : ViewReply τ) : List (ViewOutput τ) :=
  if reply.changes then [.published (Digest.of t.all), .answered asker reply]
  else [.answered asker reply]

/-- Serve requests one after the other, each at its moment, as far as there are moments. Those
    behind a request to shut down are refused, as far as an answer to them is awaited. -/
def execute : PeerTable τ → List (Nat × ViewRequest) → List τ →
    PeerTable τ × List (ViewOutput τ)
  | t, (asker, request) :: requests, now :: moments =>
    match t.serve now request with
    | (t, some reply) =>
      let rest := t.execute requests moments
      (rest.1, t.answer asker reply ++ rest.2)
    | (t, none) => (t, ViewOutput.refused requests)
  | t, _, _ => (t, [])

end PeerTable

/-! ## The task -/

/-- What a view is about to do. -/
inductive ViewStage (τ : Type u)
  | idle
  /-- Publish the digest, since the table was changed. -/
  | publishing (asker : Nat) (reply : ViewReply τ)
  | replying (asker : Nat) (reply : ViewReply τ)

/-- A view at work. -/
structure ViewTask (τ : Type u) where
  view : View τ := {}
  stage : ViewStage τ := .idle

/-- What may happen to a view at work. -/
inductive ViewMove (τ : Type u)
  /-- Somebody puts a request. -/
  | ask (asker : Nat) (request : ViewRequest)
  /-- The view takes the first request. -/
  | take (now : τ)
  | publish
  | reply

namespace ViewMove

/-- The request that is put. -/
def asked : ViewMove τ → List (Nat × ViewRequest)
  | ask asker request => [(asker, request)]
  | take _ | publish | reply => []

/-- The moment at which a request is taken. -/
def moments : ViewMove τ → List τ
  | take now => [now]
  | ask _ _ | publish | reply => []

end ViewMove

namespace ViewTask

/-- Take the first request. One to shut down closes the view, and those behind it are
    refused, another one to shut down without an answer. -/
def take? (task : ViewTask τ) (now : τ) : Option (ViewTask τ × List (ViewOutput τ)) :=
  match task.stage, task.view.requests with
  | .idle, (asker, request) :: requests =>
    match task.view.table.serve now request with
    | (table, some reply) =>
      some (⟨{ task.view with table, requests },
        if reply.changes then .publishing asker reply else .replying asker reply⟩, [])
    | (_, none) =>
      some (⟨{ task.view with requests := [], closed := true }, .idle⟩,
        ViewOutput.refused requests)
  | _, _ => none

/-- The task after a move, and what is seen of it, if it could be made. What comes too late for
    a closed view is refused; a request to shut down has no answer then either, and it is seen
    from `View.ask` alone that it could not be put. -/
def move? (task : ViewTask τ) : ViewMove τ → Option (ViewTask τ × List (ViewOutput τ))
  | .ask asker request =>
    let (view, accepted) := task.view.ask asker request
    some ({ task with view }, if accepted then [] else ViewOutput.refused [(asker, request)])
  | .take now => task.take? now
  | .publish =>
    match task.stage with
    | .publishing asker reply =>
      some (⟨task.view.setTable task.view.table true, .replying asker reply⟩,
        [.published (Digest.of task.view.table.all)])
    | _ => none
  | .reply =>
    match task.stage with
    | .replying asker reply => some ({ task with stage := .idle }, [.answered asker reply])
    | _ => none

theorem move?_take (task : ViewTask τ) (now : τ) : task.move? (.take now) = task.take? now := rfl

theorem move?_publish (view : View τ) (asker : Nat) (reply : ViewReply τ) :
    move? ⟨view, .publishing asker reply⟩ .publish =
      some (⟨view.setTable view.table true, .replying asker reply⟩,
        [.published (Digest.of view.table.all)]) := rfl

theorem move?_reply (view : View τ) (asker : Nat) (reply : ViewReply τ) :
    move? ⟨view, .replying asker reply⟩ .reply =
      some (⟨view, .idle⟩, [.answered asker reply]) := rfl

/-- What a task may become, with the requests that were put until then, the moments at which
    requests were taken, and all that was seen. -/
inductive Run (first : ViewTask τ) :
    ViewTask τ → List (Nat × ViewRequest) → List τ → List (ViewOutput τ) → Prop
  | start : Run first first [] [] []
  | step {task task' : ViewTask τ} {asked : List (Nat × ViewRequest)} {moments : List τ}
      {seen out : List (ViewOutput τ)} {move : ViewMove τ} : Run first task asked moments seen →
      task.move? move = some (task', out) →
      Run first task' (asked ++ move.asked) (moments ++ move.moments) (seen ++ out)

/-- The task after a series of moves, and what is seen of it, if they could be made. -/
def moves? (task : ViewTask τ) : List (ViewMove τ) → Option (ViewTask τ × List (ViewOutput τ))
  | [] => some (task, [])
  | move :: moves =>
    (task.move? move).bind fun (next, out) =>
      (moves? next moves).map fun (last, more) => (last, out ++ more)

theorem Run.moves {first task task' : ViewTask τ} {asked : List (Nat × ViewRequest)}
    {moments : List τ} {seen out : List (ViewOutput τ)} {moves : List (ViewMove τ)}
    (h : Run first task asked moments seen) (hmoves : task.moves? moves = some (task', out)) :
    Run first task' (asked ++ moves.flatMap ViewMove.asked)
      (moments ++ moves.flatMap ViewMove.moments) (seen ++ out) := by
  induction moves generalizing task asked moments seen out with
  | nil =>
    obtain ⟨rfl, rfl⟩ := Prod.mk.inj (Option.some.inj hmoves)
    rw [List.flatMap_nil, List.flatMap_nil, List.append_nil, List.append_nil, List.append_nil]
    exact h
  | cons move moves ih =>
    obtain ⟨⟨next, made⟩, hmove, hrest⟩ := Option.bind_eq_some_iff.1 hmoves
    obtain ⟨⟨last, more⟩, hmore, heq⟩ := Option.map_eq_some_iff.1 hrest
    obtain ⟨rfl, rfl⟩ := Prod.mk.inj heq
    rw [List.flatMap_cons, List.flatMap_cons, ← List.append_assoc, ← List.append_assoc,
      ← List.append_assoc]
    exact ih (h.step hmove) hmore

/-- What is still to be seen of the request that was taken. -/
def due (task : ViewTask τ) : List (ViewOutput τ) :=
  match task.stage with
  | .idle => []
  | .publishing asker reply => [.published (Digest.of task.view.table.all), .answered asker reply]
  | .replying asker reply => [.answered asker reply]

end ViewTask

/-! ## Steps of a view -/

namespace View

theorem handle_eq (v : View τ) (now : τ) (request : ViewRequest) :
    v.handle now request =
      match v.table.serve now request with
      | (table, some reply) => (v.setTable table reply.changes, some reply)
      | (_, none) => ({ v with closed := true }, none) := by
  cases request <;> rfl

/-- A step of an open view is what it does for one request while nobody else acts. -/
theorem step?_run {v v' : View τ} {now : τ} {answers : List (Nat × ViewReply τ)}
    (hopen : v.closed = false) (h : v.step? now = some (v', answers)) :
    ∃ seen, ViewTask.Run ⟨v, .idle⟩ ⟨v', .idle⟩ [] [now] seen ∧
      seen.filterMap ViewOutput.answer? = answers := by
  obtain ⟨old, digest, publications, waiting, closed⟩ := v
  obtain rfl : closed = false := hopen
  cases waiting with
  | nil => cases h
  | cons p requests =>
    obtain ⟨asker, request⟩ := p
    have htake := ViewTask.move?_take
      ⟨⟨old, digest, publications, (asker, request) :: requests, false⟩, .idle⟩ now
    rw [step?] at h
    rw [ViewTask.take?] at htake
    dsimp only at h htake
    rw [handle_eq] at h
    dsimp only at h
    cases hserve : old.serve now request with
    | mk table reply =>
      rw [hserve] at h htake
      cases reply with
      | none =>
        obtain ⟨rfl, rfl⟩ := Prod.mk.inj (Option.some.inj h)
        exact ⟨_, ViewTask.Run.start.step htake, ViewOutput.filterMap_refused requests⟩
      | some reply =>
        dsimp only at h htake
        rw [closed_setTable, if_neg Bool.false_ne_true] at h
        obtain ⟨rfl, rfl⟩ := Prod.mk.inj (Option.some.inj h)
        have htaken := ViewTask.Run.start.step htake
        cases hchanges : reply.changes with
        | false =>
          rw [hchanges, if_neg Bool.false_ne_true] at htaken
          exact ⟨_, htaken.step (ViewTask.move?_reply ..), rfl⟩
        | true =>
          rw [hchanges, if_pos rfl] at htaken
          exact ⟨_, (htaken.step (ViewTask.move?_publish ..)).step (ViewTask.move?_reply ..), rfl⟩

end View

/-! ## Executions -/

namespace PeerTable

variable {t : PeerTable τ} {now : τ} {request : ViewRequest}

theorem serve_eq_none_iff : (t.serve now request).2 = none ↔ request = .shutdown := by
  cases request <;> simp [serve]

/-- A reply that says nothing was changed is right. -/
theorem serve_of_unchanged {table : PeerTable τ} {reply : ViewReply τ}
    (h : t.serve now request = (table, some reply)) (hsame : reply.changes = false) :
    table = t := by
  cases request with
  | insert peer =>
    cases h
    exact insert_of_unchanged hsame
  | remove key =>
    cases h
    exact remove_of_unchanged hsame
  | all | one name => exact (Prod.mk.inj h).1.symm
  | shutdown => cases h

theorem execute_one {table : PeerTable τ} {asker : Nat} {reply : ViewReply τ}
    (h : t.serve now request = (table, some reply)) :
    t.execute [(asker, request)] [now] = (table, table.answer asker reply) := by
  simp [execute, h]

/-- An execution goes on where that of the first requests ended. -/
theorem execute_append {served requests : List (Nat × ViewRequest)} {moments more : List τ}
    (hlength : served.length = moments.length) (hopen : ∀ p ∈ served, p.2 ≠ .shutdown) :
    t.execute (served ++ requests) (moments ++ more) =
      (((t.execute served moments).1.execute requests more).1,
        (t.execute served moments).2 ++
          ((t.execute served moments).1.execute requests more).2) := by
  induction served generalizing t moments with
  | nil =>
    obtain rfl := List.eq_nil_of_length_eq_zero hlength.symm
    simp [execute]
  | cons p served ih =>
    obtain ⟨asker, request⟩ := p
    cases moments with
    | nil => cases hlength
    | cons now moments =>
      have hlength : served.length = moments.length := Nat.succ.inj hlength
      have hfirst : request ≠ .shutdown := hopen (asker, request) List.mem_cons_self
      cases hserve : t.serve now request with
      | mk table reply =>
        cases reply with
        | none => exact absurd (serve_eq_none_iff.1 (congrArg Prod.snd hserve)) hfirst
        | some reply =>
          simp only [List.cons_append, execute, hserve,
            ih hlength fun p hp => hopen p (List.mem_cons_of_mem _ hp), List.append_assoc]

theorem execute_nil (t : PeerTable τ) (requests : List (Nat × ViewRequest)) :
    t.execute requests [] = (t, []) := by
  cases requests <;> rfl

/-- What is seen of an execution are answers, and the digests that belong to them. -/
theorem paired_execute (t : PeerTable τ) (requests : List (Nat × ViewRequest)) (moments : List τ) :
    ViewOutput.Paired (t.execute requests moments).2 := by
  induction requests generalizing t moments with
  | nil => exact .nil
  | cons p requests ih =>
    obtain ⟨asker, request⟩ := p
    cases moments with
    | nil => exact .nil
    | cons now moments =>
      rw [execute]
      split
      · rename_i table reply hserve
        dsimp only
        rw [answer]
        split
        · rename_i hchanges
          obtain rfl := ViewReply.changes_iff.1 hchanges
          exact .changed _ asker (ih table moments)
        · rename_i hchanges
          exact .unchanged asker (mt ViewReply.changes_iff.2 hchanges) (ih table moments)
      · exact ViewOutput.paired_refused requests

/-! ## What is hashed of a table -/

/-- Tables with the same text list entries that say the same. -/
theorem perm_of_text {t' : PeerTable τ} (h : Digest.text t'.all = Digest.text t.all) :
    ((t'.entries.entries fun e => some e.place).map Prod.snd).Perm
      ((t.entries.entries fun e => some e.place).map Prod.snd) := by
  have hplaces (t : PeerTable τ) : ((t.all.mergeSort Digest.le).map PeerEntry.place).Perm
      ((t.entries.entries fun e => some e.place).map Prod.snd) := by
    have hvalues : (t.entries.entries fun e => some e.place).map Prod.snd =
        t.entries.values.map PeerEntry.place := by
      simp [Association.values, Association.entries, Function.comp_def]
    rw [hvalues]
    exact ((List.mergeSort_perm ..).trans (byName_perm _)).map _
  exact (hplaces t').symm.trans (Digest.text_eq_text_iff.1 h ▸ hplaces t)

/-- The text changes with what the entry of one key says. -/
theorem text_ne_of_place {t' : PeerTable τ} (key : PeerKey)
    (hself : (t.entries.get? key).map PeerEntry.place ≠
      (t'.entries.get? key).map PeerEntry.place)
    (hothers : ∀ k, k ≠ key → t'.entries.get? k = t.entries.get? k) :
    Digest.text t'.all ≠ Digest.text t.all := by
  intro h
  have hkeys (k : PeerKey) : ((t'.entries.get? k).bind fun e => some e.place) =
      if k = key then (t'.entries.get? key).bind fun e => some e.place
      else (t.entries.get? k).bind fun e => some e.place := by
    split
    · rename_i hk
      rw [hk]
    · rename_i hk
      rw [hothers k hk]
  have hswap := (Association.perm_entries_swap hkeys).trans
    ((perm_of_text h).symm.append_left _)
  have hlists := (List.perm_append_right_iff _).1 hswap
  rw [Option.map_eq_bind, Option.map_eq_bind] at hself
  refine hself (?_ : ((t.entries.get? key).bind fun e => some e.place) =
    (t'.entries.get? key).bind fun e => some e.place)
  generalize (t.entries.get? key).bind (fun e => some e.place) = place at hlists ⊢
  generalize (t'.entries.get? key).bind (fun e => some e.place) = place' at hlists ⊢
  cases place with
  | none =>
    cases place' with
    | none => rfl
    | some place' => cases hlists.length_eq
  | some place =>
    cases place' with
    | none => cases hlists.length_eq
    | some place' => exact congrArg some (List.singleton_perm_singleton.1 hlists)

/-- Something is changed, says an insertion, exactly if the text changes. -/
theorem insert_changes_iff {peer : Peer} :
    (t.insert peer now).2 = true ↔ Digest.text (t.insert peer now).1.all ≠ Digest.text t.all := by
  constructor
  · intro h
    cases hentry : t.entries.get? peer.key with
    | none =>
      have hinsert : t.insert peer now =
          (⟨t.entries.put peer.key (newEntry peer now)⟩, true) := by rw [insert, hentry]
      rw [hinsert]
      refine text_ne_of_place peer.key ?_ fun k hk => t.entries.get?_put_of_ne _ hk
      simp [hentry]
    | some entry =>
      rw [insert, hentry] at h
      dsimp only at h
      split at h
      · cases h
      · rename_i hmoved
        have hinsert : t.insert peer now = (⟨t.entries.put peer.key
            { entry with address := peer.address, port := peer.port, lastChanged := now }⟩,
            true) := by
          rw [insert, hentry]
          exact if_neg hmoved
        rw [hinsert]
        refine text_ne_of_place peer.key ?_ fun k hk => t.entries.get?_put_of_ne _ hk
        simpa [hentry, PeerEntry.place] using hmoved
  · intro hne
    cases h : (t.insert peer now).2 with
    | true => rfl
    | false => exact absurd (by rw [insert_of_unchanged h]) hne

/-- So does a removal. -/
theorem remove_changes_iff {key : PeerKey} :
    (t.remove key).2 = true ↔ Digest.text (t.remove key).1.all ≠ Digest.text t.all := by
  constructor
  · intro h
    rw [remove] at h ⊢
    split at h
    · rename_i hbound
      rw [if_pos hbound]
      refine text_ne_of_place key ?_ fun k hk => t.entries.get?_erase_of_ne hk
      obtain ⟨entry, hentry⟩ := Option.isSome_iff_exists.1 hbound
      simp [hentry]
    · cases h
  · intro hne
    cases h : (t.remove key).2 with
    | true => rfl
    | false => exact absurd (by rw [remove_of_unchanged h]) hne

/-- A reply says that something was changed exactly if the text that is hashed has changed. -/
theorem serve_changes_iff {table : PeerTable τ} {reply : ViewReply τ}
    (h : t.serve now request = (table, some reply)) :
    reply.changes = true ↔ Digest.text table.all ≠ Digest.text t.all := by
  cases request with
  | insert peer =>
    cases h
    exact insert_changes_iff
  | remove key =>
    cases h
    exact remove_changes_iff
  | all | one name =>
    cases h
    simp [ViewReply.changes]
  | shutdown => cases h

end PeerTable

/-! ## Runs -/

namespace ViewTask

variable {task task' : ViewTask τ} {asked : List (Nat × ViewRequest)} {moments : List τ}
  {seen out : List (ViewOutput τ)}

/-- What a move is. -/
inductive Moved (task : ViewTask τ) :
    ViewMove τ → ViewTask τ × List (ViewOutput τ) → Prop
  | put {asker : Nat} {request : ViewRequest} : task.view.closed = false →
      Moved task (.ask asker request)
        ({ task with
          view := { task.view with requests := task.view.requests ++ [(asker, request)] } }, [])
  | refused {asker : Nat} {request : ViewRequest} : task.view.closed = true →
      Moved task (.ask asker request) (task, ViewOutput.refused [(asker, request)])
  | served {asker : Nat} {request : ViewRequest} {requests : List (Nat × ViewRequest)} {now : τ}
      {table : PeerTable τ} {reply : ViewReply τ} : task.stage = .idle →
      task.view.requests = (asker, request) :: requests →
      task.view.table.serve now request = (table, some reply) →
      Moved task (.take now) (⟨{ task.view with table, requests },
        if reply.changes then .publishing asker reply else .replying asker reply⟩, [])
  | closed {asker : Nat} {requests : List (Nat × ViewRequest)} {now : τ} :
      task.stage = .idle → task.view.requests = (asker, .shutdown) :: requests →
      Moved task (.take now) (⟨{ task.view with requests := [], closed := true }, .idle⟩,
        ViewOutput.refused requests)
  | published {asker : Nat} {reply : ViewReply τ} : task.stage = .publishing asker reply →
      Moved task .publish (⟨task.view.setTable task.view.table true, .replying asker reply⟩,
        [.published (Digest.of task.view.table.all)])
  | replied {asker : Nat} {reply : ViewReply τ} : task.stage = .replying asker reply →
      Moved task .reply ({ task with stage := .idle }, [.answered asker reply])

theorem moved_of_move? {move : ViewMove τ} {after : ViewTask τ × List (ViewOutput τ)}
    (h : task.move? move = some after) : Moved task move after := by
  cases move with
  | ask asker request =>
    cases hclosed : task.view.closed with
    | true =>
      rw [move?, View.ask, if_pos hclosed] at h
      obtain rfl := Option.some.inj h
      exact .refused hclosed
    | false =>
      rw [move?, View.ask, if_neg (by rw [hclosed]; exact Bool.false_ne_true)] at h
      obtain rfl := Option.some.inj h
      exact .put hclosed
  | take now =>
    rw [move?_take, take?] at h
    split at h
    · rename_i asker request requests hstage hrequests
      split at h
      · rename_i table reply hserve
        obtain rfl := Option.some.inj h
        exact .served hstage hrequests hserve
      · rename_i table hserve
        obtain rfl := Option.some.inj h
        obtain rfl := PeerTable.serve_eq_none_iff.1 (congrArg Prod.snd hserve)
        exact .closed hstage hrequests
    · cases h
  | publish =>
    rw [move?] at h
    split at h
    · obtain rfl := Option.some.inj h
      exact .published ‹_›
    · cases h
  | reply =>
    rw [move?] at h
    split at h
    · obtain rfl := Option.some.inj h
      exact .replied ‹_›
    · cases h

theorem due_of_idle (h : task.stage = .idle) : task.due = [] := by
  rw [due, h]

theorem due_answer (view : View τ) (asker : Nat) (reply : ViewReply τ) :
    due ⟨view, if reply.changes then .publishing asker reply else .replying asker reply⟩ =
      view.table.answer asker reply := by
  rw [PeerTable.answer]
  cases reply.changes <;> rfl

/-- What was seen of a task is what is seen of the execution of the requests in the order in
    which they were put. -/
structure InSequence (task : ViewTask τ) (asked : List (Nat × ViewRequest)) (moments : List τ)
    (seen : List (ViewOutput τ)) : Prop where
  /-- While the view is open the requests that it has not taken wait. -/
  waiting : task.view.closed = false → ∃ served, asked = served ++ task.view.requests ∧
    served.length = moments.length ∧ (∀ p ∈ served, p.2 ≠ .shutdown) ∧
    PeerTable.execute {} served moments = (task.view.table, seen ++ task.due)
  /-- Once it is closed whatever is put is refused. -/
  refused : task.view.closed = true → task.stage = .idle ∧ task.view.requests = [] ∧
    ∀ more, PeerTable.execute {} (asked ++ more) moments =
      (task.view.table, seen ++ ViewOutput.refused more)
  /-- The digest is the one of the table but while it is about to be published. -/
  digest : (∀ asker reply, task.stage ≠ .publishing asker reply) →
    task.view.digest = Digest.of task.view.table.all
  publications : task.view.publications = seen.countP ViewOutput.isPublished

namespace InSequence

theorem start : InSequence ({} : ViewTask τ) [] [] [] where
  waiting _ := ⟨[], rfl, rfl, nofun, rfl⟩
  refused h := nomatch h
  digest _ := View.Published.start.digest
  publications := rfl

/-- A view that has something to do is open. -/
theorem isOpen (h : InSequence task asked moments seen)
    (hbusy : task.stage ≠ .idle ∨ task.view.requests ≠ []) : task.view.closed = false := by
  cases hclosed : task.view.closed with
  | false => rfl
  | true =>
    obtain ⟨hidle, hnone, -⟩ := h.refused hclosed
    exact (hbusy.elim (fun hstage => hstage hidle) fun hrequests => hrequests hnone).elim

theorem put (h : InSequence task asked moments seen) (hopen : task.view.closed = false)
    (p : Nat × ViewRequest) :
    InSequence { task with view := { task.view with requests := task.view.requests ++ [p] } }
      (asked ++ [p]) moments seen := by
  refine ⟨fun _ => ?_, fun hclosed => ?_, h.digest, h.publications⟩
  · obtain ⟨served, rfl, hserved⟩ := h.waiting hopen
    exact ⟨served, List.append_assoc .., hserved⟩
  · cases hopen.symm.trans hclosed

theorem refuse (h : InSequence task asked moments seen) (hclosed : task.view.closed = true)
    (p : Nat × ViewRequest) :
    InSequence task (asked ++ [p]) moments (seen ++ ViewOutput.refused [p]) := by
  obtain ⟨hidle, hnone, hexecute⟩ := h.refused hclosed
  refine ⟨fun hopen => ?_, fun _ => ⟨hidle, hnone, fun more => ?_⟩, h.digest, ?_⟩
  · cases hopen.symm.trans hclosed
  · rw [List.append_assoc, hexecute, List.append_assoc, ViewOutput.refused_append]
  · rw [h.publications, List.countP_append, ViewOutput.countP_refused, Nat.add_zero]

theorem serve (h : InSequence task asked moments seen) {asker : Nat} {request : ViewRequest}
    {requests : List (Nat × ViewRequest)} {now : τ} {table : PeerTable τ} {reply : ViewReply τ}
    (hstage : task.stage = .idle) (hrequests : task.view.requests = (asker, request) :: requests)
    (hserve : task.view.table.serve now request = (table, some reply)) :
    InSequence ⟨{ task.view with table, requests },
      if reply.changes then .publishing asker reply else .replying asker reply⟩
      asked (moments ++ [now]) seen := by
  have hopen := h.isOpen (.inr (by rw [hrequests]; exact List.cons_ne_nil _ _))
  obtain ⟨served, hasked, hlength, hserved, hexecute⟩ := h.waiting hopen
  refine ⟨fun _ => ⟨served ++ [(asker, request)], ?_, ?_, fun p hp => ?_, ?_⟩,
    fun hclosed => ?_, fun hstage' => ?_, h.publications⟩
  · rw [hasked, hrequests]
    simp
  · simp [hlength]
  · rcases List.mem_append.1 hp with hp | hp
    · exact hserved p hp
    · obtain rfl := List.mem_singleton.1 hp
      rintro rfl
      cases hserve
  · rw [PeerTable.execute_append hlength hserved, hexecute, PeerTable.execute_one hserve,
      due_of_idle hstage, List.append_nil, due_answer]
  · cases hopen.symm.trans hclosed
  · cases hchanges : reply.changes with
    | true =>
      rw [hchanges] at hstage'
      exact absurd rfl (hstage' asker reply)
    | false =>
      -- Nothing was changed, so the digest is still right.
      obtain rfl := PeerTable.serve_of_unchanged hserve hchanges
      exact h.digest fun asker reply he => nomatch hstage.symm.trans he

theorem close (h : InSequence task asked moments seen) {asker : Nat}
    {requests : List (Nat × ViewRequest)} (now : τ) (hstage : task.stage = .idle)
    (hrequests : task.view.requests = (asker, .shutdown) :: requests) :
    InSequence ⟨{ task.view with requests := [], closed := true }, .idle⟩ asked
      (moments ++ [now]) (seen ++ ViewOutput.refused requests) := by
  have hopen := h.isOpen (.inr (by rw [hrequests]; exact List.cons_ne_nil _ _))
  obtain ⟨served, hasked, hlength, hserved, hexecute⟩ := h.waiting hopen
  refine ⟨nofun, fun _ => ⟨rfl, rfl, fun more => ?_⟩, fun _ => ?_, ?_⟩
  · rw [hasked, hrequests, List.append_assoc, PeerTable.execute_append hlength hserved, hexecute,
      due_of_idle hstage, List.append_nil, List.append_assoc, ← ViewOutput.refused_append]
    rfl
  · exact h.digest fun asker reply he => nomatch hstage.symm.trans he
  · rw [h.publications, List.countP_append, ViewOutput.countP_refused, Nat.add_zero]

theorem publish (h : InSequence task asked moments seen) {asker : Nat} {reply : ViewReply τ}
    (hstage : task.stage = .publishing asker reply) :
    InSequence ⟨task.view.setTable task.view.table true, .replying asker reply⟩ asked moments
      (seen ++ [.published (Digest.of task.view.table.all)]) := by
  have hopen := h.isOpen (.inl (by rw [hstage]; nofun))
  obtain ⟨served, hasked, hlength, hserved, hexecute⟩ := h.waiting hopen
  refine ⟨fun _ => ⟨served, hasked, hlength, hserved, ?_⟩, fun hclosed => ?_, fun _ => rfl, ?_⟩
  · rw [hexecute, due, hstage, List.append_assoc]
    rfl
  · cases hopen.symm.trans hclosed
  · rw [List.countP_append, ← h.publications]
    rfl

theorem reply (h : InSequence task asked moments seen) {asker : Nat} {reply : ViewReply τ}
    (hstage : task.stage = .replying asker reply) :
    InSequence { task with stage := .idle } asked moments (seen ++ [.answered asker reply]) := by
  have hopen := h.isOpen (.inl (by rw [hstage]; nofun))
  obtain ⟨served, hasked, hlength, hserved, hexecute⟩ := h.waiting hopen
  refine ⟨fun _ => ⟨served, hasked, hlength, hserved, ?_⟩, fun hclosed => ?_, fun _ => ?_, ?_⟩
  · rw [hexecute, due, hstage, due_of_idle rfl, List.append_nil]
  · cases hopen.symm.trans hclosed
  · exact h.digest fun asker reply he => nomatch hstage.symm.trans he
  · rw [List.countP_append, ← h.publications]
    rfl

theorem move (h : InSequence task asked moments seen) {move : ViewMove τ}
    (hmoved : Moved task move (task', out)) :
    InSequence task' (asked ++ move.asked) (moments ++ move.moments) (seen ++ out) := by
  cases hmoved with
  | put hopen => simpa [ViewMove.asked, ViewMove.moments] using h.put hopen _
  | refused hclosed => simpa [ViewMove.asked, ViewMove.moments] using h.refuse hclosed _
  | served hstage hrequests hserve =>
    simpa [ViewMove.asked, ViewMove.moments] using h.serve hstage hrequests hserve
  | closed hstage hrequests =>
    simpa [ViewMove.asked, ViewMove.moments] using h.close _ hstage hrequests
  | published hstage => simpa [ViewMove.asked, ViewMove.moments] using h.publish hstage
  | replied hstage => simpa [ViewMove.asked, ViewMove.moments] using h.reply hstage

end InSequence

theorem Run.inSequence (h : Run {} task asked moments seen) :
    InSequence task asked moments seen := by
  induction h with
  | start => exact .start
  | step _ hmove ih => exact ih.move (moved_of_move? hmove)

/-- Whoever puts requests, and whatever comes in between: what was seen of a view, together with
    what is still due, is what is seen of the requests executed one after the other in the order
    in which they were put, and so is its table. Its digest is the one of its table, unless it is
    about to publish that: between two requests, and before it answers one. A digest is published
    for each insertion and each removal that is answered to have changed something, and for no
    other request; these are the ones that change the text that is hashed. -/
theorem Run.in_sequence (h : Run {} task asked moments seen) :
    PeerTable.execute {} asked moments = (task.view.table, seen ++ task.due) ∧
    ((∀ asker reply, task.stage ≠ .publishing asker reply) →
      task.view.digest = Digest.of task.view.table.all) ∧
    ViewOutput.Paired (seen ++ task.due) ∧
    task.view.publications = seen.countP ViewOutput.isPublished ∧
    ∀ (t table : PeerTable τ) now request reply, t.serve now request = (table, some reply) →
      (reply = .changed true ↔ Digest.text table.all ≠ Digest.text t.all) := by
  have hsequence := h.inSequence
  have hexecute : PeerTable.execute {} asked moments = (task.view.table, seen ++ task.due) := by
    cases hclosed : task.view.closed with
    | false =>
      obtain ⟨served, rfl, hlength, hserved, hexecute⟩ := hsequence.waiting hclosed
      rw [← List.append_nil moments, PeerTable.execute_append hlength hserved, hexecute,
        PeerTable.execute_nil, List.append_nil]
    | true =>
      obtain ⟨hidle, -, hexecute⟩ := hsequence.refused hclosed
      rw [← List.append_nil asked, hexecute, due_of_idle hidle]
      rfl
  refine ⟨hexecute, hsequence.digest, ?_, hsequence.publications,
    fun t table now request reply hserve => ?_⟩
  · have hpaired := PeerTable.paired_execute {} asked moments
    rw [hexecute] at hpaired
    exact hpaired
  · rw [← ViewReply.changes_iff, PeerTable.serve_changes_iff hserve]

/-- A peer is inserted, and once more before the digest is published; the view is shut down while
    a removal waits, and is asked once more after that. -/
theorem Run.in_sequence_shutdown :
    let nas : PeerKey := ⟨"eth0", .inet, "nas", "t", "local"⟩
    let peer : Peer := .located nas (.v4 ⟨10, 0, 0, 5⟩ 9000)
    let moves : List (ViewMove Nat) :=
      [.ask 0 (.insert peer), .take 1, .ask 1 (.insert peer), .publish, .ask 2 .shutdown,
        .ask 0 (.remove nas), .reply, .take 2, .reply, .take 3, .ask 1 (.one "nas")]
    ∃ task seen, moves? {} moves = some (task, seen) ∧
      seen.filterMap ViewOutput.answer? =
        [(0, .changed true), (1, .changed false), (0, .closed), (1, .closed)] ∧
      PeerTable.execute {} [(0, .insert peer), (1, .insert peer), (2, .shutdown),
        (0, .remove nas), (1, .one "nas")] [1, 2, 3] = (task.view.table, seen ++ task.due) ∧
      ViewOutput.Paired (seen ++ task.due) ∧
      task.view.publications = seen.countP ViewOutput.isPublished := by
  intro nas peer moves
  have hmoves : ∃ task seen, moves? {} moves = some (task, seen) ∧
      seen.filterMap ViewOutput.answer? =
        [(0, .changed true), (1, .changed false), (0, .closed), (1, .closed)] := by
    simp only [nas, peer, moves]
    exact ⟨_, _, rfl, rfl⟩
  obtain ⟨task, seen, hseen, hanswers⟩ := hmoves
  obtain ⟨hexecute, -, hpaired, hcount, -⟩ := (Run.start.moves hseen).in_sequence
  exact ⟨task, seen, hseen, hanswers, hexecute, hpaired, hcount⟩

end ViewTask

end ServiceDiscovery
