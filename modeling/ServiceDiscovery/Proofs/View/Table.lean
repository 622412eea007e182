import ServiceDiscovery.Proofs.Association
import ServiceDiscovery.View.Follower

/-!
# A table that copies events

A table *shows* live peers if it has an entry for each of their keys, except for those
that have the name of the node's own instance, and the entry says where the peer is
(`PeerTable.Shows`). An event that the peers accept either asks nothing of the view, and
then what is shown stays right (`Shows.skip`), or it asks for a change: the view then
makes that change, publishes a digest, answers that something changed, and shows the
peers after the event (`Shows.handle`).

`View.Worked` takes every step of an open view apart. A view *copies* events if it shows
what some of them, the first ones, add up to, and the requests of the others wait
(`View.Copies`): it goes on to do so when one more event is told to it, and when it works
one request off (`Copies.tell`, `Copies.work`).
-/

namespace ServiceDiscovery

/-- What an entry says of its peer, but for the times. -/
def PeerEntry.place {τ : Type u} (e : PeerEntry τ) : String × String × IpAddress × UInt16 :=
  (e.instanceName, e.serviceType, e.address, e.port)

/-- What an entry for a peer says. -/
def Peer.place (p : Peer) : String × String × IpAddress × UInt16 :=
  (p.key.name, p.key.serviceType, p.address, p.port)

/-- Events fold from where those before them end. -/
theorem LivePeers.ofEvents?_append {events more : List PeerEvent} {live : LivePeers}
    (h : ofEvents? events = some live) :
    ofEvents? (events ++ more) = more.foldlM after? live := by
  have hfirst : events.foldlM after? Association.empty = some live := h
  rw [ofEvents?, List.foldlM_append, hfirst]
  rfl

/-- Whether a request is to change the table. -/
def ViewRequest.writes : ViewRequest → Bool
  | insert _ | remove _ => true
  | all | one _ | shutdown => false

theorem ViewRequest.awaited_of_writes {request : ViewRequest} (h : request.writes = true) :
    request.awaited = true := by
  cases request with
  | insert | remove => rfl
  | all | one | shutdown => cases h

theorem ViewRequest.awaited_iff {request : ViewRequest} :
    request.awaited = true ↔ request ≠ .shutdown := by
  cases request <;> simp [awaited]

namespace Follower

variable {own : String} {event : PeerEvent} {request : ViewRequest}

theorem request?_own (h : event.key.name = own) : request? own event = none := by
  cases event <;> exact if_pos h

theorem request?_added {peer : Peer} (h : peer.key.name ≠ own) :
    request? own (.added peer) = some (.insert peer) := if_neg h

theorem request?_removed {key : PeerKey} (h : key.name ≠ own) :
    request? own (.removed key) = some (.remove key) := if_neg h

theorem request?_eq_none_iff : request? own event = none ↔ event.key.name = own := by
  refine ⟨fun h => ?_, request?_own⟩
  by_contra hname
  cases event with
  | added peer => cases (request?_added hname).symm.trans h
  | removed key => cases (request?_removed hname).symm.trans h

/-- What is asked for is a change of the table. -/
theorem writes_of_request? (h : request? own event = some request) : request.writes = true := by
  have hname : event.key.name ≠ own := fun he => by cases (request?_own he).symm.trans h
  cases event with
  | added peer =>
    obtain rfl := Option.some.inj ((request?_added hname).symm.trans h)
    rfl
  | removed key =>
    obtain rfl := Option.some.inj ((request?_removed hname).symm.trans h)
    rfl

end Follower

/-! ## What a table shows -/

namespace PeerTable

variable {τ : Type u} {own : String} {live live' : LivePeers} {table : PeerTable τ}
  {event : PeerEvent}

/-- The table lists the live peers, except for those that have the name of the node's own
    instance. -/
def Shows (own : String) (live : LivePeers) (table : PeerTable τ) : Prop :=
  ∀ key, (table.entries.get? key).map PeerEntry.place =
    if key.name = own then none else (live.get? key).map Peer.place

/-- Of a key with another name there is an entry if there is a live peer. -/
theorem Shows.contains (h : Shows own live table) {key : PeerKey} (hname : key.name ≠ own) :
    table.entries.contains key = live.contains key := by
  have hkey := congrArg Option.isSome (h key)
  rw [if_neg hname, Option.isSome_map, Option.isSome_map] at hkey
  exact hkey

/-- An event about the node's own instance changes nothing that is shown. -/
theorem Shows.skip (h : Shows own live table) (hevent : live.after? event = some live')
    (hown : event.key.name = own) : Shows own live' table := by
  intro key
  rw [h key]
  by_cases hname : key.name = own
  · rw [if_pos hname, if_pos hname]
  · have hne : key ≠ event.key := by
      rintro rfl
      exact hname hown
    rw [if_neg hname, if_neg hname]
    cases event with
    | added peer =>
      rw [LivePeers.after?] at hevent
      split at hevent
      · cases hevent
      · obtain rfl := Option.some.inj hevent
        exact congrArg _ (live.get?_put_of_ne peer hne).symm
    | removed k =>
      rw [LivePeers.after?] at hevent
      split at hevent
      · obtain rfl := Option.some.inj hevent
        exact congrArg _ (live.get?_erase_of_ne hne).symm
      · cases hevent

theorem Shows.skipAll {events : List PeerEvent} (h : Shows own live table)
    (hevents : events.foldlM LivePeers.after? live = some live')
    (hown : ∀ event ∈ events, event.key.name = own) : Shows own live' table := by
  induction events generalizing live with
  | nil =>
    obtain rfl := Option.some.inj hevents
    exact h
  | cons event events ih =>
    rw [List.foldlM_cons] at hevents
    obtain ⟨between, hevent, hrest⟩ := Option.bind_eq_some_iff.1 hevents
    exact ih (h.skip hevent (hown event List.mem_cons_self)) hrest
      fun e he => hown e (List.mem_cons_of_mem _ he)

/-- A peer is shown that was not live. -/
theorem Shows.put (h : Shows own live table) {peer : Peer} (hname : peer.key.name ≠ own)
    (now : τ) :
    Shows own (live.put peer.key peer) ⟨table.entries.put peer.key (newEntry peer now)⟩ := by
  intro key
  dsimp only
  rw [Association.get?_put, Association.get?_put]
  by_cases hkey : key = peer.key
  · rw [if_pos hkey, if_pos hkey, if_neg (hkey ▸ hname)]
    rfl
  · rw [if_neg hkey, if_neg hkey]
    exact h key

/-- A peer is shown no more. -/
theorem Shows.erase (h : Shows own live table) (k : PeerKey) :
    Shows own (live.erase k) ⟨table.entries.erase k⟩ := by
  intro key
  dsimp only
  rw [Association.get?_erase, Association.get?_erase]
  by_cases hkey : key = k
  · rw [if_pos hkey, if_pos hkey]
    split <;> rfl
  · rw [if_neg hkey, if_neg hkey]
    exact h key

end PeerTable

/-! ## The view at work -/

namespace View

variable {τ : Type u} {v : View τ} {now : τ}

/-- What an event asks of a view that shows the live peers is done: the view shows the peers
    after the event, publishes that, and answers that something changed. -/
theorem handle_of_shows {own : String} {live live' : LivePeers} {event : PeerEvent}
    {request : ViewRequest} (h : PeerTable.Shows own live v.table)
    (hevent : live.after? event = some live')
    (hrequest : Follower.request? own event = some request) (now : τ) :
    ∃ table, PeerTable.Shows own live' table ∧
      v.handle now request =
        ({ v with table, digest := Digest.of table.all, publications := v.publications + 1 },
          some (.changed true)) := by
  have hname : event.key.name ≠ own := fun he => by
    cases (Follower.request?_own he).symm.trans hrequest
  cases event with
  | added peer =>
    replace hname : peer.key.name ≠ own := hname
    obtain rfl := Option.some.inj ((Follower.request?_added hname).symm.trans hrequest)
    rw [LivePeers.after?] at hevent
    split at hevent
    · cases hevent
    · rename_i hfree
      obtain rfl := Option.some.inj hevent
      have hnone : v.table.entries.get? peer.key = none := by
        rw [← h.contains hname, Association.contains, Option.not_isSome_iff_eq_none] at hfree
        exact hfree
      refine ⟨_, h.put hname now, ?_⟩
      rw [handle, PeerTable.insert, hnone]
      rfl
  | removed k =>
    replace hname : k.name ≠ own := hname
    obtain rfl := Option.some.inj ((Follower.request?_removed hname).symm.trans hrequest)
    rw [LivePeers.after?] at hevent
    split at hevent
    · rename_i hbound
      obtain rfl := Option.some.inj hevent
      rw [← h.contains hname] at hbound
      refine ⟨_, h.erase k, ?_⟩
      rw [handle, PeerTable.remove, if_pos hbound]
      rfl
    · cases hevent

/-- What an open view does with the first of its requests. -/
inductive Worked (now : τ) (v : View τ) : View τ × List (Nat × ViewReply τ) → Prop
  | wrote {asker : Nat} {request : ViewRequest} {rest : List (Nat × ViewRequest)} {after : View τ}
      {changed : Bool} : v.requests = (asker, request) :: rest → request.writes = true →
      { v with requests := rest }.handle now request = (after, some (.changed changed)) →
      after.closed = false → after.requests = rest →
      Worked now v (after, [(asker, .changed changed)])
  | read {asker : Nat} {request : ViewRequest} {rest : List (Nat × ViewRequest)}
      {reply : ViewReply τ} : v.requests = (asker, request) :: rest → request.writes = false →
      Worked now v ({ v with requests := rest }, [(asker, reply)])
  | closed {asker : Nat} {rest : List (Nat × ViewRequest)} :
      v.requests = (asker, .shutdown) :: rest →
      Worked now v ({ v with requests := [], closed := true }, refusals rest)

theorem table_setTable (table : PeerTable τ) (changed : Bool) :
    (v.setTable table changed).table = table := by
  cases changed <;> rfl

theorem closed_setTable (table : PeerTable τ) (changed : Bool) :
    (v.setTable table changed).closed = v.closed := by
  cases changed <;> rfl

theorem requests_setTable (table : PeerTable τ) (changed : Bool) :
    (v.setTable table changed).requests = v.requests := by
  cases changed <;> rfl

/-- Every step of an open view is one of these. -/
theorem worked_of_step? {after : View τ × List (Nat × ViewReply τ)} (hopen : v.closed = false)
    (h : v.step? now = some after) : Worked now v after := by
  rw [step?] at h
  split at h
  · cases h
  · rename_i asker request rest hrequests
    cases request with
    | insert peer | remove key =>
      have hstays (table : PeerTable τ) (changed : Bool) :
          ({ v with requests := rest }.setTable table changed).closed = false :=
        (closed_setTable table changed).trans hopen
      dsimp only [handle] at h
      rw [hstays, if_neg Bool.false_ne_true] at h
      obtain rfl := Option.some.inj h
      exact .wrote hrequests rfl rfl (hstays _ _) (requests_setTable _ _)
    | all | one name =>
      dsimp only [handle] at h
      split at h
      · rename_i hclosed
        cases hopen.symm.trans hclosed
      · obtain rfl := Option.some.inj h
        exact .read hrequests rfl
    | shutdown =>
      obtain rfl := Option.some.inj h
      exact .closed hrequests

/-! ## Copying events -/

/-- A view that shows what the events worked off add up to, and in which the requests of
    those that were told wait. -/
structure Copies (own : String) (taken : List PeerEvent) (v : View τ) : Prop where
  /-- None of the events is refused. -/
  accepted : ∃ live, LivePeers.ofEvents? taken = some live
  copied : ∃ handled waiting live, taken = handled ++ waiting ∧
    LivePeers.ofEvents? handled = some live ∧ PeerTable.Shows own live v.table ∧
    v.publications = (handled.filter (·.key.name ≠ own)).length ∧
    (v.closed = false → waiting.filterMap (Follower.request? own) =
      (v.requests.map Prod.snd).filter ViewRequest.writes)
  digest : v.digest = Digest.of v.table.all

namespace Copies

variable {own : String} {taken : List PeerEvent}

/-- A view that was not asked for anything yet. -/
theorem start (own : String) : Copies own [] ({} : View τ) where
  accepted := ⟨_, rfl⟩
  copied := by
    refine ⟨[], [], .empty, rfl, rfl, fun key => ?_, rfl, fun _ => rfl⟩
    split <;> rfl
  digest := by
    have hall : ({} : PeerTable τ).all = [] := List.mergeSort_nil
    rw [hall]

/-- A request that changes nothing is put. -/
theorem ask {request : ViewRequest} (h : Copies own taken v) (asker : Nat)
    (hreads : request.writes = false) : Copies own taken (v.ask asker request).1 := by
  rw [View.ask]
  split
  · exact h
  · obtain ⟨handled, waiting, live, htaken, hlive, hshows, hcount, hwaiting⟩ := h.copied
    refine ⟨h.accepted, ⟨handled, waiting, live, htaken, hlive, hshows, hcount, fun hopen => ?_⟩,
      h.digest⟩
    rw [hwaiting hopen, List.map_append, List.filter_append]
    simp [hreads]

/-- An event is taken that asks nothing of the view. -/
theorem skip {event : PeerEvent} (h : Copies own taken v)
    (haccepted : ∃ live, LivePeers.ofEvents? (taken ++ [event]) = some live)
    (hown : event.key.name = own) : Copies own (taken ++ [event]) v := by
  obtain ⟨handled, waiting, live, rfl, hlive, hshows, hcount, hwaiting⟩ := h.copied
  refine ⟨haccepted, ⟨handled, waiting ++ [event], live, List.append_assoc .., hlive, hshows,
    hcount, fun hopen => ?_⟩, h.digest⟩
  rw [List.filterMap_append, hwaiting hopen]
  simp [Follower.request?_own hown]

/-- An event is taken, and what it asks for is put to the view. -/
theorem tell {event : PeerEvent} {request : ViewRequest} (h : Copies own taken v) (asker : Nat)
    (haccepted : ∃ live, LivePeers.ofEvents? (taken ++ [event]) = some live)
    (hrequest : Follower.request? own event = some request) :
    Copies own (taken ++ [event]) (v.ask asker request).1 := by
  obtain ⟨handled, waiting, live, rfl, hlive, hshows, hcount, hwaiting⟩ := h.copied
  rw [View.ask]
  split
  · rename_i hclosed
    exact ⟨haccepted, ⟨handled, waiting ++ [event], live, List.append_assoc .., hlive, hshows,
      hcount, fun hopen => by cases hopen.symm.trans hclosed⟩, h.digest⟩
  · refine ⟨haccepted, ⟨handled, waiting ++ [event], live, List.append_assoc .., hlive, hshows,
      hcount, fun hopen => ?_⟩, h.digest⟩
    rw [List.filterMap_append, hwaiting hopen, List.map_append, List.filter_append]
    simp [hrequest, Follower.writes_of_request? hrequest]

/-- A request that changes the table is worked off: it is one of an event that waits, so
    something changes. -/
theorem write {asker : Nat} {request : ViewRequest} {rest : List (Nat × ViewRequest)}
    (h : Copies own taken v) (hopen : v.closed = false)
    (hrequests : v.requests = (asker, request) :: rest) (hwrites : request.writes = true)
    (now : τ) :
    ∃ v', { v with requests := rest }.handle now request = (v', some (.changed true)) ∧
      Copies own taken v' := by
  obtain ⟨handled, waiting, live, rfl, hlive, hshows, hcount, hwaiting⟩ := h.copied
  have hfirst : waiting.filterMap (Follower.request? own) =
      request :: (rest.map Prod.snd).filter ViewRequest.writes := by
    rw [hwaiting hopen, hrequests, List.map_cons, List.filter_cons_of_pos hwrites]
  obtain ⟨skipped, event, waiting, rfl, hskipped, hrequest, hrest⟩ :=
    List.filterMap_eq_cons_iff.1 hfirst
  have hown : ∀ e ∈ skipped, e.key.name = own := fun e he =>
    Follower.request?_eq_none_iff.1 (hskipped e he)
  have hname : event.key.name ≠ own := fun he => by
    cases (Follower.request?_own he).symm.trans hrequest
  -- The events before it were accepted, hence it finds the table as it has to be.
  obtain ⟨last, hlast⟩ := h.accepted
  rw [LivePeers.ofEvents?_append hlive, List.foldlM_append] at hlast
  obtain ⟨between, hbetween, hlast⟩ := Option.bind_eq_some_iff.1 hlast
  rw [List.foldlM_cons] at hlast
  obtain ⟨after, hevent, -⟩ := Option.bind_eq_some_iff.1 hlast
  obtain ⟨table, htable, hhandle⟩ := handle_of_shows (v := { v with requests := rest })
    (hshows.skipAll hbetween hown) hevent hrequest now
  refine ⟨_, hhandle, h.accepted, ⟨handled ++ (skipped ++ [event]), waiting, after, ?_, ?_, htable,
    ?_, fun _ => hrest⟩, rfl⟩
  · simp
  · rw [LivePeers.ofEvents?_append hlive, List.foldlM_append, hbetween]
    change [event].foldlM LivePeers.after? between = some after
    rw [List.foldlM_cons, hevent]
    rfl
  · have hnone : skipped.filter (·.key.name ≠ own) = [] :=
      List.filter_eq_nil_iff.2 fun e he => by simp [hown e he]
    dsimp only
    rw [hcount, List.filter_append, List.filter_append, hnone]
    simp [hname]

/-- A request that changes nothing is worked off. -/
theorem read {asker : Nat} {request : ViewRequest} {rest : List (Nat × ViewRequest)}
    (h : Copies own taken v) (hrequests : v.requests = (asker, request) :: rest)
    (hreads : request.writes = false) : Copies own taken { v with requests := rest } := by
  obtain ⟨handled, waiting, live, htaken, hlive, hshows, hcount, hwaiting⟩ := h.copied
  refine ⟨h.accepted, ⟨handled, waiting, live, htaken, hlive, hshows, hcount, fun hopen => ?_⟩,
    h.digest⟩
  rw [hwaiting hopen, hrequests, List.map_cons, List.filter_cons_of_neg (by rw [hreads]; decide)]

/-- A view that closes shows what it showed last. -/
theorem close (h : Copies own taken v) :
    Copies own taken { v with requests := [], closed := true } := by
  obtain ⟨handled, waiting, live, htaken, hlive, hshows, hcount, -⟩ := h.copied
  exact ⟨h.accepted, ⟨handled, waiting, live, htaken, hlive, hshows, hcount, nofun⟩, h.digest⟩

/-- Once no change waits, an open view shows what all the events add up to. -/
theorem shows (h : Copies own taken v) (hopen : v.closed = false)
    (hdone : ∀ p ∈ v.requests, p.2.writes = false) :
    (∃ live, LivePeers.ofEvents? taken = some live ∧ PeerTable.Shows own live v.table) ∧
      v.publications = (taken.filter (·.key.name ≠ own)).length := by
  obtain ⟨handled, waiting, live, rfl, hlive, hshows, hcount, hwaiting⟩ := h.copied
  have hnone : (v.requests.map Prod.snd).filter ViewRequest.writes = [] := by
    refine List.filter_eq_nil_iff.2 fun request hr => ?_
    obtain ⟨p, hp, rfl⟩ := List.mem_map.1 hr
    rw [hdone p hp]
    exact Bool.false_ne_true
  have hown : ∀ e ∈ waiting, e.key.name = own := fun e he =>
    Follower.request?_eq_none_iff.1
      (List.filterMap_eq_nil_iff.1 ((hwaiting hopen).trans hnone) e he)
  obtain ⟨last, hlast⟩ := h.accepted
  have hrest : waiting.foldlM LivePeers.after? live = some last :=
    (LivePeers.ofEvents?_append hlive).symm.trans hlast
  refine ⟨⟨last, hlast, hshows.skipAll hrest hown⟩, ?_⟩
  have hskipped : waiting.filter (·.key.name ≠ own) = [] :=
    List.filter_eq_nil_iff.2 fun e he => by simp [hown e he]
  rw [hcount, List.filter_append, hskipped, List.append_nil]

end Copies

end View

end ServiceDiscovery
