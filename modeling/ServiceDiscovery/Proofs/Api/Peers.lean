import Mathlib.Data.List.TakeWhile
import ServiceDiscovery.Daemon.Run
import ServiceDiscovery.Proofs.Text.Percent
import ServiceDiscovery.Proofs.View.Sequence

/-!
# Asking for a peer by its name

Whoever asks the API for a peer writes its instance name into the path, percent-encoded. The
name is put to the view, which works off what it was asked before, while others may ask it
behind (`View.Waits`); its answer makes the response (`Api.Responds`).

A response is right (`Response.Finds`) if it shows an entry of that name while a peer has it,
and says that there is none otherwise. Main statement: for every name and every spelling of
it, whatever the view has become and whoever else asks, the response is right unless the view
was shut down before or the segment reads `hash`, which is the path of the digest
(`Api.Responds.finds_iff`).
-/

namespace ServiceDiscovery

variable {τ : Type u}

/-! ## Paths -/

theorem splitAtChar_of_not_mem {separator : Char} {cs : List Char} (h : separator ∉ cs) :
    splitAtChar separator cs = [cs] := by
  induction cs with
  | nil => rfl
  | cons c cs ih =>
    rw [List.mem_cons, not_or] at h
    rw [splitAtChar, ih h.2]
    exact if_neg (Ne.symm h.1)

theorem splitAtChar_append {separator : Char} {cs : List Char} (h : separator ∉ cs)
    (rest : List Char) :
    splitAtChar separator (cs ++ separator :: rest) = cs :: splitAtChar separator rest := by
  have hsplit : ∃ part parts, splitAtChar separator rest = part :: parts := by
    cases rest with
    | nil => exact ⟨[], [], rfl⟩
    | cons c rest =>
      rw [splitAtChar]
      split
      · exact ⟨_, _, rfl⟩
      · split <;> exact ⟨_, _, rfl⟩
  obtain ⟨part, parts, hrest⟩ := hsplit
  induction cs with
  | nil => rw [List.nil_append, splitAtChar, hrest]; exact if_pos rfl
  | cons c cs ih =>
    rw [List.mem_cons, not_or] at h
    rw [List.cons_append, splitAtChar, ih h.2]
    exact if_neg (Ne.symm h.1)

theorem Target.path?_of_slash {target : String} {rest : List Char}
    (h : target.toList = '/' :: rest) :
    path? target = (pathOf? target.toList).map String.ofList := by
  rw [path?, h]
  rfl

namespace Percent.Spells

variable {segment name : String}

/-- What stands in a spelling. -/
theorem chars (h : Spells segment name) :
    ∀ c ∈ segment.toList, c ∉ ['/', '?', '#'] ∧ Target.isPathChar c = true := by
  intro c hc
  rcases Gives.chars h c hc with rfl | hc
  · decide
  · obtain ⟨-, hspecial, hpath⟩ := of_isSegmentChar hc
    exact ⟨fun hmem => hspecial (List.mem_cons_of_mem _ hmem), hpath⟩

theorem isEmpty_eq_false (h : Spells segment name) (hname : name ≠ "") :
    segment.isEmpty = false := by
  cases hempty : segment.isEmpty with
  | false => rfl
  | true =>
    obtain rfl : segment = "" := String.isEmpty_iff.1 hempty
    have hdecode := h.decode
    rw [show Percent.decode "" = some "" by decide +kernel] at hdecode
    exact absurd (Option.some.inj hdecode).symm hname

/-- The path to a peer is a request target. -/
theorem path? (h : Spells segment name) :
    Target.path? ("/v1/peers/" ++ segment) = some ("/v1/peers/" ++ segment) := by
  have hchars : ∀ c ∈ ("/v1/peers/" ++ segment).toList,
      (c != '?' && c != '#') = true ∧ Target.isPathChar c = true := by
    intro c hc
    rw [String.toList_append, List.mem_append] at hc
    rcases hc with hc | hc
    · have hfixed : "/v1/peers/".toList.all (fun c =>
          (c != '?' && c != '#') && Target.isPathChar c) = true := by
        decide +kernel
      exact Bool.and_eq_true_iff.1 (List.all_eq_true.1 hfixed c hc)
    · obtain ⟨hspecial, hpath⟩ := h.chars c hc
      simp only [List.mem_cons, not_or] at hspecial
      exact ⟨by simp [hspecial.2.1, hspecial.2.2.1], hpath⟩
  have htake : ("/v1/peers/" ++ segment).toList.takeWhile (fun c => c != '?' && c != '#') =
      ("/v1/peers/" ++ segment).toList :=
    List.takeWhile_eq_self_iff.2 fun c hc => (hchars c hc).1
  have hpathOf : Target.pathOf? ("/v1/peers/" ++ segment).toList =
      some ("/v1/peers/" ++ segment).toList := by
    have hall := List.all_eq_true.2 fun c hc => (hchars c hc).2
    simp only [Target.pathOf?, htake, List.drop_length, List.head?_nil, reduceCtorEq, if_false,
      List.all_nil, Bool.and_true, hall, if_true]
  have hstart : ∃ rest, ("/v1/peers/" ++ segment).toList = '/' :: rest := by
    rw [String.toList_append]
    exact ⟨_, rfl⟩
  obtain ⟨rest, hrest⟩ := hstart
  rw [Target.path?_of_slash hrest, hpathOf, Option.map_some, String.ofList_toList]

theorem ofPath? (h : Spells segment name) (hname : name ≠ "") :
    Api.Resource.ofPath? ("/v1/peers/" ++ segment) =
      some (if segment = "hash" then .digest else .peer segment) := by
  have hslash : '/' ∉ segment.toList := fun hmem => (h.chars '/' hmem).1 List.mem_cons_self
  have hparts : splitAtChar '/' ("/v1/peers/" ++ segment).toList =
      [[], ['v', '1'], ['p', 'e', 'e', 'r', 's'], segment.toList] := by
    have hpath : ("/v1/peers/" ++ segment).toList =
        [] ++ '/' :: (['v', '1'] ++ '/' ::
          (['p', 'e', 'e', 'r', 's'] ++ '/' :: segment.toList)) := by
      rw [String.toList_append]
      rfl
    rw [hpath, splitAtChar_append (by decide), splitAtChar_append (by decide),
      splitAtChar_append (by decide), splitAtChar_of_not_mem hslash]
  have hempty := h.isEmpty_eq_false hname
  simp only [Api.Resource.ofPath?, hparts, List.map_cons, List.map_nil, String.ofList_toList,
    hempty]
  by_cases hhash : segment = "hash" <;> simp [hhash]

/-- What is to be done when a peer is asked for. -/
theorem action (h : Spells segment name) (hname : name ≠ "") :
    Api.Action.of .get ("/v1/peers/" ++ segment) =
      if segment = "hash" then .digest else .peer name := by
  rw [Api.Action.of, h.ofPath? hname]
  by_cases hhash : segment = "hash"
  · simp [hhash]
  · simp [hhash, h.decode]

end Percent.Spells

/-! ## Waiting in line -/

namespace View

variable {v w : View τ} {asker n : Nat} {request : ViewRequest}

/-- What comes of a view, with the number of its steps, until it answers somebody. -/
inductive Waits (asker : Nat) (v : View τ) : Nat → View τ → Prop
  | start : Waits asker v 0 v
  | ask {n : Nat} {w : View τ} (other : Nat) (request : ViewRequest) : Waits asker v n w →
      Waits asker v n (w.ask other request).1
  | step {n : Nat} {w w' : View τ} {now : τ} {answers : List (Nat × ViewReply τ)} :
      Waits asker v n w → w.step? now = some (w', answers) →
      (∀ reply, (asker, reply) ∉ answers) → Waits asker v (n + 1) w'

theorem ask_of_open (hopen : v.closed = false) (asker : Nat) (request : ViewRequest) :
    (v.ask asker request).1 = { v with requests := v.requests ++ [(asker, request)] } := by
  rw [ask, hopen]
  rfl

/-- A request that is served is answered alone. -/
theorem step?_serve {rest : List (Nat × ViewRequest)} {table : PeerTable τ} {reply : ViewReply τ}
    {now : τ} (hopen : v.closed = false) (hrequests : v.requests = (asker, request) :: rest)
    (hserve : v.table.serve now request = (table, some reply)) :
    v.step? now =
      some ({ v with requests := rest }.setTable table reply.changes, [(asker, reply)]) := by
  have hstill : ({ v with requests := rest }.setTable table reply.changes).closed = false :=
    (closed_setTable ..).trans hopen
  rw [step?, hrequests]
  dsimp only
  rw [handle_eq, hserve]
  dsimp only
  rw [hstill, if_neg Bool.false_ne_true]
  rfl

theorem step?_shutdown {rest : List (Nat × ViewRequest)}
    (hrequests : v.requests = (asker, .shutdown) :: rest) (now : τ) :
    v.step? now =
      some ({ v with requests := [], closed := true }, refusals rest) := by
  rw [step?, hrequests]
  rfl

/-- A view that has all but the first of its former requests to work off before the one of
    somebody. -/
structure InLine (v : View τ) (asker : Nat) (request : ViewRequest) (n : Nat) (w : View τ) :
    Prop where
  isOpen : w.closed = false
  line : ∃ behind, w.requests = v.requests.drop n ++ (asker, request) :: behind
  bound : n ≤ v.requests.length
  served : ∀ p ∈ v.requests.take n, p.2 ≠ .shutdown

/-- What the next step of a view is to somebody in line. -/
inductive Called (v : View τ) (asker : Nat) (request : ViewRequest) (n : Nat) (w : View τ)
    (now : τ) : View τ × List (Nat × ViewReply τ) → Prop
  | other {p : Nat × ViewRequest} {w' : View τ} {reply : ViewReply τ} : p ∈ v.requests →
      InLine v asker request (n + 1) w' → Called v asker request n w now (w', [(p.1, reply)])
  | closed {p : Nat × ViewRequest} {w' : View τ} {answers : List (Nat × ViewReply τ)} :
      p ∈ v.requests → p.2 = .shutdown → (asker, .closed) ∈ answers →
      (∀ q ∈ answers, q.2 = .closed) → Called v asker request n w now (w', answers)
  | own {w' : View τ} {reply : ViewReply τ} : n = v.requests.length →
      (∀ p ∈ v.requests, p.2 ≠ .shutdown) → (w.table.serve now request).2 = some reply →
      Called v asker request n w now (w', [(asker, reply)])

/-- A view with somebody in line can go on. -/
theorem InLine.called (h : InLine v asker request n w) (hrequest : request ≠ .shutdown)
    (now : τ) : ∃ after, w.step? now = some after ∧ Called v asker request n w now after := by
  obtain ⟨behind, hline⟩ := h.line
  have hreply {r : ViewRequest} (hr : r ≠ .shutdown) :
      ∃ table reply, w.table.serve now r = (table, some reply) := by
    obtain ⟨reply, hreply⟩ := Option.ne_none_iff_exists'.1 (mt PeerTable.serve_eq_none_iff.1 hr)
    exact ⟨_, reply, Prod.ext rfl hreply⟩
  rcases Nat.lt_or_ge n v.requests.length with hlt | hge
  · rw [List.drop_eq_getElem_cons hlt, List.cons_append] at hline
    have hmem := List.getElem_mem hlt
    by_cases hlast : v.requests[n].2 = .shutdown
    · have hhead : v.requests[n] = (v.requests[n].1, .shutdown) := Prod.ext rfl hlast
      rw [hhead] at hline
      refine ⟨_, step?_shutdown hline now, .closed hmem hlast ?_ fun q hq => ?_⟩
      · have hawaited := ViewRequest.awaited_iff.2 hrequest
        exact List.mem_map.2 ⟨(asker, request), List.mem_filter.2 ⟨by simp, hawaited⟩, rfl⟩
      · obtain ⟨p, -, rfl⟩ := List.mem_map.1 hq
        rfl
    · obtain ⟨table, reply, hserve⟩ := hreply hlast
      refine ⟨_, step?_serve h.isOpen hline hserve, .other hmem ⟨?_, ⟨behind, ?_⟩, hlt, ?_⟩⟩
      · exact (closed_setTable ..).trans h.isOpen
      · exact requests_setTable ..
      · rw [List.take_succ_eq_append_getElem hlt]
        intro p hp
        rcases List.mem_append.1 hp with hp | hp
        · exact h.served p hp
        · obtain rfl := List.mem_singleton.1 hp
          exact hlast
  · have hlength : n = v.requests.length := Nat.le_antisymm h.bound hge
    rw [List.drop_eq_nil_of_le hge, List.nil_append] at hline
    obtain ⟨table, reply, hserve⟩ := hreply hrequest
    refine ⟨_, step?_serve h.isOpen hline hserve, .own hlength ?_ (congrArg Prod.snd hserve)⟩
    simpa [hlength] using h.served

/-- Whoever waits is in line, and with every step the line is shorter by one. -/
theorem Waits.inLine (h : Waits asker (v.ask asker request).1 n w) (hopen : v.closed = false)
    (hrequest : request ≠ .shutdown) : InLine v asker request n w := by
  induction h with
  | start =>
    rw [ask_of_open hopen]
    exact ⟨hopen, ⟨[], rfl⟩, Nat.zero_le _, nofun⟩
  | ask other another _ ih =>
    obtain ⟨behind, hline⟩ := ih.line
    rw [ask_of_open ih.isOpen]
    exact ⟨ih.isOpen, ⟨behind ++ [(other, another)], by simp [hline]⟩, ih.bound, ih.served⟩
  | @step _ _ _ now _ _ hstep hnone ih =>
    obtain ⟨after, hafter, hcalled⟩ := ih.called hrequest now
    obtain rfl := Option.some.inj (hstep.symm.trans hafter)
    cases hcalled with
    | other _ hline => exact hline
    | closed _ _ hmem => exact absurd hmem (hnone _)
    | own => exact absurd (List.mem_singleton_self _) (hnone _)

theorem act?_step {w' : View τ} {now : τ} {answers : List (Nat × ViewReply τ)}
    (h : w.step? now = some (w', answers)) : w.act? (.step now) = some w' := by
  rw [act?, h, Option.map_some]

theorem act?_ask (v : View τ) (asker : Nat) (request : ViewRequest) :
    v.act? (.ask asker request) = some (v.ask asker request).1 := rfl

theorem Waits.published (h : Waits asker v n w) (hv : v.Published) : w.Published := by
  induction h with
  | start => exact hv
  | ask other request _ ih => exact ih.act (act?_ask _ other request)
  | step _ hstep _ ih => exact ih.act (act?_step hstep)

end View

/-! ## Responses -/

namespace Api

/-- The response shows an entry of the name, if a peer of the table has it, and says that there
    is none otherwise. -/
structure Response.Finds (r : Response τ) (name : String) (t : PeerTable τ) : Prop where
  present : ∀ key entry, t.entries.get? key = some entry → key.name = name →
    r.status = 200 ∧ r.sendsBody = true ∧ ∃ key entry, t.entries.get? key = some entry ∧
      key.name = name ∧ entry.instanceName = name ∧ r.body = .entry entry
  absent : (∀ key entry, t.entries.get? key = some entry → key.name ≠ name) → r.status = 404

/-- A response to what is to be done for a request, and the view as it is then. A view that is
    asked works off its earlier requests first, while others may put more. -/
inductive Responds (description : SelfDescription) (action : Action) (v : View τ) :
    View τ → Response τ → Prop
  | atOnce : action.viewRequest? = none →
      Responds description action v v (.of description v.digest .closed action)
  | refused {request : ViewRequest} : action.viewRequest? = some request → v.closed = true →
      Responds description action v v (.of description v.digest .closed action)
  | answered {request : ViewRequest} {asker n : Nat} {w w' : View τ} {now : τ}
      {answers : List (Nat × ViewReply τ)} {reply : ViewReply τ} :
      action.viewRequest? = some request → v.closed = false → (∀ p ∈ v.requests, p.1 ≠ asker) →
      View.Waits asker (v.ask asker request).1 n w → w.step? now = some (w', answers) →
      (asker, reply) ∈ answers →
      Responds description action v w (.of description w'.digest reply action)

/-- The look-up by name finds an entry of that name, if a key has it. -/
theorem finds_ofReply {t : PeerTable τ} (hnamed : t.Named) (name : String) :
    (Response.ofReply (.entry (t.byInstance? name))).Finds name t := by
  have hentry {entry : PeerEntry τ} (hfound : t.byInstance? name = some entry) :
      ∃ key, t.entries.get? key = some entry ∧ key.name = name ∧ entry.instanceName = name := by
    obtain ⟨key, hkey⟩ := Association.mem_values_iff.1 (List.mem_of_find?_eq_some hfound)
    have hname : entry.instanceName = name := by simpa using List.find?_some hfound
    exact ⟨key, hkey, (hnamed key entry hkey).1.symm.trans hname, hname⟩
  cases hfound : t.byInstance? name with
  | none =>
    refine ⟨fun key entry hkey hname => ?_, fun _ => rfl⟩
    have hdiffers := List.find?_eq_none.1 hfound entry (Association.mem_values_iff.2 ⟨key, hkey⟩)
    exact absurd (decide_eq_true ((hnamed key entry hkey).1.trans hname)) hdiffers
  | some entry =>
    obtain ⟨key, hkey, hname, hshown⟩ := hentry hfound
    exact ⟨fun _ _ _ _ => ⟨rfl, rfl, key, entry, hkey, hname, hshown, rfl⟩,
      fun hnone => absurd hname (hnone key entry hkey)⟩

theorem Response.Finds.status_eq {r : Response τ} {name : String} {t : PeerTable τ}
    (h : r.Finds name t) : r.status = 404 ∨ r.status = 200 ∧ ∃ entry, r.body = .entry entry := by
  by_cases hpresent : ∃ key entry, t.entries.get? key = some entry ∧ key.name = name
  · obtain ⟨key, entry, hkey, hname⟩ := hpresent
    obtain ⟨hstatus, -, _, shown, -, -, -, hbody⟩ := h.present key entry hkey hname
    exact .inr ⟨hstatus, shown, hbody⟩
  · exact .inl (h.absent fun key entry hkey hname => hpresent ⟨key, entry, hkey, hname⟩)

/-- What answers to the look-up of a name: the view, unless it was shut down before. -/
theorem Responds.finds_peer_iff {description : SelfDescription} {name : String} {v w : View τ}
    {response : Response τ} (h : Responds description (.peer name) v w response)
    (hv : v.Published) :
    response.Finds name w.table ↔
      v.closed = false ∧ ∀ p ∈ v.requests, p.2 ≠ .shutdown := by
  have hrefused : ¬ ({ status := 500 } : Response τ).Finds name w.table := fun hfinds => by
    rcases hfinds.status_eq with h | ⟨h, -⟩ <;> cases h
  cases h with
  | atOnce hnone => cases hnone
  | refused _ hclosed =>
    refine ⟨fun hfinds => absurd hfinds hrefused, fun ⟨hopen, _⟩ => ?_⟩
    cases hopen.symm.trans hclosed
  | @answered _ asker n w w' now answers reply hrequest hopen hfresh hwaits hstep hreply =>
    obtain rfl := Option.some.inj hrequest
    have hline := hwaits.inLine hopen nofun
    obtain ⟨after, hafter, hcalled⟩ := hline.called nofun now
    obtain rfl := Option.some.inj (hstep.symm.trans hafter)
    cases hcalled with
    | other hmem =>
      obtain ⟨rfl, -⟩ := Prod.mk.inj (List.mem_singleton.1 hreply)
      exact absurd rfl (hfresh _ hmem)
    | closed hmem hlast _ hall =>
      obtain rfl : reply = .closed := hall _ hreply
      exact ⟨fun hfinds => absurd hfinds hrefused, fun ⟨_, hnone⟩ => absurd hlast (hnone _ hmem)⟩
    | own _ hnone hserve =>
      obtain ⟨-, rfl⟩ := Prod.mk.inj (List.mem_singleton.1 hreply)
      obtain rfl := Option.some.inj hserve
      have hpublished := hwaits.published (hv.act (v.act?_ask asker (.one name)))
      exact ⟨fun _ => ⟨hopen, hnone⟩, fun _ => finds_ofReply hpublished.named name⟩

/-- The digest is no answer to a look-up. -/
theorem Responds.not_finds_digest {description : SelfDescription} {name : String} {v w : View τ}
    {response : Response τ} (h : Responds description .digest v w response) :
    ¬ response.Finds name w.table := by
  cases h with
  | atOnce =>
    intro hfinds
    rcases hfinds.status_eq with h | ⟨-, _, h⟩ <;> cases h
  | refused hrequest => cases hrequest
  | answered hrequest => cases hrequest

/-- Whatever a view has become, and whoever else asks it: if the name of a peer is asked for in
    any spelling, the view goes on until it has answered, after it has worked off what it was
    asked before, and the response is right if and only if the segment does not read `hash` and
    the view was not shut down before. The spelling that escapes no more than it has to reads
    `hash` for that name only. -/
theorem Responds.finds_iff {segment name : String} (hspells : Percent.Spells segment name)
    (hname : name ≠ "") {before : List (ViewAction τ)} {v : View τ}
    (hv : View.acts? {} before = some v) :
    Target.path? ("/v1/peers/" ++ segment) = some ("/v1/peers/" ++ segment) ∧
      (∀ description w response,
        Responds description (.of .get ("/v1/peers/" ++ segment)) v w response →
          (response.Finds name w.table ↔
            segment ≠ "hash" ∧ v.closed = false ∧ ∀ p ∈ v.requests, p.2 ≠ .shutdown)) ∧
      (∀ request asker n w, (Action.of .get ("/v1/peers/" ++ segment)).viewRequest? = some request →
        v.closed = false → View.Waits asker (v.ask asker request).1 n w →
          n ≤ v.requests.length ∧ ∀ now, ∃ w' answers, w.step? now = some (w', answers) ∧
            (n = v.requests.length → ∃ reply, (asker, reply) ∈ answers)) ∧
      Percent.Spells (Percent.encode name) name ∧
      (Percent.encode name = "hash" ↔ name = "hash") := by
  have hpublished : v.Published := View.Published.start.acts hv
  refine ⟨hspells.path?, fun description w response hresponds => ?_,
    fun request asker n w hrequest hopen hwaits => ?_, Percent.spells_encode name, ?_⟩
  · rw [hspells.action hname] at hresponds
    split at hresponds
    · rename_i hhash
      exact iff_of_false hresponds.not_finds_digest fun ⟨hnot, _⟩ => hnot hhash
    · rename_i hnot
      rw [hresponds.finds_peer_iff hpublished]
      exact ⟨fun h => ⟨hnot, h⟩, And.right⟩
  · have hlookup : request ≠ .shutdown := by
      rintro rfl
      rw [hspells.action hname] at hrequest
      split at hrequest <;> cases hrequest
    have hline := hwaits.inLine hopen hlookup
    refine ⟨hline.bound, fun now => ?_⟩
    obtain ⟨⟨w', answers⟩, hstep, hcalled⟩ := hline.called hlookup now
    refine ⟨w', answers, hstep, fun hlength => ?_⟩
    cases hcalled with
    | other _ hnext => exact absurd hnext.bound (by omega)
    | closed _ _ hmem => exact ⟨_, hmem⟩
    | own => exact ⟨_, List.mem_singleton_self _⟩
  · constructor
    · intro hhash
      have hdecode := (Percent.spells_encode name).decode
      rw [hhash, show Percent.decode "hash" = some "hash" by decide +kernel] at hdecode
      exact (Option.some.inj hdecode).symm
    · rintro rfl
      decide +kernel

/-- The name `hash` is asked for in another spelling, while its peer is about to be inserted. -/
theorem Responds.finds_iff_escaped :
    let peer : Peer := .located ⟨"eth0", .inet, "hash", "t", "local"⟩ (.v4 ⟨10, 0, 0, 5⟩ 9000)
    let description : SelfDescription :=
      { record := { instanceName := "nas", serviceType := "t", port := 9000 }, status := .active }
    ∃ (v w : View Nat) (response : Response Nat), View.acts? {} [.ask 0 (.insert peer)] = some v ∧
      Percent.Spells "%68ash" "hash" ∧
      Responds description (Action.of .get ("/v1/peers/" ++ "%68ash")) v w response ∧
      w.table.entries.get? peer.key ≠ none ∧ response.Finds "hash" w.table := by
  intro peer description
  have hspells : Percent.Spells "%68ash" "hash" := by
    have hsegment : "%68ash".toList = ['%', '6', '8', 'a', 's', 'h'] := rfl
    have hname : utf8 "hash" = [104, 97, 115, 104] := by decide +kernel
    rw [Percent.Spells, hsegment, hname]
    have hrest : Percent.Gives ['a', 's', 'h'] [97, 115, 104] :=
      .plain (by decide) (.plain (by decide) (.plain (by decide) .nil))
    exact .escaped (.inl (by decide)) (.inl (by decide)) hrest
  have hwaits : ∃ v w w' reply, View.acts? ({} : View Nat) [.ask 0 (.insert peer)] = some v ∧
      v.closed = false ∧ v.requests = [(0, .insert peer)] ∧
      View.Waits 1 (v.ask 1 (.one "hash")).1 1 w ∧ w.table.entries.get? peer.key ≠ none ∧
      w.step? 0 = some (w', [(1, reply)]) := by
    refine ⟨_, _, _, _, rfl, rfl, rfl,
      .step .start (rfl : View.step? _ 0 = some (_, _)) (by simp), ?_, rfl⟩
    exact Option.some_ne_none _
  obtain ⟨v, w, w', reply, hv, hopen, hrequests, hwaits, hthere, hstep⟩ := hwaits
  have haction : Action.of .get ("/v1/peers/" ++ "%68ash") = .peer "hash" := by
    rw [hspells.action (by decide)]
    decide
  have hresponds : Responds description (Action.of .get ("/v1/peers/" ++ "%68ash")) v w
      (.of description w'.digest reply (Action.of .get ("/v1/peers/" ++ "%68ash"))) :=
    .answered (by rw [haction]; rfl) hopen (by simp [hrequests]) hwaits hstep
      (List.mem_singleton_self _)
  obtain ⟨-, hfinds, -⟩ := finds_iff hspells (by decide) hv
  exact ⟨v, w, _, hv, hspells, hresponds, hthere,
    (hfinds description w _ hresponds).2 ⟨by decide, hopen, by simp [hrequests]⟩⟩

/-- A peer of the name `hash` is listed, and what is found under its name is the digest. -/
theorem Responds.finds_digest :
    let peer : Peer := .located ⟨"eth0", .inet, "hash", "t", "local"⟩ (.v4 ⟨10, 0, 0, 5⟩ 9000)
    ∃ v : View Nat, View.acts? {} [.ask 0 (.insert peer), .step 0] = some v ∧
      v.table.entries.get? peer.key ≠ none ∧ Percent.encode "hash" = "hash" ∧
      Target.path? ("/v1/peers/" ++ "hash") = some ("/v1/peers/" ++ "hash") ∧
      ∀ description w response,
        Responds description (Action.of .get ("/v1/peers/" ++ "hash")) v w response →
          response = { status := 200, body := .text v.digest } ∧
            ¬ response.Finds "hash" w.table := by
  intro peer
  refine ⟨_, rfl, Option.some_ne_none _, by decide +kernel, by decide +kernel,
    fun description w response hresponds => ?_⟩
  rw [show Action.of .get ("/v1/peers/" ++ "hash") = .digest by decide +kernel] at hresponds
  refine ⟨?_, hresponds.not_finds_digest⟩
  cases hresponds with
  | atOnce => rfl
  | refused hrequest => cases hrequest
  | answered hrequest => cases hrequest

end Api

/-- What a daemon that is asked by nobody else answers is a response of the API. -/
theorem Daemon.responds {d : Daemon} {target path : String}
    (hpath : Target.path? target = some path) (hidle : d.view.requests = []) :
    ∃ w, Api.Responds { record := d.record, status := d.world.announcer.status }
      (.of .get path) d.view w (d.respond .get target).2 := by
  rw [respond, hpath]
  dsimp only
  generalize Api.Action.of .get path = action
  cases hrequest : action.viewRequest? with
  | none => exact ⟨_, .atOnce hrequest⟩
  | some request =>
    have hlookup : request ≠ .shutdown := by
      rintro rfl
      cases action <;> cases hrequest
    cases hclosed : d.view.closed with
    | true =>
      have hstep : (d.view.ask 0 request).1.step? d.host.clock = none := by
        rw [View.ask, if_pos hclosed, View.step?, hidle]
      have hask : d.askView request = (d, .closed) := by
        rw [askView]
        dsimp only
        rw [hstep]
      simp only [hask]
      exact ⟨_, .refused hrequest hclosed⟩
    | false =>
      obtain ⟨⟨view, answers⟩, hstep, hcalled⟩ :=
        ((View.Waits.start : View.Waits 0 _ 0 _).inLine hclosed hlookup).called hlookup d.host.clock
      cases hcalled with
      | other hmem | closed hmem => rw [hidle] at hmem; cases hmem
      | @own _ reply =>
        have hask : d.askView request = ({ d with view }, reply) := by
          rw [askView]
          dsimp only
          rw [hstep]
        simp only [hask]
        exact ⟨_, .answered hrequest hclosed (by simp [hidle]) .start hstep
          (List.mem_singleton_self _)⟩

end ServiceDiscovery
