import ServiceDiscovery.Proofs.View.Table

/-!
# Requests and answers

A follower puts one request after the other to the view, among those of others. What it
asked waits in the view or was answered, that it changed something or that the view is
closed; and only the follower asks for changes (`Lined`). This stays so whatever is asked
(`Lined.put`), answered (`Lined.answer`, `Lined.close`) or taken (`Lined.hear`,
`Lined.others`).
-/

namespace ServiceDiscovery

/-- The requests that wait in a view, and the answers that were not taken: what a follower
    asked waits or was answered, and only a follower asks for changes. -/
structure Lined (follower : Option Follower) (nextAsker : Nat)
    (replies : Association Nat (ViewReply Nat)) (v : View Nat) : Prop where
  closed : v.closed = true → v.requests = []
  distinct : (v.requests.map Prod.fst).Nodup
  asked : ∀ asker ∈ v.requests.map Prod.fst, asker < nextAsker
  replied : ∀ asker, replies.get? asker ≠ none →
    asker < nextAsker ∧ asker ∉ v.requests.map Prod.fst
  writing : ∀ f, follower = some f → ∀ asker request, (asker, request) ∈ v.requests →
    (request.writes = true ↔ f.stage = .asking asker)
  awaited : ∀ f, follower = some f → ∀ asker, f.stage = .asking asker →
    (∃ request, (asker, request) ∈ v.requests) ∨ replies.get? asker = some (.changed true) ∨
      v.closed = true ∧ replies.get? asker = some .closed

namespace Lined

variable {follower follower' : Option Follower} {f f' : Follower} {nextAsker asker : Nat}
  {replies replies' : Association Nat (ViewReply Nat)} {v v' : View Nat} {request : ViewRequest}
  {rest : List (Nat × ViewRequest)}

theorem start (f : Follower) (hf : f.stage = .reading) (nextAsker : Nat) :
    Lined (some f) nextAsker .empty {} where
  closed _ := rfl
  distinct := .nil
  asked _ hm := absurd hm List.not_mem_nil
  replied _ hr := absurd rfl hr
  writing _ _ _ _ hm := absurd hm List.not_mem_nil
  awaited _ he _ hs := by
    obtain rfl := Option.some.inj he
    cases hf.symm.trans hs

/-- The number of a request that waits. -/
theorem mem_askers (h : (asker, request) ∈ v.requests) : asker ∈ v.requests.map Prod.fst :=
  List.mem_map.2 ⟨_, h, rfl⟩

/-- A number that a follower waits for was given out. -/
theorem lt_of_asking (h : Lined (some f) nextAsker replies v) (hf : f.stage = .asking asker) :
    asker < nextAsker := by
  rcases h.awaited f rfl asker hf with ⟨request, hm⟩ | hr | ⟨-, hr⟩
  · exact h.asked asker (mem_askers hm)
  · exact (h.replied asker (hr ▸ Option.some_ne_none _)).1
  · exact (h.replied asker (hr ▸ Option.some_ne_none _)).1

/-- A closed view refuses a request. -/
theorem refuse (h : Lined follower nextAsker replies v) :
    Lined follower (nextAsker + 1) replies v :=
  { h with
    asked := fun asker hm => Nat.lt_succ_of_lt (h.asked asker hm)
    replied := fun asker hr => (h.replied asker hr).imp_left Nat.lt_succ_of_lt }

/-- A request is put in line, under a new number. -/
theorem put (h : Lined follower nextAsker replies v) (hopen : v.closed = false)
    (hnew : ∀ f', follower' = some f' → (request.writes = true ↔ f'.stage = .asking nextAsker))
    (hold : ∀ f', follower' = some f' → ∃ f, follower = some f ∧
      ∀ asker, asker ≠ nextAsker → (f'.stage = .asking asker ↔ f.stage = .asking asker)) :
    Lined follower' (nextAsker + 1) replies
      { v with requests := v.requests ++ [(nextAsker, request)] } where
  closed hclosed := by cases hopen.symm.trans hclosed
  distinct := by
    dsimp only
    rw [List.map_append, List.map_singleton, List.nodup_append]
    refine ⟨h.distinct, List.nodup_singleton _, fun a ha b hb => ?_⟩
    obtain rfl := List.mem_singleton.1 hb
    exact Nat.ne_of_lt (h.asked a ha)
  asked asker hm := by
    dsimp only at hm
    rw [List.map_append, List.map_singleton] at hm
    rcases List.mem_append.1 hm with hm | hm
    · exact Nat.lt_succ_of_lt (h.asked asker hm)
    · obtain rfl := List.mem_singleton.1 hm
      exact Nat.lt_succ_self _
  replied asker hr := by
    obtain ⟨hlt, hnot⟩ := h.replied asker hr
    refine ⟨Nat.lt_succ_of_lt hlt, fun hm => ?_⟩
    dsimp only at hm
    rw [List.map_append, List.map_singleton] at hm
    rcases List.mem_append.1 hm with hm | hm
    · exact hnot hm
    · obtain rfl := List.mem_singleton.1 hm
      exact Nat.lt_irrefl _ hlt
  writing f' hf' asker r hm := by
    rcases List.mem_append.1 hm with hm | hm
    · obtain ⟨f, hf, hstage⟩ := hold f' hf'
      have hne : asker ≠ nextAsker := Nat.ne_of_lt (h.asked asker (mem_askers hm))
      rw [h.writing f hf asker r hm, hstage asker hne]
    · obtain ⟨rfl, rfl⟩ := Prod.mk.inj (List.mem_singleton.1 hm)
      exact hnew f' hf'
  awaited f' hf' asker hs := by
    by_cases hself : asker = nextAsker
    · subst hself
      exact .inl ⟨request, List.mem_append_right _ (List.mem_singleton_self _)⟩
    · obtain ⟨f, hf, hstage⟩ := hold f' hf'
      rcases h.awaited f hf asker ((hstage asker hself).1 hs) with ⟨r, hm⟩ | hr
      · exact .inl ⟨r, List.mem_append_left _ hm⟩
      · exact .inr hr

/-- Somebody else asks the view what it shows. -/
theorem ask (h : Lined follower nextAsker replies v) (hreads : request.writes = false) :
    Lined follower (nextAsker + 1) replies (v.ask nextAsker request).1 := by
  rw [View.ask]
  split
  · exact h.refuse
  · rename_i hopen
    refine h.put (eq_false_of_ne_true hopen) (fun f hf => ?_)
      fun f hf => ⟨f, hf, fun _ _ => Iff.rfl⟩
    subst hf
    rw [hreads]
    exact iff_of_false Bool.false_ne_true fun hs => Nat.lt_irrefl _ (h.lt_of_asking hs)

/-- The follower asks for a change. -/
theorem tell (h : Lined (some f) nextAsker replies v) (hopen : v.closed = false)
    (hidle : ∀ asker, f.stage ≠ .asking asker) (hwrites : request.writes = true) :
    Lined (some { f with stage := .asking nextAsker }) (nextAsker + 1) replies
      { v with requests := v.requests ++ [(nextAsker, request)] } := by
  refine h.put hopen (fun f' hf => ?_) fun f' hf => ?_
  · obtain rfl := Option.some.inj hf
    exact iff_of_true hwrites rfl
  · obtain rfl := Option.some.inj hf
    refine ⟨f, rfl, fun asker hne => iff_of_false (fun he => hne ?_) (hidle asker)⟩
    exact (FollowerStage.asking.inj he).symm

/-- The follower goes on without having asked. -/
theorem move (h : Lined (some f) nextAsker replies v)
    (hstage : ∀ asker, f'.stage = .asking asker ↔ f.stage = .asking asker) :
    Lined (some f') nextAsker replies v :=
  { h with
    writing := fun g hg asker r hm => by
      obtain rfl := Option.some.inj hg
      exact (h.writing f rfl asker r hm).trans (hstage asker).symm
    awaited := fun g hg asker hs => by
      obtain rfl := Option.some.inj hg
      exact h.awaited f rfl asker ((hstage asker).1 hs) }

/-- The follower takes the answer it waited for. -/
theorem hear (h : Lined (some f) nextAsker replies v) (hf : f.stage = .asking asker)
    (hreply : replies.get? asker ≠ none) :
    Lined (some { f with stage := .reading }) nextAsker (replies.erase asker) v where
  closed := h.closed
  distinct := h.distinct
  asked := h.asked
  replied n hr := by
    rw [Association.get?_erase] at hr
    split at hr
    · exact absurd rfl hr
    · exact h.replied n hr
  writing g hg n r hm := by
    obtain rfl := Option.some.inj hg
    -- What waits is not what was answered, hence it is not the follower's.
    refine iff_of_false (fun hw => ?_) fun hs => by cases hs
    have hn : FollowerStage.asking asker = .asking n :=
      hf.symm.trans ((h.writing f rfl n r hm).1 hw)
    obtain rfl := FollowerStage.asking.inj hn
    exact (h.replied asker hreply).2 (mem_askers hm)
  awaited g hg n hs := by
    obtain rfl := Option.some.inj hg
    cases hs

/-- There is no follower any more. -/
theorem giveUp (h : Lined follower nextAsker replies v) : Lined none nextAsker replies v :=
  { h with
    writing := fun _ hf => by cases hf
    awaited := fun _ hf => by cases hf }

/-- Others take their answers. -/
theorem others (h : Lined follower nextAsker replies v)
    (hreplies : ∀ asker, replies'.get? asker ≠ none → replies.get? asker ≠ none)
    (hown : ∀ f, follower = some f → ∀ asker, f.stage = .asking asker →
      replies'.get? asker = replies.get? asker) :
    Lined follower nextAsker replies' v :=
  { h with
    replied := fun asker hr => h.replied asker (hreplies asker hr)
    awaited := fun f hf asker hs => by
      rw [hown f hf asker hs]
      exact h.awaited f hf asker hs }

/-- A view that stays open answers its first request. -/
theorem answer {reply : ViewReply Nat} (h : Lined follower nextAsker replies v)
    (hopen : v.closed = false) (hrequests : v.requests = (asker, request) :: rest)
    (hrest : v'.requests = rest) (hopen' : v'.closed = false)
    (hreply : request.writes = true → reply = .changed true) :
    Lined follower nextAsker (replies.put asker reply) v' := by
  have hdistinct := h.distinct
  rw [hrequests, List.map_cons, List.nodup_cons] at hdistinct
  have hfirst : (asker, request) ∈ v.requests := hrequests ▸ List.mem_cons_self
  have hmem {p : Nat × ViewRequest} (hm : p ∈ v'.requests) : p ∈ v.requests := by
    rw [hrest] at hm
    exact hrequests ▸ List.mem_cons_of_mem _ hm
  have hasker {n : Nat} (hm : n ∈ v'.requests.map Prod.fst) : n ∈ v.requests.map Prod.fst := by
    obtain ⟨p, hp, rfl⟩ := List.mem_map.1 hm
    exact mem_askers (hmem hp)
  refine
    { closed := fun hc => by cases hopen'.symm.trans hc
      distinct := hrest ▸ hdistinct.2
      asked := fun n hm => h.asked n (hasker hm)
      replied := fun n hr => ?_
      writing := fun f hf n r hm => h.writing f hf n r (hmem hm)
      awaited := fun f hf n hs => ?_ }
  · by_cases hn : n = asker
    · subst hn
      exact ⟨h.asked n (mem_askers hfirst), hrest ▸ hdistinct.1⟩
    · rw [Association.get?_put_of_ne _ _ hn] at hr
      exact (h.replied n hr).imp_right fun hnot hm => hnot (hasker hm)
  · rcases h.awaited f hf n hs with ⟨r, hm⟩ | hr | ⟨hc, -⟩
    · rcases List.mem_cons.1 (hrequests ▸ hm) with he | hm'
      · obtain ⟨rfl, rfl⟩ := Prod.mk.inj he
        refine .inr (.inl ?_)
        rw [Association.get?_put_self, hreply ((h.writing f hf n r hm).2 hs)]
      · exact .inl ⟨r, hrest ▸ hm'⟩
    · have hne : n ≠ asker := by
        rintro rfl
        exact (h.replied n (hr ▸ Option.some_ne_none _)).2 (mem_askers hfirst)
      exact .inr (.inl ((Association.get?_put_of_ne _ _ hne).trans hr))
    · cases hopen.symm.trans hc

/-- What is answered to those behind an order to shut down. -/
theorem get?_refused (rest : List (Nat × ViewRequest)) (asker : Nat) :
    ((View.refusals rest).foldl (fun m (a, reply) => m.put a reply) replies).get? asker =
      if asker ∈ (rest.filter (·.2.awaited)).map Prod.fst then some .closed
      else replies.get? asker := by
  rw [View.refusals]
  induction rest.filter (·.2.awaited) generalizing replies with
  | nil => rfl
  | cons p rest ih =>
    rw [List.map_cons, List.foldl_cons, ih, List.map_cons, Association.get?_put]
    by_cases hrest : asker ∈ rest.map Prod.fst
    · rw [if_pos hrest, if_pos (List.mem_cons_of_mem _ hrest)]
    · simp [hrest]

/-- The view closes: those that still waited are told so. -/
theorem close (h : Lined follower nextAsker replies v) (hopen : v.closed = false)
    (hrequests : v.requests = (asker, .shutdown) :: rest) :
    Lined follower nextAsker
      ((View.refusals rest).foldl (fun m (a, reply) => m.put a reply) replies)
      { v with requests := [], closed := true } := by
  have hrest {n : Nat} (hm : n ∈ (rest.filter (·.2.awaited)).map Prod.fst) :
      n ∈ v.requests.map Prod.fst := by
    rw [hrequests, List.map_cons]
    exact List.mem_cons_of_mem _ ((List.filter_sublist.map _).subset hm)
  refine
    { closed := fun _ => rfl
      distinct := .nil
      asked := fun _ hm => absurd hm List.not_mem_nil
      replied := fun n hr => ?_
      writing := fun _ _ _ _ hm => absurd hm List.not_mem_nil
      awaited := fun f hf n hs => ?_ }
  · refine ⟨?_, List.not_mem_nil⟩
    rw [get?_refused] at hr
    split at hr
    · rename_i hm
      exact h.asked n (hrest hm)
    · exact (h.replied n hr).1
  · rw [get?_refused]
    rcases h.awaited f hf n hs with ⟨r, hm⟩ | hr | ⟨hc, -⟩
    · rcases List.mem_cons.1 (hrequests ▸ hm) with he | hm'
      · obtain ⟨rfl, rfl⟩ := Prod.mk.inj he
        cases (h.writing f hf n _ hm).2 hs
      · have hawaited := ViewRequest.awaited_of_writes ((h.writing f hf n r hm).2 hs)
        exact .inr (.inr ⟨rfl, if_pos (List.mem_map.2
          ⟨_, List.mem_filter.2 ⟨hm', hawaited⟩, rfl⟩)⟩)
    · have hnot : n ∉ (rest.filter (·.2.awaited)).map Prod.fst := fun hm =>
        (h.replied n (hr ▸ Option.some_ne_none _)).2 (hrest hm)
      rw [if_neg hnot]
      exact .inr (.inl hr)
    · cases hopen.symm.trans hc

end Lined

end ServiceDiscovery
