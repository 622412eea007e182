import ServiceDiscovery.Proofs.Subscription.Attempts
import ServiceDiscovery.Proofs.Subscription.LivePeers

/-!
# Refreshing a live peer

A live key that appears again is resolved again, and the result is compared with the peer in
its slot. That peer was found at the endpoint that the last turn to announce anything of the
key was told (`Turn.origin?`, `Logged.peer_origin`), but only the address and the port of the
endpoint are kept.

Main statement: a refresh that fails changes nothing, and one that finds the peer at another
address or port announces it as removed and added; one that finds it where it was announces
nothing if the endpoint is plain, and announces the same peer as removed and added if it has
a flow label or a scope. In each case the key is resolved once more as it next appears
(`Logged.refreshed`).
-/

namespace ServiceDiscovery

/-! ## Endpoints and slots -/

/-- An endpoint without flow label and scope, hence one that its address and port determine. -/
def Endpoint.Plain (endpoint : Endpoint) : Prop := endpoint = .of endpoint.ip endpoint.port

instance (endpoint : Endpoint) : Decidable endpoint.Plain :=
  inferInstanceAs (Decidable (endpoint = .of endpoint.ip endpoint.port))

theorem Endpoint.eq_of_iff {endpoint : Endpoint} {ip : IpAddress} {port : UInt16} :
    endpoint = .of ip port ↔ (endpoint.ip = ip ∧ endpoint.port = port) ∧ endpoint.Plain := by
  constructor
  · rintro rfl
    rw [Plain, ip_of, port_of]
    exact ⟨⟨rfl, rfl⟩, rfl⟩
  · rintro ⟨⟨rfl, rfl⟩, hplain⟩
    exact hplain

namespace Slot

variable {key : PeerKey} {ticket : Nat} {peer : Peer} {found endpoint : Endpoint}

/-- A refresh that fails keeps the peer. -/
theorem resolve_refresh_none :
    resolve key ticket none (some (.live peer (some ticket))) = some (.live peer none) := by
  rw [resolve, if_neg (not_not.2 rfl)]

theorem news_refresh_none : news key ticket none (some (.live peer (some ticket))) = [] := by
  rw [news, if_neg (not_not.2 rfl)]

/-- A refresh that succeeds leaves the peer it found, announced or not. -/
theorem resolve_refresh_some :
    resolve key ticket (some endpoint) (some (.live (.located key found) (some ticket))) =
      some (.live (.located key endpoint) none) := by
  rw [resolve, if_neg (not_not.2 rfl)]
  split
  · rename_i heq
    obtain ⟨⟨hip, hport⟩, -⟩ := Endpoint.eq_of_iff.1 heq
    rw [Peer.located, Peer.located, hip, hport, Peer.located]
  · rfl

theorem news_refresh_some :
    news key ticket (some endpoint) (some (.live (.located key found) (some ticket))) =
      if (endpoint.ip = found.ip ∧ endpoint.port = found.port) ∧ endpoint.Plain then []
      else [.removed key, .added (.located key endpoint)] := by
  rw [news, if_neg (not_not.2 rfl)]
  exact if_congr Endpoint.eq_of_iff rfl rfl

end Slot

/-! ## Where a peer was found -/

/-- The endpoint that a signal brings. -/
def SubscriptionSignal.result? : SubscriptionSignal → Option Endpoint
  | answered _ result => result
  | _ => none

namespace Turn

variable {log : List Turn} {turn : Turn} {key : PeerKey}

/-- Whether something of a key was announced. -/
def tellsOf (key : PeerKey) (turn : Turn) : Bool := turn.announced.any (·.key = key)

/-- The endpoint that was found as something of a key was last announced. -/
def origin? (log : List Turn) (key : PeerKey) : Option Endpoint :=
  (log.reverse.find? (tellsOf key)).bind (·.signal.result?)

theorem origin?_concat : origin? (log ++ [turn]) key =
    if turn.tellsOf key then turn.signal.result? else origin? log key := by
  rw [origin?, List.reverse_append, List.reverse_singleton, List.singleton_append,
    List.find?_cons]
  cases turn.tellsOf key <;> rfl

end Turn

namespace Subscription

variable {settings : BrowserSettings} {serviceType : String} {s s' : Subscription}
  {log : List Turn} {key : PeerKey} {ticket now : Nat} {peer : Peer}
  {signal : SubscriptionSignal} {out : List PeerEvent}

/-- The peer in a slot is the one found as something of its key was last announced. -/
theorem Logged.peer_origin (h : Logged settings serviceType s log) (hp : s.peer? key = some peer) :
    ∃ found, Turn.origin? log key = some found ∧ peer = .located key found := by
  -- What was announced before adds up to the slots, so that the peer of a slot was added by the
  -- last step, or was there before it.
  induction h with
  | start => cases hp
  | @step s s' log out now signal h hstep ih =>
    have hmove : Move s now signal (s', out) := .of_step? hstep
    obtain ⟨live, -, hlive⟩ := h.run.livePeers
    obtain ⟨live', hfold, hlive'⟩ := hmove.turns live hlive
    rw [Turn.origin?_concat]
    rcases LivePeers.added_of_foldlM hfold ((hlive' key).trans hp) with ⟨hm, rfl⟩ | ⟨hget, hother⟩
    · obtain ⟨ticket, endpoint, rfl, hpeer, -⟩ := hmove.added hm
      exact ⟨endpoint, if_pos (List.any_eq_true.2 ⟨_, hm, decide_eq_true rfl⟩), hpeer⟩
    · obtain ⟨found, horigin, hpeer⟩ := ih ((hlive key).symm.trans hget)
      refine ⟨found, (if_neg fun htells => ?_).trans horigin, hpeer⟩
      obtain ⟨event, hm, hkey⟩ := List.any_eq_true.1 htells
      exact hother event hm (of_decide_eq_true hkey)
  | cancel _ ih => exact ih hp

/-! ## The next appearance -/

/-- A key that nothing is waited for under stays so until it appears. -/
theorem Logged.free_of_log? (h : Logged settings serviceType s log)
    (hfree : s.waitsFor? key = none) {signals : List (Nat × SubscriptionSignal)}
    {turns : List Turn} (hlog : s.log? signals = some (s', turns))
    (habsent : ∀ p ∈ signals, p.2 ≠ .event (.appeared key)) : s'.waitsFor? key = none := by
  induction signals generalizing s log turns with
  | nil =>
    obtain ⟨rfl, -⟩ := Prod.mk.inj (Option.some.inj hlog)
    exact hfree
  | cons head signals ih =>
    obtain ⟨s₁, out, later, hstep, hlater, rfl⟩ := log?_cons_eq_some_iff.1 hlog
    refine ih (h.step hstep) ?_ hlater fun p hp => habsent p (List.mem_cons_of_mem _ hp)
    refine Option.eq_none_iff_forall_ne_some.2 fun ticket hw => ?_
    rcases (Move.of_step? hstep).waits (h.ticketed_of_step? hstep) hw with ⟨hw, -⟩ | ⟨hsignal, -⟩
    · cases hfree.symm.trans hw
    · exact habsent _ List.mem_cons_self hsignal

/-- A key that nothing is waited for under is resolved as it appears. -/
theorem Logged.starts_of_free (h : Logged settings serviceType s log)
    (hp : s.phase = .listening) (hfree : s.waitsFor? key = none) :
    ∃ s', s.step? now (.event (.appeared key)) = some (s', []) ∧
      s.nextTicket ∈ s.started s' ∧ s'.waitsFor? key = some s.nextTicket := by
  have hs : Ticketed s := h.run.ticketed fun he => nomatch hp.symm.trans he
  refine ⟨s.onAppeared key, ?_, (mem_started_onAppeared hs).2 ⟨rfl, hfree⟩, ?_⟩
  · rw [step?.eq_def, hp]
    rfl
  · rw [waitsFor?_onAppeared, if_pos rfl, hfree, Option.getD_none]

/-! ## The result of a refresh -/

/-- The result of a refresh of a live key, whatever the run was until then. If it fails, nothing
    is announced and the peer is kept. If it has the address and the port at which the peer was
    found, the peer is kept; nothing is announced if the endpoint is plain, and otherwise the same
    peer is announced as removed and added. So a refresh that finds the very endpoint of the peer
    is announced exactly if this is not plain. If the address or the port is another one, the
    peer is announced as removed and added, and the slot holds the new one. No other slot
    changes, and nothing is waited for any more: as the key appears the next time, it is
    resolved. -/
theorem Logged.refreshed (h : Logged settings serviceType s log)
    (hslot : s.slots.get? key = some (.live peer (some ticket)))
    (hstep : s.step? now signal = some (s', out)) (ht : ticketOf? signal = some ticket)
    (hgone : s'.resolutions.get? ticket = none) :
    ∃ found result, Turn.origin? log key = some found ∧ signal = .answered ticket result ∧
      (result = none → out = [] ∧ s'.slots.get? key = some (.live peer none)) ∧
      (∀ endpoint, result = some endpoint →
        endpoint.ip = found.ip ∧ endpoint.port = found.port →
        out = (if endpoint.Plain then [] else [.removed key, .added peer]) ∧
          s'.slots.get? key = some (.live peer none)) ∧
      (∀ endpoint, result = some endpoint →
        ¬ (endpoint.ip = found.ip ∧ endpoint.port = found.port) →
        out = [.removed key, .added (.located key endpoint)] ∧
          s'.slots.get? key = some (.live (.located key endpoint) none)) ∧
      (result = some found → (out = [] ↔ found.Plain)) ∧
      (∀ k, k ≠ key → s'.slots.get? k = s.slots.get? k) ∧
      ∀ signals s₁ turns, s'.log? signals = some (s₁, turns) →
        (∀ p ∈ signals, p.2 ≠ .event (.appeared key)) → s₁.phase = .listening →
        ∀ moment, ∃ s₂, s₁.step? moment (.event (.appeared key)) = some (s₂, []) ∧
          s₁.nextTicket ∈ s₁.started s₂ ∧ s₂.waitsFor? key = some s₁.nextTicket := by
  have hw : s.waitsFor? key = some ticket := by
    rw [waitsFor?, hslot]
    rfl
  -- What the slot waits for was not told to stop, so that nothing but an answer ends it.
  obtain ⟨r, hr, rfl, hfree⟩ := (h.ticketed_of_step? hstep).running hw
  obtain ⟨result, rfl, hafter⟩ := (Move.of_step? hstep).ended hr hfree ht hgone
  obtain ⟨found, horigin, rfl⟩ := h.peer_origin (peer?_eq_some_iff.2 ⟨_, hslot⟩)
  have hself : s'.slots.get? r.key = Slot.resolve r.key ticket result
      (some (.live (.located r.key found) (some ticket))) := by
    rw [show s' = _ from congrArg Prod.fst hafter, get?_conclude, if_pos rfl, hslot]
  have hout : out = Slot.news r.key ticket result
      (some (.live (.located r.key found) (some ticket))) := by
    rw [← hslot]
    exact (congrArg Prod.snd hafter).trans (onResolved_snd (s := s.endResolution ticket) ..)
  have hfound (endpoint : Endpoint) (hsome : result = some endpoint) :
      s'.slots.get? r.key = some (.live (.located r.key endpoint) none) ∧
        out = if (endpoint.ip = found.ip ∧ endpoint.port = found.port) ∧ endpoint.Plain then []
          else [.removed r.key, .added (.located r.key endpoint)] := by
    rw [hself, hout, hsome, Slot.resolve_refresh_some, Slot.news_refresh_some]
    exact ⟨rfl, rfl⟩
  have hcleared : s'.waitsFor? r.key = none := by
    rw [waitsFor?, hself, Slot.ticket?_resolve]
    exact if_pos rfl
  refine ⟨found, result, horigin, rfl, fun hnone => ?_, fun endpoint hsome hsame => ?_,
    fun endpoint hsome hmoved => ?_, fun hsome => ?_, fun k hk => ?_,
    fun signals s₁ turns hlog habsent hp moment => ?_⟩
  · rw [hout, hself, hnone, Slot.news_refresh_none, Slot.resolve_refresh_none]
    exact ⟨rfl, rfl⟩
  · obtain ⟨hlive, hout⟩ := hfound endpoint hsome
    have hpeer : Peer.located r.key endpoint = .located r.key found := by
      rw [Peer.located, hsame.1, hsame.2, Peer.located]
    rw [hlive, hout, hpeer]
    simp only [hsame, and_self, true_and]
  · obtain ⟨hlive, hout⟩ := hfound endpoint hsome
    exact ⟨hout.trans (if_neg fun h => hmoved h.1), hlive⟩
  · rw [(hfound found hsome).2]
    simp
  · rw [show s' = _ from congrArg Prod.fst hafter, get?_conclude, if_neg hk]
  · have h₁ := (h.step hstep).log hlog
    exact h₁.starts_of_free hp ((h.step hstep).free_of_log? hcleared hlog habsent)

/-- A peer that moved, beside one that is being resolved; it appeared twice while it was
    refreshed. -/
theorem Logged.refreshed_moved :
    let key : PeerKey := ⟨"eth0", .inet, "nas", "t", "local"⟩
    let other : PeerKey := ⟨"eth0", .inet, "tv", "t", "local"⟩
    let first : Endpoint := .v4 ⟨10, 0, 0, 5⟩ 9000
    let second : Endpoint := .v4 ⟨10, 0, 0, 6⟩ 9000
    let signals : List (Nat × SubscriptionSignal) :=
      [(0, .event (.appeared key)), (0, .answered 0 (some first)), (0, .event (.appeared other)),
        (1, .event (.appeared key)), (1, .event (.appeared key))]
    let log : List Turn :=
      [⟨.event (.appeared key), [0], []⟩,
        ⟨.answered 0 (some first), [], [.added (.located key first)]⟩,
        ⟨.event (.appeared other), [1], []⟩, ⟨.event (.appeared key), [2], []⟩,
        ⟨.event (.appeared key), [], []⟩]
    ∃ s s' out, (Subscription.start {} "t").log? signals = some (s, log) ∧
      s.slots.get? key = some (.live (.located key first) (some 2)) ∧
      s.step? 2 (.answered 2 (some second)) = some (s', out) ∧
      out = [.removed key, .added (.located key second)] ∧
      s'.slots.get? key = some (.live (.located key second) none) ∧
      s'.slots.get? other = s.slots.get? other := by
  intro key other first second signals log
  have hstep : ∃ s s' out, (Subscription.start {} "t").log? signals = some (s, log) ∧
      s.slots.get? key = some (.live (.located key first) (some 2)) ∧
      s.step? 2 (.answered 2 (some second)) = some (s', out) ∧
      s'.resolutions.get? 2 = none := ⟨_, _, _, rfl, rfl, rfl, rfl⟩
  obtain ⟨s, s', out, hlog, hslot, hstep, hgone⟩ := hstep
  obtain ⟨found, result, horigin, hsignal, -, -, hmoved, -, hothers, -⟩ :=
    (Logged.start.log hlog).refreshed hslot hstep rfl hgone
  obtain rfl : first = found := Option.some.inj horigin
  obtain ⟨-, rfl⟩ := SubscriptionSignal.answered.inj hsignal
  obtain ⟨hout, hlive⟩ := hmoved second rfl (by decide)
  exact ⟨s, s', out, hlog, hslot, hstep, hout, hlive, hothers other (by decide)⟩

/-- A peer that is found at the very same endpoint, which has a scope, is announced as removed
    and added. -/
theorem Logged.refreshed_scoped :
    let key : PeerKey := ⟨"eth0", .inet6, "nas", "t", "local"⟩
    let endpoint : Endpoint := .v6 ⟨[0xfe80, 0, 0, 0, 0, 0, 0, 1], rfl⟩ 9000 0 3
    ∃ s s' log, Logged {} "t" s log ∧ Turn.origin? log key = some endpoint ∧
      s.slots.get? key = some (.live (.located key endpoint) (some 1)) ∧
      s.step? 1 (.answered 1 (some endpoint)) =
        some (s', [.removed key, .added (.located key endpoint)]) := by
  intro key endpoint
  have hlog : ∃ s s' log, (Subscription.start {} "t").log? [(0, .event (.appeared key)),
      (0, .answered 0 (some endpoint)), (1, .event (.appeared key))] = some (s, log) ∧
      Turn.origin? log key = some endpoint ∧
      s.slots.get? key = some (.live (.located key endpoint) (some 1)) ∧
      s.step? 1 (.answered 1 (some endpoint)) =
        some (s', [.removed key, .added (.located key endpoint)]) :=
    ⟨_, _, _, rfl, rfl, rfl, rfl⟩
  obtain ⟨s, s', log, hlog, hdone⟩ := hlog
  exact ⟨s, s', log, Logged.start.log hlog, hdone⟩

end Subscription

end ServiceDiscovery
