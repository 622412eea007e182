import ServiceDiscovery.Proofs.Browsing.Tracks
import ServiceDiscovery.Proofs.Subscription.LivePeers

/-!
# A subscription and its directory

`Informed r stream s` ties a subscription to the directory it watches: its slots
and its stream are about keys of its type, it forgets all peers while it watches
nothing, and while its stream is sent to, every key of its type is tracked.

* Changes to the directory keep this (`Informed.apply`): a key that gets another
  address appears, one that loses it is removed.
* So does everything that the subscription does (`Informed.react`), which reads
  its stream, asks for addresses, and watches again (`Reaction`).
-/

namespace ServiceDiscovery

/-- Some events are about a key. -/
def Mentions (key : PeerKey) (events : List DirectoryEvent) : Prop :=
  .appeared key ∈ events ∨ .removed key ∈ events

/-- A subscription has slots and a stream of its own type, and keeps track of
    the keys of this type. -/
structure Informed (r : Registry) (stream : Nat) (s : Subscription) : Prop where
  slots : ∀ {key : PeerKey} {slot : Slot}, s.slots.get? key = some slot →
    key.serviceType = s.serviceType
  notices : ∀ {st : WatchStream}, r.streams.get? stream = some st →
    st.serviceType = s.serviceType ∧
      ∀ {key : PeerKey}, Mentions key st.unread → key.serviceType = s.serviceType
  idle : s.phase ≠ .listening → s.phase ≠ .ended → s.slots = .empty
  tracks : s.phase = .listening → ∀ {st : WatchStream}, r.streams.get? stream = some st →
    st.connected = true → ∀ {key : PeerKey}, key.serviceType = s.serviceType →
      Tracks key st.unread (s.slots.get? key) (r.addresses.get? key)

open Subscription

namespace Informed

variable {r r' : Registry} {stream : Nat} {s : Subscription}

/-! ## Changes of the directory -/

/-- A directory that differs in other things is as good. -/
theorem congr (h : Informed r stream s) (hs : r'.streams = r.streams)
    (ha : r'.addresses = r.addresses) : Informed r' stream s where
  slots := h.slots
  notices {st} hst := h.notices (hs ▸ hst)
  idle := h.idle
  tracks hp {st} hst hc {key} hk := by
    rw [ha]
    exact h.tracks hp (hs ▸ hst) hc hk

/-- A notice about a key is sent, and at most the address of this key changes, in
    line with the notice. -/
theorem notify {key : PeerKey} {event : DirectoryEvent} (h : Informed r stream s)
    (hs : r'.streams = (r.notify key.serviceType event).streams)
    (ha : ∀ k, k ≠ key → r'.addresses.get? k = r.addresses.get? k)
    (hevent : event = .appeared key ∨ event = .removed key)
    (hself : ∀ {unread slot}, Tracks key unread slot (r.addresses.get? key) →
      Tracks key (unread ++ [event]) slot (r'.addresses.get? key)) :
    Informed r' stream s := by
  have hget : r'.streams.get? stream = (r.streams.get? stream).map fun st =>
      if st.connected ∧ st.serviceType = key.serviceType then
        { st with unread := st.unread ++ [event] }
      else st := by
    rw [hs]
    exact Association.get?_mapValues ..
  refine ⟨h.slots, ?_, h.idle, ?_⟩
  · -- What is new on the stream is about the key, which is of the stream's type.
    intro st' hst
    rw [hget] at hst
    obtain ⟨st, hold, rfl⟩ := Option.map_eq_some_iff.1 hst
    obtain ⟨htype, hmentions⟩ := h.notices hold
    split
    · rename_i hsent
      refine ⟨htype, ?_⟩
      intro k hm
      have hk : Mentions k st.unread ∨ k = key := by
        rcases hm with hm | hm <;> rcases List.mem_append.1 hm with hm | hm
        · exact .inl (.inl hm)
        · rcases hevent with rfl | rfl <;> cases List.mem_singleton.1 hm
          exact .inr rfl
        · exact .inl (.inr hm)
        · rcases hevent with rfl | rfl <;> cases List.mem_singleton.1 hm
          exact .inr rfl
      rcases hk with hk | rfl
      · exact hmentions hk
      · exact hsent.2.symm.trans htype
    · exact ⟨htype, hmentions⟩
  · intro hp st' hst hc k hk
    rw [hget] at hst
    obtain ⟨st, hold, rfl⟩ := Option.map_eq_some_iff.1 hst
    have htype := (h.notices hold).1
    split at hc
    · rename_i hsent
      rw [if_pos hsent]
      have ht := h.tracks hp hold hc hk
      by_cases hkey : k = key
      · subst hkey
        exact hself ht
      · -- A notice about another key changes nothing for this one.
        rw [ha k hkey]
        refine ht.append ?_
        rcases hevent with rfl | rfl
        · exact fun h => by cases h
        · exact fun h => hkey (DirectoryEvent.removed.inj h).symm
    · rename_i hsent
      rw [if_neg hsent]
      -- The stream is of another type than the key, so this key is another one.
      have hkey : k ≠ key := by
        rintro rfl
        exact hsent ⟨hc, htype.trans hk.symm⟩
      rw [ha k hkey]
      exact h.tracks hp hold hc hk

/-- Nothing is tracked on streams that are no longer sent to. -/
theorem disconnect (h : Informed r stream s)
    (hst : ∀ {st'}, r'.streams.get? stream = some st' → st'.connected = false ∧
      ∃ st, r.streams.get? stream = some st ∧ st'.serviceType = st.serviceType ∧
        ∀ key, Mentions key st'.unread → Mentions key st.unread) : Informed r' stream s where
  slots := h.slots
  notices {st'} h' := by
    obtain ⟨-, st, hget, htype, hmentions⟩ := hst h'
    exact ⟨htype.trans (h.notices hget).1, fun {key} hm => (h.notices hget).2 (hmentions key hm)⟩
  idle := h.idle
  tracks _ {st'} h' hc := by
    rw [(hst h').1] at hc
    cases hc

theorem mentions_snoc_reset {key : PeerKey} {events : List DirectoryEvent}
    (h : Mentions key (events ++ [.reset])) : Mentions key events := by
  rcases h with h | h <;> rcases List.mem_append.1 h with h | h
  · exact .inl h
  · cases List.mem_singleton.1 h
  · exact .inr h
  · cases List.mem_singleton.1 h

/-- Whatever happens to the peers of the directory, track is kept of them. -/
theorem apply (h : Informed r stream s) (change : PeerChange) :
    Informed (r.apply change) stream s := by
  cases change with
  | addPeer key endpoint =>
    refine h.notify rfl (fun k hk => r.addresses.get?_put_of_ne endpoint hk) (.inl rfl) ?_
    intro unread slot _
    have haddress : (r.addPeer key endpoint).addresses.get? key = some endpoint :=
      r.addresses.get?_put_self key endpoint
    show Tracks key (unread ++ [.appeared key]) slot ((r.addPeer key endpoint).addresses.get? key)
    rw [haddress]
    exact .appeared key unread slot endpoint
  | appear key =>
    exact h.notify rfl (fun _ _ => rfl) (.inl rfl) fun ht => ht.append fun h => by cases h
  | removePeer key =>
    refine h.notify rfl (fun k hk => r.addresses.get?_erase_of_ne hk) (.inr rfl) ?_
    intro unread slot _
    have haddress : (r.removePeer key).addresses.get? key = none :=
      r.addresses.get?_erase_self key
    show Tracks key (unread ++ [.removed key]) slot ((r.removePeer key).addresses.get? key)
    rw [haddress]
    exact .removed key unread slot
  | restart =>
    refine h.disconnect ?_
    intro st' hst
    rw [Registry.apply, Registry.restart, Association.get?_mapValues] at hst
    obtain ⟨st, hget, rfl⟩ := Option.map_eq_some_iff.1 hst
    split
    · exact ⟨rfl, st, hget, rfl, fun key => mentions_snoc_reset⟩
    · rename_i hc
      exact ⟨eq_false_of_ne_true hc, st, hget, rfl, fun _ hm => hm⟩
  | disconnect =>
    refine h.disconnect ?_
    intro st' hst
    rw [Registry.apply, Registry.disconnect, Association.get?_mapValues] at hst
    obtain ⟨st, hget, rfl⟩ := Option.map_eq_some_iff.1 hst
    exact ⟨rfl, st, hget, rfl, fun _ hm => hm⟩
  | failWatches times => exact h.congr rfl rfl

/-! ## Steps of the subscription -/

/-- A subscription that does not listen has nothing to keep track of, once it
    has given up its slots or has ended. -/
theorem away {s' : Subscription} (h : Informed r stream s)
    (hn : ∀ {st : WatchStream}, r'.streams.get? stream = some st → ∃ st₀,
      r.streams.get? stream = some st₀ ∧ st.serviceType = st₀.serviceType ∧
        ∀ event, event ∈ st.unread → event ∈ st₀.unread)
    (ht : s'.serviceType = s.serviceType) (hp : s'.phase ≠ .listening)
    (hs : s'.slots = .empty ∨ (s'.slots = s.slots ∧ s'.phase = .ended)) :
    Informed r' stream s' where
  slots {key slot} hk := by
    rw [ht]
    rcases hs with hs | ⟨hs, -⟩ <;> rw [hs] at hk
    · cases hk
    · exact h.slots hk
  notices {st} hst := by
    obtain ⟨st₀, hst₀, htype, hunread⟩ := hn hst
    rw [ht]
    refine ⟨htype.trans (h.notices hst₀).1, fun hm => (h.notices hst₀).2 ?_⟩
    exact hm.imp (hunread _) (hunread _)
  idle _ he := hs.elim id fun hs => absurd hs.2 he
  tracks hl := absurd hl hp

/-- Losing the directory leaves nothing to keep track of. -/
theorem lose (h : Informed r stream s) (now : Nat)
    (hn : ∀ {st : WatchStream}, r'.streams.get? stream = some st → ∃ st₀,
      r.streams.get? stream = some st₀ ∧ st.serviceType = st₀.serviceType ∧
        ∀ event, event ∈ st.unread → event ∈ st₀.unread) :
    Informed r' stream (s.lose now).1 := by
  refine h.away hn ?_ ?_ (.inl ?_)
  · rw [lose_fst, serviceType_pause]
  · rw [lose_fst, phase_pause]
    exact fun he => by cases he
  · rw [lose_fst, slots_pause]

/-- How far a resolution is tells nothing about its key. -/
theorem setResolution (h : Informed r stream s) (hs : r'.streams = r.streams)
    (ha : r'.addresses = r.addresses) (ticket : Nat) (q : Resolution) :
    Informed r' stream (s.setResolution ticket q) :=
  let h' := h.congr hs ha
  ⟨h'.slots, h'.notices, h'.idle, h'.tracks⟩

/-- The slot of one key changed while the subscription listens. -/
theorem update {s' : Subscription} {key : PeerKey} {slot : Option Slot} (h : Informed r stream s)
    (hstreams : r'.streams = r.streams) (haddresses : r'.addresses = r.addresses)
    (ht : s'.serviceType = s.serviceType) (hp : s.phase = .listening)
    (hp' : s'.phase = s.phase)
    (hget : ∀ k, s'.slots.get? k = if k = key then slot else s.slots.get? k)
    (hkey : slot ≠ none → key.serviceType = s.serviceType)
    (htracks : ∀ {unread}, Tracks key unread (s.slots.get? key) (r.addresses.get? key) →
      Tracks key unread slot (r.addresses.get? key)) : Informed r' stream s' where
  slots {k slot'} hk := by
    rw [hget] at hk
    rw [ht]
    split at hk
    · rename_i he
      rw [he]
      exact hkey (hk ▸ Option.some_ne_none _)
    · exact h.slots hk
  notices {st} hst := by
    rw [ht]
    exact h.notices (hstreams ▸ hst)
  idle hl := absurd (hp'.trans hp) hl
  tracks _ {st} hst hc {k} hk := by
    rw [hstreams] at hst
    rw [ht] at hk
    rw [hget, haddresses]
    have h' := h.tracks hp hst hc hk
    split
    · rename_i he
      subst he
      exact htracks h'
    · exact h'

/-- A notice was read, and the slot of its key changed. -/
theorem read {s' : Subscription} {key : PeerKey} {slot : Option Slot} {st : WatchStream}
    {event : DirectoryEvent} {rest : List DirectoryEvent} (h : Informed r stream s)
    (hst : r.streams.get? stream = some st) (hu : st.unread = event :: rest)
    (hevent : event = .appeared key ∨ event = .removed key)
    (ht : s'.serviceType = s.serviceType) (hp : s.phase = .listening)
    (hp' : s'.phase = s.phase)
    (hget : ∀ k, s'.slots.get? k = if k = key then slot else s.slots.get? k)
    (htracks : ∀ {address}, Tracks key (event :: rest) (s.slots.get? key) address →
      Tracks key rest slot address) :
    Informed { r with streams := r.streams.put stream { st with unread := rest } } stream s' where
  slots {k slot'} hk := by
    rw [ht]
    rw [hget] at hk
    split at hk
    · rename_i hkey
      rw [hkey]
      refine (h.notices hst).2 ?_
      rw [hu]
      rcases hevent with rfl | rfl
      · exact .inl List.mem_cons_self
      · exact .inr List.mem_cons_self
    · exact h.slots hk
  notices {st'} hst' := by
    rw [Association.get?_put_self] at hst'
    obtain rfl := Option.some.inj hst'
    obtain ⟨htype, hmentions⟩ := h.notices hst
    rw [ht]
    refine ⟨htype, fun hm => hmentions ?_⟩
    rw [hu]
    exact hm.imp (List.mem_cons_of_mem _) (List.mem_cons_of_mem _)
  idle hl := absurd (hp'.trans hp) hl
  tracks _ {st'} hst' hc {k} hk := by
    rw [ht] at hk
    rw [Association.get?_put_self] at hst'
    obtain rfl := Option.some.inj hst'
    have htrack := h.tracks hp hst hc hk
    rw [hu] at htrack
    rw [hget]
    split
    · rename_i hkey
      subst hkey
      exact htracks htrack
    · rename_i hkey
      refine htrack.read_other (fun e => ?_) fun e => ?_ <;> subst e
      · rcases hevent with he | he
        · exact hkey (DirectoryEvent.appeared.inj he)
        · cases he
      · rcases hevent with he | he
        · cases he
        · exact hkey (DirectoryEvent.removed.inj he)

/-- A watcher that is let in is told of every present key. -/
theorem watching (hu : r.Unscripted) (hw : r.watch s.serviceType = (r', .ok stream))
    (hp : s.phase = .listening) (hs : s.slots = .empty) : Informed r' stream s := by
  obtain ⟨calls, rfl⟩ := Registry.watch_ok hw
  have hget {st : WatchStream} (hst : Association.get? (r.streams.put stream _) stream = some st) :
      { serviceType := s.serviceType
        unread := (r.present.filter (·.serviceType = s.serviceType)).map .appeared } = st :=
    Option.some.inj ((Association.get?_put_self ..).symm.trans hst)
  refine ⟨?_, ?_, fun hl => absurd hp hl, ?_⟩
  · intro key slot hk
    rw [hs] at hk
    cases hk
  · intro st hst
    obtain rfl := hget hst
    refine ⟨rfl, ?_⟩
    intro key hm
    rcases hm with hm | hm <;> obtain ⟨k, hk, he⟩ := List.mem_map.1 hm
    · obtain rfl := DirectoryEvent.appeared.inj he
      exact of_decide_eq_true (List.mem_filter.1 hk).2
    · cases he
  · intro _ st hst _ key hk
    obtain rfl := hget hst
    rw [hs, Association.get?_empty]
    exact .replay fun endpoint he => List.mem_filter.2 ⟨hu.present he, decide_eq_true hk⟩

end Informed

/-! ## Reactions -/

/-- How a subscription gets a signal from its directory: the directory and the
    number of the stream after that, and the signal. -/
inductive Reaction (r : Registry) (stream : Nat) (s : Subscription) :
    Registry → Nat → SubscriptionSignal → Prop
  | read {r' : Registry} {event : DirectoryEvent} : r.receive stream = (r', .event event) →
      Reaction r stream s r' stream (.event event)
  | lost : Reaction r stream s (r.dropStream stream) stream .lost
  /-- A resolution asks for an address and is answered at once. -/
  | answered {ticket : Nat} {q : Resolution} : s.resolutions.get? ticket = some q →
      Reaction r stream s (r.resolve q.key).1 stream (.answered ticket (r.addresses.get? q.key))
  | rested (ticket : Nat) : Reaction r stream s r stream (.rested ticket)
  | stopped (ticket : Nat) : Reaction r stream s r stream (.stopped ticket)
  | expired : Reaction r stream s r stream .expired
  | accepted {r' : Registry} {stream' : Nat} : r.watch s.serviceType = (r', .ok stream') →
      Reaction r stream s r' stream' (.watched true)
  | refused {r' : Registry} {error : DiscoveryError} :
      r.watch s.serviceType = (r', .error error) →
      Reaction r stream s r' stream (.watched false)
  | cancelled : Reaction r stream s (r.dropStream stream) stream .cancelled

namespace Reaction

variable {r r' : Registry} {stream stream' : Nat} {s : Subscription} {signal : SubscriptionSignal}

theorem unscripted (h : Reaction r stream s r' stream' signal) (hu : r.Unscripted) :
    r'.Unscripted := by
  cases h with
  | read h =>
    obtain ⟨st, rest, _, _, rfl⟩ := Registry.receive_event h
    exact hu.congr rfl rfl rfl
  | lost | cancelled => exact hu.dropStream stream
  | answered =>
    rw [hu.resolve_eq]
    exact hu.congr rfl rfl rfl
  | rested | stopped | expired => exact hu
  | accepted h =>
    obtain ⟨_, rfl⟩ := Registry.watch_ok h
    exact hu.congr rfl rfl rfl
  | refused h =>
    obtain ⟨_, _, rfl⟩ := Registry.watch_error h
    exact hu.congr rfl rfl rfl

end Reaction

section

variable {r r' : Registry} {stream stream' now : Nat} {s : Subscription}
  {signal : SubscriptionSignal} {after : Subscription × List PeerEvent}
  {settings : BrowserSettings} {serviceType : String} {events : List PeerEvent}

/-- A resolution ends: with the address of its key, or because it was told to
    stop, so that nothing waits for it. -/
theorem Informed.conclude {ticket : Nat} {q : Resolution} {result : Option Endpoint}
    (h : Informed r stream s) (hstreams : r'.streams = r.streams)
    (haddresses : r'.addresses = r.addresses) (hrun : Run settings serviceType s events)
    (hp : s.phase = .listening) (hq : s.resolutions.get? ticket = some q)
    (hresult : result = r.addresses.get? q.key ∨ q.cancelled = true) :
    Informed r' stream (s.conclude ticket q.key result).1 := by
  have hfiled : Filed q.key (s.slots.get? q.key) := fun _ hpeer => hrun.key_of_peer? hpeer
  have hticketed : Ticketed s := hrun.ticketed (hp ▸ by decide)
  refine h.update hstreams haddresses (by rw [conclude_frame]) hp (phase_conclude ..)
    (fun k => get?_conclude ticket q.key k result) ?_ ?_
  · intro hne
    cases hslot : s.slots.get? q.key with
    | some slot => exact h.slots hslot
    | none =>
      rw [hslot] at hne
      exact absurd rfl hne
  · intro unread ht
    rcases hresult with rfl | hcancelled
    · exact ht.resolve ticket hfiled
    · -- The slot does not wait for a resolution that was told to stop.
      rw [Slot.resolve_of_ne]
      · exact ht
      · intro hw
        have hwaits : s.waitsFor? q.key = some ticket := hw
        obtain ⟨q', hq', _, hfree⟩ := hticketed.running hwaits
        rw [hq] at hq'
        obtain rfl := Option.some.inj hq'
        rw [hcancelled] at hfree
        cases hfree

/-- Whatever a subscription does, it keeps track of the keys of its type. -/
theorem Informed.react (h : Informed r stream s) (hu : r.Unscripted)
    (hrun : Run settings serviceType s events) (hr : Reaction r stream s r' stream' signal)
    (hm : Move s now signal after) : Informed r' stream' after.1 := by
  have hdropped {st : WatchStream} (hst : (r.dropStream stream).streams.get? stream = some st) :
      False := by
    rw [Registry.dropStream, Association.get?_erase_self] at hst
    cases hst
  have ht : after.1.serviceType = s.serviceType := hm.same.1
  -- A signal allows only the moves that wait for it; the others are ruled out.
  cases hr with
  | read hread =>
    obtain ⟨st, rest, hst, hunread, rfl⟩ := Registry.receive_event hread
    cases hm with
    | appeared key hp =>
      exact h.read hst hunread (.inl rfl) ht hp (phase_onAppeared key)
        (get?_onAppeared key) fun ht => ht.read_appeared s.nextTicket
    | removed key hp =>
      exact h.read hst hunread (.inr rfl) ht hp (phase_onRemoved key)
        (get?_onRemoved key) fun ht => ht.read_removed
    | lose hp =>
      refine h.lose now ?_
      intro st' hst'
      rw [Association.get?_put_self] at hst'
      obtain rfl := Option.some.inj hst'
      exact ⟨st, hst, rfl, fun _ hm => hunread ▸ List.mem_cons_of_mem _ hm⟩
    | progress _ _ hticket => cases hticket
  | lost =>
    cases hm with
    | lose hp => exact h.lose now fun hst => (hdropped hst).elim
    | progress _ _ hticket => cases hticket
  | @answered ticket q hq =>
    have hs : (r.resolve q.key).1.streams = r.streams := by rw [hu.resolve_eq]
    have ha : (r.resolve q.key).1.addresses = r.addresses := by rw [hu.resolve_eq]
    cases hm with
    | lose _ he => rcases he with he | he <;> cases he
    | progress => exact h.setResolution hs ha _ _
    | @answered _ q' _ hp hq' =>
      rw [hq] at hq'
      obtain rfl := Option.some.inj hq'
      exact h.conclude hs ha hrun hp hq (.inl rfl)
  | rested =>
    cases hm with
    | lose _ he => rcases he with he | he <;> cases he
    | progress => exact h.setResolution rfl rfl _ _
  | stopped =>
    cases hm with
    | lose _ he => rcases he with he | he <;> cases he
    | progress => exact h.setResolution rfl rfl _ _
    | stopped hp hq hc => exact h.conclude rfl rfl hrun hp hq (.inr hc)
  | expired =>
    cases hm with
    | lose _ he => rcases he with he | he <;> cases he
    | progress _ _ hticket => cases hticket
    | call hp =>
      refine h.away (fun hst => ⟨_, hst, rfl, fun _ hm => hm⟩) rfl ?_ (.inl ?_)
      · exact fun he => by cases he
      · exact h.idle (hp ▸ fun he => by cases he) (hp ▸ fun he => by cases he)
  | accepted hw =>
    cases hm with
    | lose _ he => rcases he with he | he <;> cases he
    | progress _ _ hticket => cases hticket
    | accepted hp =>
      exact .watching hu hw rfl (h.idle (hp ▸ fun he => by cases he) (hp ▸ fun he => by cases he))
  | refused hw =>
    obtain ⟨calls, failures, rfl⟩ := Registry.watch_error hw
    cases hm with
    | lose _ he => rcases he with he | he <;> cases he
    | progress _ _ hticket => cases hticket
    | refused hp =>
      refine h.away (fun hst => ⟨_, hst, rfl, fun _ hm => hm⟩) (serviceType_pause now) ?_ (.inl ?_)
      · rw [phase_pause]
        exact fun he => by cases he
      · rw [slots_pause]
        exact h.idle (hp ▸ fun he => by cases he) (hp ▸ fun he => by cases he)
  | cancelled =>
    cases hm with
    | stop =>
      refine h.away (fun hst => (hdropped hst).elim) rfl ?_ (.inr ⟨rfl, rfl⟩)
      exact fun he => by cases he
    | lose _ he => rcases he with he | he <;> cases he
    | progress _ _ hticket => cases hticket

end

end ServiceDiscovery
