import ServiceDiscovery.Proofs.Directory.Peers
import ServiceDiscovery.Proofs.Subscription.Tickets

/-!
# Keeping track of a key

What a subscription will know of a key is settled by three things: the address
that the directory has for the key, the notices that were not read yet, and the
slot of the key. `Tracks` says that they are in line:

* a key with an address is about to be noticed, or it is live at that address,
  or a result is waited for, which will be read off the address;
* a key without an address is about to be removed, or it is not live.

A notice that is dropped because a result is waited for does no harm: the result
is read later than the notice (`Tracks.read`, `Tracks.resolve`). Once everything
was read and nothing is waited for, the slot tells the address (`Tracks.peer?`).
-/

namespace ServiceDiscovery

/-- A key appears among some events, and is not removed after that. -/
def AppearsLast (key : PeerKey) (events : List DirectoryEvent) : Prop :=
  ∃ before after, events = before ++ .appeared key :: after ∧ .removed key ∉ after

/-- The slot of a key is at an endpoint, or waits for a result. -/
def Follows (key : PeerKey) (endpoint : Endpoint) (slot : Option Slot) : Prop :=
  slot = some (.live (.located key endpoint) none) ∨ slot.bind Slot.ticket? ≠ none

/-- The unread notices and the slot of a key lead to the address of the key. -/
def Tracks (key : PeerKey) (unread : List DirectoryEvent) (slot : Option Slot) :
    Option Endpoint → Prop
  | some endpoint =>
    AppearsLast key unread ∨ (.removed key ∉ unread ∧ Follows key endpoint slot)
  | none => .removed key ∈ unread ∨ slot.bind Slot.peer? = none

/-- A slot that holds a peer holds one of its own key. -/
def Filed (key : PeerKey) (slot : Option Slot) : Prop :=
  ∀ peer, slot.bind Slot.peer? = some peer → peer.key = key

variable {key : PeerKey} {unread : List DirectoryEvent} {event : DirectoryEvent}
  {slot : Option Slot} {address : Option Endpoint}

namespace AppearsLast

theorem snoc (key : PeerKey) (events : List DirectoryEvent) :
    AppearsLast key (events ++ [.appeared key]) :=
  ⟨events, [], rfl, List.not_mem_nil⟩

theorem append (h : AppearsLast key unread) (hne : event ≠ .removed key) :
    AppearsLast key (unread ++ [event]) := by
  obtain ⟨before, after, rfl, hnot⟩ := h
  refine ⟨before, after ++ [event], by simp, fun hmem => ?_⟩
  rcases List.mem_append.1 hmem with hmem | hmem
  · exact hnot hmem
  · exact hne (List.mem_singleton.1 hmem).symm

/-- Reading the first event leaves the appearance unread, or has read it. -/
theorem tail (h : AppearsLast key (event :: unread)) :
    AppearsLast key unread ∨ (event = .appeared key ∧ .removed key ∉ unread) := by
  obtain ⟨before, after, heq, hnot⟩ := h
  cases before with
  | nil =>
    obtain ⟨rfl, rfl⟩ := List.cons.inj heq
    exact .inr ⟨rfl, hnot⟩
  | cons first before =>
    obtain ⟨-, rfl⟩ := List.cons.inj heq
    exact .inl ⟨before, after, rfl, hnot⟩

end AppearsLast

theorem Follows.appear {endpoint : Endpoint} (ticket : Nat) :
    Follows key endpoint (some (Slot.appear ticket slot)) := by
  right
  rw [Option.bind_some, Slot.ticket?_appear]
  exact Option.some_ne_none _

theorem Slot.peer?_appear (ticket : Nat) (slot : Option Slot) :
    (Slot.appear ticket slot).peer? = slot.bind Slot.peer? := by
  rcases slot with _ | ⟨t⟩ | ⟨peer, _ | t⟩ <;> rfl

/-- Without an address a resolution brings no peer. -/
theorem Slot.peer?_resolve_none (key : PeerKey) (ticket : Nat) (slot : Option Slot) :
    (Slot.resolve key ticket none slot).bind Slot.peer? = slot.bind Slot.peer? := by
  rcases slot with _ | ⟨t⟩ | ⟨peer, _ | t⟩
  · rfl
  · by_cases h : t = ticket <;> simp [Slot.resolve, Slot.peer?, h]
  · rfl
  · by_cases h : t = ticket <;> simp [Slot.resolve, Slot.peer?, h]

/-- A result that is not waited for changes nothing. -/
theorem Slot.resolve_of_ne {ticket : Nat} (result : Option Endpoint)
    (h : slot.bind Slot.ticket? ≠ some ticket) : Slot.resolve key ticket result slot = slot := by
  rcases slot with _ | ⟨t⟩ | ⟨peer, _ | t⟩
  · rfl
  · have ht : t ≠ ticket := fun e => h (congrArg some e)
    simp [Slot.resolve, ht]
  · rfl
  · have ht : t ≠ ticket := fun e => h (congrArg some e)
    simp [Slot.resolve, ht]

/-- The peer that stands at an endpoint is the one located there. -/
theorem Peer.eq_located {peer : Peer} {endpoint : Endpoint} (hkey : peer.key = key)
    (h : endpoint = peer.endpoint) : peer = .located key endpoint := by
  obtain ⟨k, address, port⟩ := peer
  obtain rfl : k = key := hkey
  rw [h, located, Peer.endpoint, Endpoint.ip_of, Endpoint.port_of]

/-- What is found for a key is where its slot is then, if it waited for it. -/
theorem Follows.resolve {ticket : Nat} {endpoint : Endpoint} (hfiled : Filed key slot)
    (h : Follows key endpoint slot) :
    Follows key endpoint (Slot.resolve key ticket (some endpoint) slot) := by
  by_cases hw : slot.bind Slot.ticket? = some ticket
  · left
    rcases slot with _ | ⟨t⟩ | ⟨peer, _ | t⟩
    · cases hw
    · have ht : t = ticket := Option.some.inj hw
      simp [Slot.resolve, ht]
    · cases hw
    · have ht : t = ticket := Option.some.inj hw
      have hpeer : (if endpoint = peer.endpoint then peer else .located key endpoint) =
          Peer.located key endpoint := by
        split
        · exact Peer.eq_located (hfiled peer rfl) ‹_›
        · rfl
      simp [Slot.resolve, ht, hpeer]
  · rw [Slot.resolve_of_ne _ hw]
    exact h

namespace Tracks

/-! ## Notices being sent -/

/-- A key that appears at an address is about to be noticed there. -/
theorem appeared (key : PeerKey) (unread : List DirectoryEvent) (slot : Option Slot)
    (endpoint : Endpoint) : Tracks key (unread ++ [.appeared key]) slot (some endpoint) :=
  .inl (.snoc key unread)

/-- A key that is removed is about to be. -/
theorem removed (key : PeerKey) (unread : List DirectoryEvent) (slot : Option Slot) :
    Tracks key (unread ++ [.removed key]) slot none :=
  .inl (List.mem_append_right _ (List.mem_singleton_self _))

/-- A notice that does not remove the key does no harm. -/
theorem append (h : Tracks key unread slot address) (hne : event ≠ .removed key) :
    Tracks key (unread ++ [event]) slot address := by
  cases address with
  | some endpoint =>
    rcases h with h | ⟨hnot, h⟩
    · exact .inl (h.append hne)
    · refine .inr ⟨fun hmem => ?_, h⟩
      rcases List.mem_append.1 hmem with hmem | hmem
      · exact hnot hmem
      · exact hne (List.mem_singleton.1 hmem).symm
  | none => exact h.imp_left (List.mem_append_left _)

/-! ## Notices being read -/

theorem read_appeared (ticket : Nat) (h : Tracks key (.appeared key :: unread) slot address) :
    Tracks key unread (some (Slot.appear ticket slot)) address := by
  cases address with
  | some endpoint =>
    rcases h with h | ⟨hnot, _⟩
    · rcases h.tail with h | ⟨_, hnot⟩
      · exact .inl h
      · exact .inr ⟨hnot, .appear ticket⟩
    · exact .inr ⟨fun hmem => hnot (List.mem_cons_of_mem _ hmem), .appear ticket⟩
  | none =>
    rcases h with h | h
    · rcases List.mem_cons.1 h with h | h
      · cases h
      · exact .inl h
    · right
      rw [Option.bind_some, Slot.peer?_appear, h]

theorem read_removed (h : Tracks key (.removed key :: unread) slot address) :
    Tracks key unread none address := by
  cases address with
  | some endpoint =>
    rcases h with h | ⟨hnot, _⟩
    · rcases h.tail with h | ⟨he, _⟩
      · exact .inl h
      · cases he
    · exact absurd List.mem_cons_self hnot
  | none => exact .inr rfl

/-- A notice about another key, once read, says nothing about this one. -/
theorem read_other (h : Tracks key (event :: unread) slot address)
    (happeared : event ≠ .appeared key) (hremoved : event ≠ .removed key) :
    Tracks key unread slot address := by
  cases address with
  | some endpoint =>
    rcases h with h | ⟨hnot, h⟩
    · rcases h.tail with h | ⟨he, _⟩
      · exact .inl h
      · exact absurd he happeared
    · exact .inr ⟨fun hmem => hnot (List.mem_cons_of_mem _ hmem), h⟩
  | none =>
    refine h.imp_left fun h => ?_
    rcases List.mem_cons.1 h with h | h
    · exact absurd h.symm hremoved
    · exact h

/-! ## Results -/

/-- The result of a resolution is the address at the time it is read. -/
theorem resolve (ticket : Nat) (hfiled : Filed key slot) (h : Tracks key unread slot address) :
    Tracks key unread (Slot.resolve key ticket address slot) address := by
  cases address with
  | some endpoint => exact h.imp_right fun ⟨hnot, h⟩ => ⟨hnot, h.resolve hfiled⟩
  | none =>
    refine h.imp_right fun h => ?_
    rw [Slot.peer?_resolve_none, h]

/-! ## The beginning and the end -/

/-- The keys replayed to a new watcher are tracked, whatever it knew before was
    given up. -/
theorem replay {present : List PeerKey}
    (hmem : ∀ endpoint, address = some endpoint → key ∈ present) :
    Tracks key (present.map .appeared) none address := by
  cases address with
  | some endpoint =>
    obtain ⟨before, after, rfl⟩ := List.append_of_mem (hmem endpoint rfl)
    refine .inl ⟨before.map .appeared, after.map .appeared, by simp, fun h => ?_⟩
    obtain ⟨_, _, h⟩ := List.mem_map.1 h
    cases h
  | none => exact .inr rfl

/-- When all was read and no result is waited for, the slot tells the address. -/
theorem peer? (h : Tracks key [] slot address) (hw : slot.bind Slot.ticket? = none) :
    slot.bind Slot.peer? = address.map (Peer.located key) := by
  cases address with
  | some endpoint =>
    rcases h with ⟨before, after, h, _⟩ | ⟨_, rfl | h⟩
    · cases before <;> cases h
    · rfl
    · exact absurd hw h
  | none =>
    rcases h with h | h
    · cases h
    · exact h

end Tracks

end ServiceDiscovery
