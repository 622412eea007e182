import Mathlib.Logic.Function.Basic
import ServiceDiscovery.Proofs.Subscription.Tickets

/-!
# Keys that do not disturb each other

All keys of a subscription share its slots and its tickets. What becomes of one key is up
to its own appearances, removals and resolutions all the same, and to the resets.

`Subscription.Handled` is whatever the calls of handlers may make of a subscription. A call
for the end of a resolution tells which appearance of the key started it, so that calls of
two runs can be compared although the tickets differ. `KeyRecord` is what the calls that
concern one key come to if there is nothing else: its slot waits for an appearance in place
of a ticket. A run agrees with the record of every key, up to tickets
(`Handled.recorded`), and so do two runs with each other (`Handled.independent`). The runs
of a subscription are among these (`Run.handled`).
-/

namespace ServiceDiscovery

/-- A call of a handler. The end of a resolution names the appearance of the key that
    started it, counted from zero. -/
inductive HandlerCall
  | appeared (key : PeerKey)
  | removed (key : PeerKey)
  | resolved (key : PeerKey) (appearance : Nat) (result : Option Endpoint)
  | reset
  deriving DecidableEq

/-- Whether a call concerns a key. -/
def HandlerCall.concerns (key : PeerKey) : HandlerCall → Bool
  | appeared k | removed k | resolved k _ _ => k = key
  | reset => true

/-- The handlers that were called, and what came of it. -/
structure HandlerLog where
  calls : List HandlerCall := []
  /-- What the appearances of a key started, in order: a resolution with a ticket, or
      nothing. -/
  tickets : PeerKey → List (Option Nat) := fun _ => []
  announced : List PeerEvent := []

/-- The log after one more call, which starts nothing. -/
def HandlerLog.add (log : HandlerLog) (call : HandlerCall) (events : List PeerEvent) :
    HandlerLog :=
  { log with calls := log.calls ++ [call], announced := log.announced ++ events }

/-- The log after one more appearance of a key, which announces nothing. -/
def HandlerLog.addAppearance (log : HandlerLog) (key : PeerKey) (started : Option Nat) :
    HandlerLog :=
  { log with
    calls := log.calls ++ [.appeared key]
    tickets := Function.update log.tickets key (log.tickets key ++ [started]) }

theorem HandlerLog.tickets_addAppearance_self (log : HandlerLog) (key : PeerKey)
    (started : Option Nat) :
    (log.addAppearance key started).tickets key = log.tickets key ++ [started] :=
  Function.update_self ..

theorem HandlerLog.tickets_addAppearance_of_ne (log : HandlerLog) {key k : PeerKey}
    (started : Option Nat) (h : k ≠ key) :
    (log.addAppearance key started).tickets k = log.tickets k :=
  Function.update_of_ne h _ _

namespace Subscription

/-- The ticket of the resolution that an appearance of a key starts, if it does. -/
def startedBy? (s : Subscription) (key : PeerKey) : Option Nat :=
  if (s.onAppeared key).nextTicket = s.nextTicket then none else some s.nextTicket

/-- The subscriptions that the calls of handlers may make of a subscription to
    `serviceType`, each with its log. Between two calls anything may happen that leaves the
    slots and the next ticket as they are. -/
inductive Handled (settings : BrowserSettings) (serviceType : String) :
    Subscription → HandlerLog → Prop
  | start : Handled settings serviceType (start settings serviceType) {}
  | beside {s s' : Subscription} {log : HandlerLog} : Handled settings serviceType s log →
      s'.slots = s.slots → s'.nextTicket = s.nextTicket → Handled settings serviceType s' log
  | appeared {s : Subscription} {log : HandlerLog} (key : PeerKey) :
      Handled settings serviceType s log →
      Handled settings serviceType (s.onAppeared key) (log.addAppearance key (s.startedBy? key))
  | removed {s : Subscription} {log : HandlerLog} (key : PeerKey) :
      Handled settings serviceType s log →
      Handled settings serviceType (s.onRemoved key).1 (log.add (.removed key) (s.onRemoved key).2)
  | resolved {s : Subscription} {log : HandlerLog} {key : PeerKey} {appearance ticket : Nat}
      (result : Option Endpoint) : Handled settings serviceType s log →
      (log.tickets key)[appearance]? = some (some ticket) →
      Handled settings serviceType (s.onResolved key ticket result).1
        (log.add (.resolved key appearance result) (s.onResolved key ticket result).2)
  | reset {s : Subscription} {log : HandlerLog} : Handled settings serviceType s log →
      Handled settings serviceType s.onReset.1 (log.add .reset s.onReset.2)

end Subscription

/-! ## One key by itself -/

namespace Slot

/-- A slot but for its tickets: nothing while it is pending, then its peer, and whether that
    is being refreshed. -/
def outline : Slot → Option (Peer × Bool)
  | pending _ => none
  | live peer refresh => some (peer, refresh.isSome)

/-- A slot that waits for what an appearance started, and one that waits for its ticket. -/
inductive Waits (tickets : List (Option Nat)) : Slot → Slot → Prop
  | pending {n t : Nat} : tickets[n]? = some (some t) → Waits tickets (.pending n) (.pending t)
  | settled {peer : Peer} : Waits tickets (.live peer none) (.live peer none)
  | refreshing {peer : Peer} {n t : Nat} : tickets[n]? = some (some t) →
      Waits tickets (.live peer (some n)) (.live peer (some t))

end Slot

/-- What the calls that concern a key come to, by themselves. -/
structure KeyRecord where
  /-- How often the key appeared. -/
  appearances : Nat := 0
  /-- Its slot, which waits for what an appearance started. -/
  slot : Option Slot := none
  announced : List PeerEvent := []

/-- The record of a key after one more call that concerns it. -/
def KeyRecord.after (key : PeerKey) (r : KeyRecord) : HandlerCall → KeyRecord
  | .appeared _ =>
    { r with appearances := r.appearances + 1, slot := some (Slot.appear r.appearances r.slot) }
  | .removed _ | .reset =>
    { r with slot := none, announced := r.announced ++ Slot.removal key r.slot }
  | .resolved _ appearance result =>
    { r with
      slot := Slot.resolve key appearance result r.slot
      announced := r.announced ++ Slot.news key appearance result r.slot }

/-- The record of a key after calls. -/
def KeyRecord.of (key : PeerKey) (calls : List HandlerCall) : KeyRecord :=
  (calls.filter (HandlerCall.concerns key)).foldl (KeyRecord.after key) {}

/-- The record of a key changes with a call that concerns it. -/
theorem KeyRecord.of_concat (key : PeerKey) (calls : List HandlerCall) (call : HandlerCall) :
    KeyRecord.of key (calls ++ [call]) =
      if call.concerns key then (KeyRecord.of key calls).after key call
      else KeyRecord.of key calls := by
  rw [KeyRecord.of, List.filter_append, List.foldl_append]
  cases hcall : call.concerns key <;> simp [hcall, KeyRecord.of]

/-! ## Slots that agree up to tickets -/

namespace Slot

variable {tickets : List (Option Nat)} {slot slot' : Option Slot}

/-- Slots that agree up to tickets have the same outline. -/
theorem Waits.outline_eq (h : Option.Rel (Waits tickets) slot slot') :
    slot.map outline = slot'.map outline := by
  cases h with
  | none => rfl
  | some h => cases h <;> rfl

theorem Waits.removal_eq (h : Option.Rel (Waits tickets) slot slot') (key : PeerKey) :
    removal key slot = removal key slot' := by
  cases h with
  | none => rfl
  | some h => cases h <;> rfl

/-- Slots go on to agree when the key appears: it starts a resolution if and only if its slot
    does not wait. -/
theorem Waits.appear (h : Option.Rel (Waits tickets) slot slot') (ticket : Nat) :
    Option.Rel
      (Waits (tickets ++ [if slot'.bind ticket? = none then some ticket else none]))
      (some (Slot.appear tickets.length slot)) (some (Slot.appear ticket slot')) := by
  have hold {n t : Nat} {last : Option Nat} (hn : tickets[n]? = some (some t)) :
      (tickets ++ [last])[n]? = some (some t) := by
    rw [List.getElem?_append_left (List.getElem?_eq_some_iff.1 hn).1, hn]
  have hlast : (tickets ++ [some ticket])[tickets.length]? = some (some ticket) := by simp
  cases h with
  | none => exact .some (.pending hlast)
  | some h =>
    cases h with
    | pending hn => exact .some (.pending (hold hn))
    | settled => exact .some (.refreshing hlast)
    | refreshing hn => exact .some (.refreshing (hold hn))

/-- Slots go on to agree when a resolution ends: they wait for it both, or neither does. -/
theorem Waits.resolve (h : Option.Rel (Waits tickets) slot slot') (key : PeerKey)
    (hdistinct : ∀ {n m t : Nat}, tickets[n]? = some (some t) → tickets[m]? = some (some t) → n = m)
    {appearance ticket : Nat} (hstarted : tickets[appearance]? = some (some ticket))
    (result : Option Endpoint) :
    Option.Rel (Waits tickets) (Slot.resolve key appearance result slot)
      (Slot.resolve key ticket result slot') ∧
      news key appearance result slot = news key ticket result slot' := by
  have hsame {n t : Nat} (hn : tickets[n]? = some (some t)) : n = appearance ↔ t = ticket := by
    constructor
    · rintro rfl
      exact Option.some.inj (Option.some.inj (hn.symm.trans hstarted))
    · rintro rfl
      exact hdistinct hn hstarted
  cases h with
  | none => exact ⟨.none, rfl⟩
  | some h =>
    cases h with
    | settled => exact ⟨.some .settled, rfl⟩
    | @pending n t hn =>
      by_cases ht : t = ticket
      · obtain rfl := (hsame hn).2 ht
        subst ht
        cases result with
        | none => exact ⟨by simp [Slot.resolve], by simp [news]⟩
        | some endpoint => exact ⟨by simp [Slot.resolve, Waits.settled], by simp [news]⟩
      · have hne := mt (hsame hn).1 ht
        exact ⟨by simp [Slot.resolve, ht, hne, Waits.pending hn], by simp [news, ht, hne]⟩
    | @refreshing peer n t hn =>
      by_cases ht : t = ticket
      · obtain rfl := (hsame hn).2 ht
        subst ht
        cases result with
        | none => exact ⟨by simp [Slot.resolve, Waits.settled], by simp [news]⟩
        | some endpoint => exact ⟨by simp [Slot.resolve, Waits.settled], by simp [news]⟩
      · have hne := mt (hsame hn).1 ht
        exact ⟨by simp [Slot.resolve, ht, hne, Waits.refreshing hn], by simp [news, ht, hne]⟩

end Slot

/-! ## Handlers, key by key -/

namespace Subscription

variable {s : Subscription} {key : PeerKey}

theorem startedBy?_eq (key : PeerKey) :
    s.startedBy? key =
      if (s.slots.get? key).bind Slot.ticket? = none then some s.nextTicket else none := by
  rw [startedBy?, nextTicket_onAppeared]
  by_cases h : (s.slots.get? key).bind Slot.ticket? = none <;> simp [h]

/-- A ticket is not handed out again. -/
theorem startedBy?_lt {ticket : Nat} (h : s.startedBy? key = some ticket) :
    s.nextTicket = ticket ∧ ticket < (s.onAppeared key).nextTicket := by
  rw [startedBy?_eq] at h
  rw [nextTicket_onAppeared]
  split at h
  · rename_i hfree
    obtain rfl := Option.some.inj h
    rw [if_pos hfree]
    exact ⟨rfl, Nat.lt_succ_self _⟩
  · cases h

theorem nextTicket_onResolved (key : PeerKey) (ticket : Nat) (result : Option Endpoint) :
    (s.onResolved key ticket result).1.nextTicket = s.nextTicket := by
  rw [onResolved_frame]

/-- Of the removals of a reset one is about a key, if its slot is live. -/
theorem filter_removals {slots : List (PeerKey × Slot)} (h : (slots.map Prod.fst).Nodup)
    (key : PeerKey) :
    (removals slots).filter (·.key = key) = Slot.removal key (Association.find slots key) := by
  induction slots with
  | nil => rfl
  | cons b slots ih =>
    obtain ⟨k, slot⟩ := b
    rw [List.map_cons, List.nodup_cons] at h
    have hrest := ih h.2
    by_cases hk : k = key
    · subst hk
      rw [Association.find_eq_none h.1] at hrest
      rw [Association.find, if_pos rfl]
      cases hp : slot.peer? with
      | none => simpa [removals, Slot.removal, hp] using hrest
      | some peer => simpa [removals, Slot.removal, hp, PeerEvent.key] using hrest
    · rw [Association.find, if_neg hk]
      cases hp : slot.peer? with
      | none => simpa [removals, hp] using hrest
      | some peer => simpa [removals, hp, PeerEvent.key, hk] using hrest

/-! ## A run and the record of a key -/

/-- A run agrees with the record of a key. -/
structure Recorded (key : PeerKey) (s : Subscription) (log : HandlerLog) : Prop where
  appearances : (KeyRecord.of key log.calls).appearances = (log.tickets key).length
  slot : Option.Rel (Slot.Waits (log.tickets key)) (KeyRecord.of key log.calls).slot
    (s.slots.get? key)
  announced : log.announced.filter (·.key = key) = (KeyRecord.of key log.calls).announced
  old : ∀ {n t : Nat}, (log.tickets key)[n]? = some (some t) → t < s.nextTicket
  distinct : ∀ {n m t : Nat}, (log.tickets key)[n]? = some (some t) →
    (log.tickets key)[m]? = some (some t) → n = m

namespace Recorded

variable {s' : Subscription} {log log' : HandlerLog} {call : HandlerCall}
  {events : List PeerEvent}

/-- A call that does not concern the key leaves its record alone. -/
theorem other (h : Recorded key s log) (hcalls : log'.calls = log.calls ++ [call])
    (hcall : call.concerns key = false) (hslot : s'.slots.get? key = s.slots.get? key)
    (hnext : s.nextTicket ≤ s'.nextTicket) (htickets : log'.tickets key = log.tickets key)
    (hannounced : log'.announced = log.announced ++ events)
    (hevents : ∀ event ∈ events, event.key ≠ key) : Recorded key s' log' := by
  have hrecord : KeyRecord.of key log'.calls = KeyRecord.of key log.calls := by
    rw [hcalls, KeyRecord.of_concat, hcall, if_neg Bool.false_ne_true]
  have hfilter : events.filter (·.key = key) = [] :=
    List.filter_eq_nil_iff.2 fun event hm => by simpa using hevents event hm
  refine ⟨?_, ?_, ?_, ?_, ?_⟩
  · rw [hrecord, htickets, h.appearances]
  · rw [hrecord, htickets, hslot]
    exact h.slot
  · rw [hrecord, hannounced, List.filter_append, hfilter, List.append_nil, h.announced]
  · intro n t hn
    rw [htickets] at hn
    exact Nat.lt_of_lt_of_le (h.old hn) hnext
  · intro n m t hn hm
    rw [htickets] at hn hm
    exact h.distinct hn hm

/-- A call that concerns the key does to its slot what it does to the record, and announces
    the same. -/
theorem self (h : Recorded key s log) (hcall : call.concerns key = true)
    (happearances : ((KeyRecord.of key log.calls).after key call).appearances =
      (KeyRecord.of key log.calls).appearances)
    (hslot : Option.Rel (Slot.Waits (log.tickets key))
      ((KeyRecord.of key log.calls).after key call).slot (s'.slots.get? key))
    (hannounced : ((KeyRecord.of key log.calls).after key call).announced =
      (KeyRecord.of key log.calls).announced ++ events.filter (·.key = key))
    (hnext : s'.nextTicket = s.nextTicket) : Recorded key s' (log.add call events) := by
  have hrecord : KeyRecord.of key (log.calls ++ [call]) =
      (KeyRecord.of key log.calls).after key call := by
    rw [KeyRecord.of_concat, hcall, if_pos rfl]
  refine ⟨?_, ?_, ?_, ?_, h.distinct⟩
  · rw [HandlerLog.add, hrecord, happearances, h.appearances]
  · rw [HandlerLog.add, hrecord]
    exact hslot
  · rw [HandlerLog.add, hrecord, hannounced, List.filter_append, h.announced]
  · intro n t hn
    rw [hnext]
    exact h.old hn

theorem appeared (h : Recorded key s log) (k : PeerKey) :
    Recorded key (s.onAppeared k) (log.addAppearance k (s.startedBy? k)) := by
  by_cases hk : key = k
  · subst hk
    have hrecord : KeyRecord.of key (log.calls ++ [.appeared key]) =
        (KeyRecord.of key log.calls).after key (.appeared key) := by
      rw [KeyRecord.of_concat, if_pos (by simp [HandlerCall.concerns])]
    -- The ticket of an appearance is newer than those of the appearances before.
    have hsplit {n t : Nat} (hn : (log.tickets key ++ [s.startedBy? key])[n]? = some (some t)) :
        (log.tickets key)[n]? = some (some t) ∨
          n = (log.tickets key).length ∧ s.startedBy? key = some t := by
      rw [List.getElem?_append] at hn
      split at hn
      · exact .inl hn
      · obtain ⟨hlt, he⟩ := List.getElem?_eq_some_iff.1 hn
        rw [List.length_singleton] at hlt
        refine .inr ⟨by omega, ?_⟩
        simpa using he
    have htickets := log.tickets_addAppearance_self key (s.startedBy? key)
    refine ⟨?_, ?_, ?_, ?_, ?_⟩
    · rw [htickets, HandlerLog.addAppearance, hrecord, List.length_append, ← h.appearances]
      rfl
    · rw [htickets, HandlerLog.addAppearance, hrecord, get?_onAppeared, if_pos rfl, startedBy?_eq]
      have hslot := Slot.Waits.appear h.slot s.nextTicket
      rw [← h.appearances] at hslot
      exact hslot
    · rw [HandlerLog.addAppearance, hrecord]
      exact h.announced
    · intro n t hn
      rw [htickets] at hn
      rcases hsplit hn with hn | ⟨-, ht⟩
      · exact Nat.lt_of_lt_of_le (h.old hn) (nextTicket_le_onAppeared key)
      · exact (startedBy?_lt ht).2
    · intro n m t hn hm
      rw [htickets] at hn hm
      rcases hsplit hn with hn | ⟨rfl, ht⟩ <;> rcases hsplit hm with hm | ⟨rfl, ht'⟩
      · exact h.distinct hn hm
      · exact absurd (startedBy?_lt ht').1 (Nat.ne_of_gt (h.old hn))
      · exact absurd (startedBy?_lt ht).1 (Nat.ne_of_gt (h.old hm))
      · rfl
  · refine h.other rfl (decide_eq_false (Ne.symm hk)) ?_
      (nextTicket_le_onAppeared k) (log.tickets_addAppearance_of_ne _ hk)
      (List.append_nil _).symm ?_
    · rw [get?_onAppeared, if_neg hk]
    · intro event hm
      cases hm

theorem removed (h : Recorded key s log) (k : PeerKey) :
    Recorded key (s.onRemoved k).1 (log.add (.removed k) (s.onRemoved k).2) := by
  by_cases hk : key = k
  · subst hk
    refine h.self (by simp [HandlerCall.concerns]) rfl ?_ ?_ (nextTicket_onRemoved key)
    · rw [get?_onRemoved, if_pos rfl]
      exact .none
    · have hself : (Slot.removal key (s.slots.get? key)).filter (·.key = key) =
          Slot.removal key (s.slots.get? key) :=
        List.filter_eq_self.2 fun event hm => decide_eq_true (Slot.key_of_mem_removal hm)
      rw [onRemoved_snd, hself, ← Slot.Waits.removal_eq h.slot]
      rfl
  · refine h.other rfl (decide_eq_false (Ne.symm hk)) ?_
      (Nat.le_of_eq (nextTicket_onRemoved k).symm) rfl rfl fun event hm => ?_
    · rw [get?_onRemoved, if_neg hk]
    · rw [onRemoved_snd] at hm
      rw [Slot.key_of_mem_removal hm]
      exact Ne.symm hk

theorem resolved (h : Recorded key s log) {k : PeerKey} {appearance ticket : Nat}
    (hstarted : (log.tickets k)[appearance]? = some (some ticket)) (result : Option Endpoint) :
    Recorded key (s.onResolved k ticket result).1
      (log.add (.resolved k appearance result) (s.onResolved k ticket result).2) := by
  by_cases hk : key = k
  · subst hk
    obtain ⟨hslot, hnews⟩ := Slot.Waits.resolve h.slot key h.distinct hstarted result
    refine h.self (by simp [HandlerCall.concerns]) rfl ?_ ?_ (nextTicket_onResolved ..)
    · rw [get?_onResolved, if_pos rfl]
      exact hslot
    · have hself : (Slot.news key ticket result (s.slots.get? key)).filter (·.key = key) =
          Slot.news key ticket result (s.slots.get? key) :=
        List.filter_eq_self.2 fun event hm => decide_eq_true (Slot.key_of_mem_news hm)
      rw [onResolved_snd, hself, ← hnews]
      rfl
  · refine h.other rfl (decide_eq_false (Ne.symm hk)) ?_
      (Nat.le_of_eq (nextTicket_onResolved ..).symm) rfl rfl fun event hm => ?_
    · rw [get?_onResolved, if_neg hk]
    · rw [onResolved_snd] at hm
      rw [Slot.key_of_mem_news hm]
      exact Ne.symm hk

theorem reset (h : Recorded key s log) :
    Recorded key s.onReset.1 (log.add .reset s.onReset.2) := by
  refine h.self rfl rfl .none ?_ rfl
  rw [onReset, filter_removals s.slots.distinct, ← Association.get?, ← Slot.Waits.removal_eq h.slot]
  rfl

end Recorded

variable {settings settings' : BrowserSettings} {serviceType serviceType' : String}
  {s' : Subscription} {log log' : HandlerLog}

/-- A run agrees with the record of every key. -/
theorem Handled.recorded (h : Handled settings serviceType s log) (key : PeerKey) :
    Recorded key s log := by
  induction h with
  | start =>
    refine ⟨rfl, .none, rfl, fun hn => ?_, fun hn => ?_⟩ <;> simp at hn
  | beside _ hslots hnext ih =>
    refine ⟨ih.appearances, ?_, ih.announced, ?_, ih.distinct⟩
    · rw [hslots]
      exact ih.slot
    · rw [hnext]
      exact ih.old
  | appeared k _ ih => exact ih.appeared k
  | removed k _ ih => exact ih.removed k
  | resolved result _ hstarted ih => exact ih.resolved hstarted result
  | reset _ ih => exact ih.reset

/-! ## Runs -/

/-- The resolutions under way are among those that appearances of their keys started. -/
def HasStarted (log : HandlerLog) (s : Subscription) : Prop :=
  ∀ {ticket : Nat} {r : Resolution}, s.resolutions.get? ticket = some r →
    some ticket ∈ log.tickets r.key

theorem HasStarted.onAppeared (h : HasStarted log s) (k : PeerKey) :
    HasStarted (log.addAppearance k (s.startedBy? k)) (s.onAppeared k) := by
  intro ticket r hr
  rw [get?_resolutions_onAppeared] at hr
  split at hr
  · rename_i hfree
    obtain rfl := Option.some.inj hr
    rw [HandlerLog.tickets_addAppearance_self, startedBy?_eq, if_pos hfree.2, hfree.1]
    exact List.mem_append_right _ List.mem_cons_self
  · by_cases hk : r.key = k
    · subst hk
      rw [HandlerLog.tickets_addAppearance_self]
      exact List.mem_append_left _ (h hr)
    · rw [HandlerLog.tickets_addAppearance_of_ne _ _ hk]
      exact h hr

/-- A move calls at most one handler, with what it announces. -/
theorem Move.handled {now : Nat} {signal : SubscriptionSignal}
    {after : Subscription × List PeerEvent} (hmove : Move s now signal after)
    (h : Handled settings serviceType s log) (hstarted : HasStarted log s) :
    ∃ log', Handled settings serviceType after.1 log' ∧
      log'.announced = log.announced ++ after.2 ∧ HasStarted log' after.1 := by
  have hconclude {ticket : Nat} {r : Resolution} (hr : s.resolutions.get? ticket = some r)
      (result : Option Endpoint) :
      ∃ log', Handled settings serviceType (s.conclude ticket r.key result).1 log' ∧
        log'.announced = log.announced ++ (s.conclude ticket r.key result).2 ∧
        HasStarted log' (s.conclude ticket r.key result).1 := by
    obtain ⟨appearance, hn⟩ := List.getElem?_of_mem (hstarted hr)
    have hended : Handled settings serviceType (s.endResolution ticket) log := h.beside rfl rfl
    refine ⟨_, hended.resolved result hn, rfl, fun {t q} hq => ?_⟩
    rw [conclude_frame, Association.get?_erase] at hq
    split at hq
    · cases hq
    · exact hstarted hq
  cases hmove with
  | stop => exact ⟨log, h.beside rfl rfl, (List.append_nil _).symm, fun hr => nomatch hr⟩
  | appeared key => exact ⟨_, h.appeared key, (List.append_nil _).symm, hstarted.onAppeared key⟩
  | removed key =>
    refine ⟨_, h.removed key, rfl, fun {t r} hr => ?_⟩
    rw [get?_resolutions_onRemoved] at hr
    split at hr
    · obtain ⟨q, hq, rfl⟩ := Option.map_eq_some_iff.1 hr
      have hm := hstarted hq
      exact hm
    · exact hstarted hr
  | lose =>
    refine ⟨_, h.reset.beside ?_ ?_, rfl, fun {t r} hr => ?_⟩
    · rw [lose_fst, slots_pause, onReset]
    · rw [lose_fst, nextTicket_pause, onReset]
    · rw [lose_fst, resolutions_pause] at hr
      cases hr
  | @progress _ ticket q _ _ hq _ hk =>
    refine ⟨log, h.beside rfl rfl, (List.append_nil _).symm, fun {t r} hr => ?_⟩
    rw [setResolution, Association.get?_put] at hr
    split at hr
    · rename_i ht
      obtain rfl := Option.some.inj hr
      rw [hk, ht]
      exact hstarted hq
    · exact hstarted hr
  | answered _ hr => exact hconclude hr _
  | stopped _ hr => exact hconclude hr none
  | call | accepted => exact ⟨log, h.beside rfl rfl, (List.append_nil _).symm, hstarted⟩
  | refused =>
    refine ⟨log, h.beside (slots_pause now) (nextTicket_pause now), (List.append_nil _).symm,
      fun {t r} hr => ?_⟩
    rw [resolutions_pause] at hr
    exact hstarted hr

/-- A run of a subscription is a series of calls of its handlers: what they announce is what
    the run announces. -/
theorem Run.handled {events : List PeerEvent} (h : Run settings serviceType s events) :
    ∃ log, Handled settings serviceType s log ∧ log.announced = events ∧ HasStarted log s := by
  induction h with
  | start => exact ⟨{}, .start, rfl, fun hr => nomatch hr⟩
  | step _ hstep ih =>
    obtain ⟨log, h, rfl, hstarted⟩ := ih
    obtain ⟨log', h', hannounced, hstarted'⟩ := (Move.of_step? hstep).handled h hstarted
    exact ⟨log', h', hannounced, hstarted'⟩
  | cancel _ ih =>
    obtain ⟨log, h, hannounced, hstarted⟩ := ih
    exact ⟨log, h.beside rfl rfl, hannounced, hstarted⟩

/-! ## Independence -/

/-- Two runs in which the calls that concern a key are the same announce the same of it, and
    in the end its slot is the same but for the ticket it waits for: none, pending, or live
    with the same peer, and being refreshed in both or in neither. What other keys do in the
    two runs, and when, does not matter. -/
theorem Handled.independent (h : Handled settings serviceType s log)
    (h' : Handled settings' serviceType' s' log') (key : PeerKey)
    (hcalls : log.calls.filter (HandlerCall.concerns key) =
      log'.calls.filter (HandlerCall.concerns key)) :
    log.announced.filter (·.key = key) = log'.announced.filter (·.key = key) ∧
      (s.slots.get? key).map Slot.outline = (s'.slots.get? key).map Slot.outline := by
  have hrecord : KeyRecord.of key log.calls = KeyRecord.of key log'.calls := by
    rw [KeyRecord.of, hcalls, KeyRecord.of]
  have hs := h.recorded key
  have hs' := h'.recorded key
  constructor
  · rw [hs.announced, hrecord, hs'.announced]
  · rw [← Slot.Waits.outline_eq hs.slot, hrecord, Slot.Waits.outline_eq hs'.slot]

/-- A key appears, is found, and appears again, once after a key that is removed meanwhile,
    once beside a key that is given up. The tickets differ. -/
theorem Handled.independent_interleaved :
    let key : PeerKey := ⟨"eth0", .inet, "nas", "t", "local"⟩
    let other : PeerKey := ⟨"eth0", .inet, "tv", "t", "local"⟩
    let endpoint : Endpoint := .v4 ⟨10, 0, 0, 5⟩ 9000
    ∃ s s' log log', Handled {} "t" s log ∧ Handled {} "t" s' log' ∧
      log.calls = [.appeared other, .appeared key, .removed other,
        .resolved key 0 (some endpoint), .appeared key] ∧
      log'.calls = [.appeared key, .appeared other, .resolved other 0 none,
        .resolved key 0 (some endpoint), .appeared other, .appeared key] ∧
      log.tickets key = [some 1, some 2] ∧ log'.tickets key = [some 0, some 3] ∧
      log.announced.filter (·.key = key) = log'.announced.filter (·.key = key) ∧
      (s.slots.get? key).map Slot.outline = (s'.slots.get? key).map Slot.outline := by
  intro key other endpoint
  have h : ∃ s log, Handled {} "t" s log ∧ log.calls = [.appeared other, .appeared key,
      .removed other, .resolved key 0 (some endpoint), .appeared key] ∧
      log.tickets key = [some 1, some 2] :=
    ⟨_, _, ((((Handled.start.appeared other).appeared key).removed other).resolved
      (some endpoint) (show _ = some (some 1) from rfl)).appeared key, rfl, rfl⟩
  have h' : ∃ s log, Handled {} "t" s log ∧ log.calls = [.appeared key, .appeared other,
      .resolved other 0 none, .resolved key 0 (some endpoint), .appeared other, .appeared key] ∧
      log.tickets key = [some 0, some 3] :=
    ⟨_, _, (((((Handled.start.appeared key).appeared other).resolved none
      (show _ = some (some 1) from rfl)).resolved (some endpoint)
      (show _ = some (some 0) from rfl)).appeared other).appeared key, rfl, rfl⟩
  obtain ⟨s, log, h, hcalls, htickets⟩ := h
  obtain ⟨s', log', h', hcalls', htickets'⟩ := h'
  refine ⟨s, s', log, log', h, h', hcalls, hcalls', htickets, htickets', ?_⟩
  exact h.independent h' key (by rw [hcalls, hcalls']; rfl)

end Subscription

end ServiceDiscovery
