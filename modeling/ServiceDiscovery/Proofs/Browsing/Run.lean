import ServiceDiscovery.Proofs.Browsing.Informed
import ServiceDiscovery.Scenario.World

/-!
# Browsing a directory

A network in which one listener browses: it subscribed to a service type, and
from then on its steps, the polls of its resolutions, changes of the directory,
the passing of time and the reading of events come in any order
(`World.Browsing`).

A listener is *settled* if nothing is left for it to do (`World.Settled`): it
watches, has read its stream, and waits for no resolution. The events that were
delivered until then add up to the addresses that the directory holds for the
present keys of the type (`World.Browsing.fold_eq_addresses`). A notice that is
dropped because a result for its key is waited for is never missed, since that
result is read off the address later (`Tracks`).
-/

namespace ServiceDiscovery

/-- What may happen in a network in which a listener browses. -/
inductive BrowseAction
  /-- The directory changes. -/
  | change (change : PeerChange)
  /-- The listener takes its next step. -/
  | listen (queue : List Process)
  /-- A resolution of the listener takes its next step, whether the listener has
      read its stream or not; it may or may not heed that it was told to stop. -/
  | poll (ticket : Nat) (heeds : Bool)
  | wait (span : Nat)
  /-- The subscriber goes away. -/
  | desert

namespace World

/-- The network after an action, if this could happen. -/
def browse? (w : World) (id : Nat) : BrowseAction → Option World
  | .change change => some { w with registry := w.registry.apply change }
  | .listen queue => w.stepListener? queue id
  | .poll ticket heeds =>
    (w.listeners.get? id).bind fun l =>
      (l.subscription.resolutions.get? ticket).bind fun r =>
        w.stepResolution? id l ticket (if heeds then r else { r with cancelled := false })
  | .wait span => some { w with now := w.now + span }
  | .desert => some (w.desert id)

/-- The networks in which a listener that subscribed to `serviceType` may find
    itself, each with the events that its subscriber took until then. -/
inductive Browsing (settings : BrowserSettings) (serviceType : String) (id : Nat) :
    World → List PeerEvent → Prop
  | subscribe {changes : List PeerChange} {w : World} :
      ({ browserSettings := settings
         registry := changes.foldl Registry.apply {} } : World).subscribe serviceType =
        (w, .ok id) →
      Browsing settings serviceType id w []
  | step {w w' : World} {taken : List PeerEvent} {action : BrowseAction} :
      Browsing settings serviceType id w taken → w.browse? id action = some w' →
      Browsing settings serviceType id w' taken
  | take {w w' : World} {taken : List PeerEvent} {event : PeerEvent} :
      Browsing settings serviceType id w taken → w.takeEvent? id = some (event, w') →
      Browsing settings serviceType id w' (taken ++ [event])

/-- The network after a series of actions, if they could happen. -/
def browseAll? (w : World) (id : Nat) : List BrowseAction → Option World
  | [] => some w
  | action :: actions => (w.browse? id action).bind fun w => w.browseAll? id actions

theorem Browsing.browseAll {settings : BrowserSettings} {serviceType : String} {id : Nat}
    {w w' : World} {taken : List PeerEvent} {actions : List BrowseAction}
    (h : Browsing settings serviceType id w taken) (hw : w.browseAll? id actions = some w') :
    Browsing settings serviceType id w' taken := by
  induction actions generalizing w with
  | nil =>
    obtain rfl := Option.some.inj hw
    exact h
  | cons action actions ih =>
    obtain ⟨w₁, hfirst, hrest⟩ := Option.bind_eq_some_iff.1 hw
    exact ih (h.step hfirst) hrest

/-- Nothing is left to do for a listener that was not told to stop: it watches,
    has read its stream, and no resolution is under way. -/
structure Settled (w : World) (id : Nat) (l : Listener) : Prop where
  listener : w.listeners.get? id = some l
  cancelled : l.subscription.cancelled = false
  listening : l.subscription.phase = .listening
  read : (w.registry.receive l.stream).2 = .waiting
  resolved : ∀ ticket, l.subscription.resolutions.get? ticket = none

/-! ## Gates -/

variable {w w' : World} {id : Nat} {l : Listener}

theorem settleGates_of_empty (hg : l.gates = .empty) :
    w.settleGates id l = { w with listeners := w.listeners.put id l } := by
  obtain ⟨subscription, stream, gates, inbox, deserted⟩ := l
  obtain rfl : gates = .empty := hg
  rfl

/-- A listener without gates that reacts changes in nothing but itself. -/
theorem signalListener?_eq_some {signal : SubscriptionSignal}
    (h : w.signalListener? id l signal = some w') (hg : l.gates = .empty) :
    ∃ subscription events, l.subscription.step? w.now signal = some (subscription, events) ∧
      w' = { w with
        listeners := w.listeners.put id
          { l with
            subscription
            inbox := if l.deserted then [] else l.inbox ++ events } } := by
  obtain ⟨⟨subscription, events⟩, hstep, rfl⟩ := Option.map_eq_some_iff.1 h
  exact ⟨subscription, events, hstep, settleGates_of_empty hg⟩

/-- What goes on next is a resolution under way. -/
theorem nextResolution?_eq_some {queue : List Process} {ticket : Nat} {r : Resolution}
    (h : w.nextResolution? queue id l = some (ticket, r)) :
    l.subscription.resolutions.get? ticket = some r := by
  rw [nextResolution?, Option.orElse_eq_orElse, Option.orElse_eq_or] at h
  rcases Option.or_eq_some_iff.1 h with h | ⟨-, h⟩
  · -- The queue only names resolutions that there still are.
    obtain ⟨p, -, hp⟩ := List.exists_of_findSome?_eq_some (Option.filter_eq_some_iff.1 h).1
    split at hp
    · split at hp
      · obtain ⟨q, hq, he⟩ := Option.map_eq_some_iff.1 hp
        obtain ⟨rfl, rfl⟩ := Prod.mk.inj he
        exact hq
      · cases hp
    · cases hp
  · have hmem := List.mem_of_mem_head? h
    exact l.subscription.resolutions.mem_bindings_iff.1 (List.mem_filter.1 hmem).1

/-! ## Steps -/

/-- What a listener and the network around it are like as long as it browses. -/
structure Browsed (settings : BrowserSettings) (serviceType : String) (w : World)
    (taken : List PeerEvent) (l : Listener) : Prop where
  gates : l.gates = .empty
  /-- Unless its subscriber went away, all that was announced was taken or waits
      to be. -/
  run : ∃ events, l.subscription.Run settings serviceType events ∧
    (l.deserted = false → events = taken ++ l.inbox)
  deserted : l.deserted = true → l.subscription.cancelled = true
  unscripted : w.registry.Unscripted
  informed : Informed w.registry l.stream l.subscription

/-- The listener of a number browses. -/
def Browses (settings : BrowserSettings) (serviceType : String) (id : Nat) (w : World)
    (taken : List PeerEvent) : Prop :=
  ∃ l, w.listeners.get? id = some l ∧ Browsed settings serviceType w taken l

section

variable {settings : BrowserSettings} {serviceType : String} {taken : List PeerEvent}
  {registry : Registry} {stream : Nat} {signal : SubscriptionSignal}

/-- A listener that reacts to its directory goes on browsing. -/
theorem Browsed.react (h : Browsed settings serviceType w taken l)
    (hr : Reaction w.registry l.stream l.subscription registry stream signal)
    (hs : { w with registry }.signalListener? id { l with stream } signal = some w') :
    Browses settings serviceType id w' taken := by
  obtain ⟨subscription, out, hstep, rfl⟩ := signalListener?_eq_some hs h.gates
  have hmove := Subscription.Move.of_step? hstep
  obtain ⟨events, hrun, hevents⟩ := h.run
  refine ⟨_, Association.get?_put_self .., h.gates, ⟨_, hrun.step hstep, fun hd => ?_⟩,
    fun hd => ?_, hr.unscripted h.unscripted, h.informed.react h.unscripted hrun hr hmove⟩
  · have hd : l.deserted = false := hd
    simp only [hd, Bool.false_eq_true, if_false, hevents hd, List.append_assoc]
  · exact hmove.same.2.trans (h.deserted hd)

theorem Browsed.stepResolution {ticket : Nat} {r : Resolution} (cancelled : Bool)
    (h : Browsed settings serviceType w taken l)
    (hr : l.subscription.resolutions.get? ticket = some r)
    (hs : w.stepResolution? id l ticket { r with cancelled } = some w') :
    Browses settings serviceType id w' taken := by
  unfold stepResolution? at hs
  split at hs
  · exact h.react (.stopped ticket) hs
  · dsimp only at hs
    split at hs
    · have hanswer : Reaction w.registry l.stream l.subscription (w.registry.resolve r.key).1
          l.stream (.answered ticket (w.registry.addresses.get? r.key)) := .answered hr
      rw [h.unscripted.resolve_eq] at hs hanswer
      cases ha : w.registry.addresses.get? r.key <;> rw [ha] at hs hanswer
      · exact h.react hanswer hs
      · exact h.react hanswer hs
    · -- Without gates no resolution waits at one.
      obtain ⟨result, hanswer, -⟩ := Option.bind_eq_some_iff.1 hs
      rw [gateAnswer?, h.gates, Association.get?_empty] at hanswer
      cases hanswer
    · exact h.react (.rested ticket) hs

theorem Browsed.stepListener {queue : List Process} (h : Browsed settings serviceType w taken l)
    (hl : w.listeners.get? id = some l) (hs : w.stepListener? queue id = some w') :
    Browses settings serviceType id w' taken := by
  unfold stepListener? at hs
  rw [hl, Option.bind_some] at hs
  split at hs
  · exact h.react .cancelled hs
  · split at hs
    · split at hs
      · exact h.react (.read ‹_›) hs
      · obtain rfl := Registry.receive_ended ‹_›
        exact h.react .lost hs
      · obtain ⟨⟨ticket, r⟩, hnext, hs⟩ := Option.bind_eq_some_iff.1 hs
        exact h.stepResolution r.cancelled (nextResolution?_eq_some hnext) hs
    · exact h.react .expired hs
    · split at hs
      · exact h.react (.accepted ‹_›) hs
      · exact h.react (.refused ‹_›) hs
    · cases hs

/-- Whatever happens, a listener that browses goes on browsing. -/
theorem Browses.browse {action : BrowseAction} (h : Browses settings serviceType id w taken)
    (hw : w.browse? id action = some w') : Browses settings serviceType id w' taken := by
  obtain ⟨l, hl, h⟩ := h
  cases action with
  | change change =>
    obtain rfl := Option.some.inj hw
    exact ⟨l, hl, { h with
      unscripted := h.unscripted.apply change
      informed := h.informed.apply change }⟩
  | listen queue => exact h.stepListener hl hw
  | poll ticket heeds =>
    rw [browse?, hl, Option.bind_some] at hw
    obtain ⟨r, hr, hs⟩ := Option.bind_eq_some_iff.1 hw
    cases heeds with
    | true => exact h.stepResolution r.cancelled hr hs
    | false => exact h.stepResolution false hr hs
  | wait span =>
    obtain rfl := Option.some.inj hw
    exact ⟨l, hl, h.gates, h.run, h.deserted, h.unscripted, h.informed⟩
  | desert =>
    obtain rfl := Option.some.inj hw
    obtain ⟨events, hrun, -⟩ := h.run
    have hget : (w.desert id).listeners.get? id = some
        { l with subscription := l.subscription.cancel, inbox := [], deserted := true } := by
      rw [desert, Association.get?_update, if_pos rfl, hl, Option.map_some]
    exact ⟨_, hget, h.gates, ⟨events, hrun.cancel, fun hd => by cases hd⟩, fun _ => rfl,
      h.unscripted, ⟨h.informed.slots, h.informed.notices, h.informed.idle, h.informed.tracks⟩⟩

/-- An event that is taken still counts as announced. -/
theorem Browses.take {event : PeerEvent} (h : Browses settings serviceType id w taken)
    (hw : w.takeEvent? id = some (event, w')) :
    Browses settings serviceType id w' (taken ++ [event]) := by
  obtain ⟨l, hl, h⟩ := h
  rw [takeEvent?, hl, Option.bind_some] at hw
  split at hw
  · rename_i first inbox hinbox
    obtain ⟨rfl, rfl⟩ := Prod.mk.inj (Option.some.inj hw)
    obtain ⟨events, hrun, hevents⟩ := h.run
    refine ⟨_, Association.get?_put_self .., h.gates, ⟨events, hrun, fun hd => ?_⟩, h.deserted,
      h.unscripted, h.informed⟩
    rw [hevents hd, hinbox, List.append_assoc, List.singleton_append]
  · cases hw

/-- A new listener browses. -/
theorem Browses.start {r : Registry} (hu : r.Unscripted)
    (h : ({ browserSettings := settings, registry := r } : World).subscribe serviceType =
      (w, .ok id)) : Browses settings serviceType id w [] := by
  unfold subscribe at h
  split at h
  · cases (Prod.mk.inj h).2
  · split at h
    · cases (Prod.mk.inj h).2
    · rename_i registry stream hwatch
      obtain ⟨rfl, hid⟩ := Prod.mk.inj h
      obtain rfl := Except.ok.inj hid
      have hunscripted : registry.Unscripted := by
        obtain ⟨_, rfl⟩ := Registry.watch_ok hwatch
        exact hu.congr rfl rfl rfl
      exact ⟨_, Association.get?_put_self .., rfl, ⟨[], .start, fun _ => rfl⟩,
        Bool.noConfusion, hunscripted, .watching hu hwatch rfl rfl⟩

/-- Every listener of a run browses. -/
theorem Browsing.browses (h : Browsing settings serviceType id w taken) :
    Browses settings serviceType id w taken := by
  induction h with
  | subscribe hw => exact .start (.applyAll .empty) hw
  | step _ hw ih => exact ih.browse hw
  | take _ hw ih => exact ih.take hw

/-! ## Settled listeners -/

/-- Once a listener is settled, a slot tells where the directory has its key. -/
theorem Browsed.peer?_eq (h : Browsed settings serviceType w taken l) (hs : w.Settled id l)
    (key : PeerKey) :
    l.subscription.peer? key =
      if key.serviceType = serviceType ∧ key ∈ w.registry.present then
        (w.registry.addresses.get? key).map (Peer.located key)
      else none := by
  obtain ⟨events, hrun, -⟩ := h.run
  have htype : l.subscription.serviceType = serviceType := hrun.serviceType_eq
  obtain ⟨stream, hstream, hconnected, hunread⟩ := Registry.receive_waiting hs.read
  have hticketed := hrun.ticketed (hs.listening ▸ fun he => by cases he)
  have hidle : (l.subscription.slots.get? key).bind Slot.ticket? = none := by
    rw [Option.eq_none_iff_forall_ne_some]
    intro ticket hw
    have hwaits : l.subscription.waitsFor? key = some ticket := hw
    obtain ⟨r, hr, -⟩ := hticketed.running hwaits
    rw [hs.resolved] at hr
    cases hr
  by_cases hkey : key.serviceType = serviceType
  · have htracks := h.informed.tracks hs.listening hstream hconnected (hkey.trans htype.symm)
    rw [hunread] at htracks
    rw [Subscription.peer?, htracks.peer? hidle]
    split
    · rfl
    · rename_i hnot
      cases ha : w.registry.addresses.get? key with
      | none => rfl
      | some endpoint => exact absurd ⟨hkey, h.unscripted.present ha⟩ hnot
  · rw [if_neg fun hboth => hkey hboth.1, Option.eq_none_iff_forall_ne_some]
    intro peer hpeer
    obtain ⟨refresh, hslot⟩ := Subscription.peer?_eq_some_iff.1 hpeer
    exact hkey ((h.informed.slots hslot).trans htype)

/-- Whenever a listener is settled, the events delivered to its subscriber, taken
    or not, add up to the addresses that the directory has for the present keys
    of the type, and to nothing else. -/
theorem Browsing.fold_eq_addresses (h : Browsing settings serviceType id w taken)
    (hs : w.Settled id l) :
    ∃ live, LivePeers.ofEvents? (taken ++ l.inbox) = some live ∧
      ∀ key, live.get? key =
        if key.serviceType = serviceType ∧ key ∈ w.registry.present then
          (w.registry.addresses.get? key).map (Peer.located key)
        else none := by
  obtain ⟨l', hl, h⟩ := h.browses
  rw [hs.listener] at hl
  obtain rfl := Option.some.inj hl
  obtain ⟨events, hrun, hevents⟩ := h.run
  have hstays : l.deserted = false := by
    cases hd : l.deserted with
    | false => rfl
    | true =>
      cases (h.deserted hd).symm.trans hs.cancelled
  obtain ⟨live, hlive, hget⟩ := hrun.livePeers
  rw [hevents hstays] at hlive
  exact ⟨live, hlive, fun key => (hget key).trans (h.peer?_eq hs key)⟩

/-- A peer that moves while it is looked for, so that its appearance is dropped,
    and that is found again after a restart and a refusal. -/
theorem Browsing.fold_eq_addresses_moved :
    let key : PeerKey := ⟨"eth0", .inet, "nas", "t", "local"⟩
    let first : Endpoint := .v4 ⟨10, 0, 0, 5⟩ 9000
    let second : Endpoint := .v4 ⟨10, 0, 0, 6⟩ 9000
    let actions : List BrowseAction :=
      [.listen [], .change (.addPeer key second), .listen [], .listen [], .change .restart,
        .change (.failWatches 1), .listen [], .wait (10000000000), .listen [], .listen [],
        .wait (10000000000), .listen [], .listen [], .listen [], .poll 1 true]
    let w : World := { registry := [.addPeer key first].foldl Registry.apply {} }
    let w₀ := (w.subscribe "t").1
    ∃ w₁ w₂ l, w.subscribe "t" = (w₀, .ok 0) ∧ w₀.browseAll? 0 actions = some w₁ ∧
      w₁.takeEvent? 0 = some (.added (.located key second), w₂) ∧ w₂.Settled 0 l ∧
      ∃ live, LivePeers.ofEvents? (.added (.located key second) :: l.inbox) = some live ∧
        ∀ k, live.get? k =
          if k.serviceType = "t" ∧ k ∈ w₂.registry.present then
            (w₂.registry.addresses.get? k).map (Peer.located k)
          else none := by
  intro key first second actions w w₀
  have hactions : ∃ w₁ w₂ l, w₀.browseAll? 0 actions = some w₁ ∧
      w₁.takeEvent? 0 = some (.added (.located key second), w₂) ∧ w₂.Settled 0 l := by
    revert key first second actions w w₀
    exact ⟨_, _, _, rfl, rfl, ⟨rfl, rfl, rfl, rfl, fun _ => rfl⟩⟩
  have hsubscribe : w.subscribe "t" = (w₀, .ok 0) := rfl
  obtain ⟨w₁, w₂, l, hw, htake, hs⟩ := hactions
  have hbrowsing : Browsing {} "t" 0 w₂ [.added (.located key second)] :=
    ((Browsing.subscribe hsubscribe).browseAll hw).take htake
  exact ⟨w₁, w₂, l, hsubscribe, hw, htake, hs, hbrowsing.fold_eq_addresses hs⟩

end

end World

end ServiceDiscovery
