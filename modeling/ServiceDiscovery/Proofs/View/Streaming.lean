import ServiceDiscovery.Proofs.Browsing.Run
import ServiceDiscovery.Proofs.Subscription.LivePeers

/-!
# A subscription that is read

What a subscription announced was taken by its subscriber or waits to be, in order
(`Streaming`): this stays so whatever the subscription, its directory or the time do
(`Streaming.browse`), and when an event is taken (`Streaming.take`). So none of the events
taken is refused by the live peers before it.
-/

namespace ServiceDiscovery

/-- A listener whose announced events were taken or wait to be, unless its subscriber went
    away. -/
structure Streaming (settings : BrowserSettings) (serviceType : String) (taken : List PeerEvent)
    (l : Listener) : Prop where
  run : ∃ events, l.subscription.Run settings serviceType events ∧
    (l.deserted = false → events = taken ++ l.inbox)
  deserted : l.deserted = true → l.inbox = []

namespace World

variable {w w' : World} {id : Nat} {l : Listener}

/-- A listener that reacts changes in nothing but itself, and gives up gates of the
    directory. -/
theorem eq_of_signalListener? {signal : SubscriptionSignal}
    (h : w.signalListener? id l signal = some w') :
    ∃ registry gates subscription events,
      l.subscription.step? w.now signal = some (subscription, events) ∧
      w' = { w with
        registry
        listeners := w.listeners.put id
          { l with
            subscription
            gates
            inbox := if l.deserted then [] else l.inbox ++ events } } := by
  obtain ⟨⟨subscription, events⟩, hstep, rfl⟩ := Option.map_eq_some_iff.1 h
  exact ⟨_, _, subscription, events, hstep, rfl⟩

end World

/-- Only a listener went on, with its directory and the time. -/
def Resumed (settings : BrowserSettings) (serviceType : String) (taken : List PeerEvent) (id : Nat)
    (w w' : World) : Prop :=
  ∃ registry now listeners l, w' = { w with registry, now, listeners } ∧
    listeners.get? id = some l ∧ Streaming settings serviceType taken l

namespace Streaming

variable {settings : BrowserSettings} {serviceType : String} {taken : List PeerEvent}
  {w w' : World} {id : Nat} {l : Listener}

/-- Whatever a listener reacts to. -/
theorem react {registry : Registry} {signal : SubscriptionSignal}
    (h : Streaming settings serviceType taken l)
    (hs : { w with registry }.signalListener? id l signal = some w') :
    Resumed settings serviceType taken id w w' := by
  obtain ⟨registry, gates, subscription, out, hstep, rfl⟩ := World.eq_of_signalListener? hs
  obtain ⟨events, hrun, hevents⟩ := h.run
  refine ⟨registry, w.now, _, _, rfl, Association.get?_put_self .., ⟨_, hrun.step hstep, ?_⟩, ?_⟩
  · intro hd
    have hd : l.deserted = false := hd
    simp only [hd, Bool.false_eq_true, if_false, hevents hd, List.append_assoc]
  · intro hd
    have hd : l.deserted = true := hd
    simp only [hd, if_true]

theorem stepResolution {ticket : Nat} {r : Resolution} (h : Streaming settings serviceType taken l)
    (hs : w.stepResolution? id l ticket r = some w') :
    Resumed settings serviceType taken id w w' := by
  unfold World.stepResolution? at hs
  split at hs
  · exact h.react hs
  · split at hs
    · have hgates (gates : Association Nat Nat) :
          Streaming settings serviceType taken { l with gates } := ⟨h.run, h.deserted⟩
      dsimp only at hs
      split at hs
      · exact h.react hs
      · exact h.react hs
      · exact (hgates _).react hs
    · obtain ⟨result, -, hs⟩ := Option.bind_eq_some_iff.1 hs
      exact h.react hs
    · exact h.react hs

theorem stepListener {queue : List Process} (h : Streaming settings serviceType taken l)
    (hl : w.listeners.get? id = some l) (hs : w.stepListener? queue id = some w') :
    Resumed settings serviceType taken id w w' := by
  have hstream (stream : Nat) : Streaming settings serviceType taken { l with stream } :=
    ⟨h.run, h.deserted⟩
  unfold World.stepListener? at hs
  rw [hl, Option.bind_some] at hs
  split at hs
  · exact h.react hs
  · split at hs
    · split at hs
      · exact h.react hs
      · exact h.react hs
      · obtain ⟨⟨ticket, r⟩, -, hs⟩ := Option.bind_eq_some_iff.1 hs
        exact h.stepResolution hs
    · exact h.react hs
    · split at hs
      · exact (hstream _).react hs
      · exact h.react hs
    · cases hs

/-- Once its subscriber goes away, nothing waits to be taken. -/
theorem desert (h : Streaming settings serviceType taken l) : Streaming settings serviceType taken
    { l with subscription := l.subscription.cancel, inbox := [], deserted := true } := by
  obtain ⟨events, hrun, -⟩ := h.run
  exact ⟨⟨events, hrun.cancel, nofun⟩, fun _ => rfl⟩

theorem get?_desert (hl : w.listeners.get? id = some l) : (w.desert id).listeners.get? id =
    some { l with subscription := l.subscription.cancel, inbox := [], deserted := true } := by
  rw [World.desert, Association.get?_update, if_pos rfl, hl, Option.map_some]

/-- Whatever the subscription does. -/
theorem browse {action : BrowseAction} (h : Streaming settings serviceType taken l)
    (hl : w.listeners.get? id = some l) (hw : w.browse? id action = some w') :
    Resumed settings serviceType taken id w w' := by
  cases action with
  | change change =>
    obtain rfl := Option.some.inj hw
    exact ⟨_, w.now, w.listeners, l, rfl, hl, h⟩
  | listen queue => exact h.stepListener hl hw
  | poll ticket heeds =>
    rw [World.browse?, hl, Option.bind_some] at hw
    obtain ⟨r, -, hs⟩ := Option.bind_eq_some_iff.1 hw
    exact h.stepResolution hs
  | wait span =>
    obtain rfl := Option.some.inj hw
    exact ⟨w.registry, _, w.listeners, l, rfl, hl, h⟩
  | desert =>
    obtain rfl := Option.some.inj hw
    exact ⟨w.registry, w.now, _, _, rfl, get?_desert hl, h.desert⟩

/-- An event is taken: it is one that the subscription announced. -/
theorem take {event : PeerEvent} {inbox : List PeerEvent}
    (h : Streaming settings serviceType taken l) (hinbox : l.inbox = event :: inbox) :
    Streaming settings serviceType (taken ++ [event]) { l with inbox } ∧
      ∃ live, LivePeers.ofEvents? (taken ++ [event]) = some live := by
  have hstays : l.deserted = false := by
    cases hd : l.deserted with
    | false => rfl
    | true => cases (h.deserted hd).symm.trans hinbox
  obtain ⟨events, hrun, hevents⟩ := h.run
  have hsplit : events = (taken ++ [event]) ++ inbox := by
    rw [hevents hstays, hinbox, List.append_assoc, List.singleton_append]
  refine ⟨⟨⟨events, hrun, fun _ => hsplit⟩, fun hd => ?_⟩, ?_⟩
  · cases hstays.symm.trans hd
  · obtain ⟨live, hlive, -⟩ := hrun.livePeers
    rw [hsplit, LivePeers.ofEvents?, List.foldlM_append] at hlive
    obtain ⟨before, hbefore, -⟩ := Option.bind_eq_some_iff.1 hlive
    exact ⟨before, hbefore⟩

end Streaming

end ServiceDiscovery
