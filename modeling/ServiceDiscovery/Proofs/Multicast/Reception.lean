import ServiceDiscovery.Proofs.Browsing.Tracks
import ServiceDiscovery.Proofs.Multicast.Feed
import ServiceDiscovery.Proofs.Subscription.LivePeers

/-!
# Receiving what is reported

A subscription watches a browse and looks addresses up in the book behind it
(`Reception`). Reports are put to the relay and worked off, the subscription reads its
stream, its resolutions wait for addresses, and time passes, in any order
(`Reception.Received`).

What is announced is what a subscription announces in a run (`Reception.Received.run`).
-/

namespace ServiceDiscovery

/-- A subscription that watches a browse and looks addresses up in its book. -/
structure Reception where
  feed : Feed
  /-- The stream that the subscription reads. -/
  stream : Nat
  subscription : Subscription
  /-- The waits for addresses, by the tickets of the resolutions. -/
  waits : Association Nat AddressWait := .empty
  /-- The time, in nanoseconds. -/
  now : Nat := 0

/-- What may happen while a subscription receives. -/
inductive ReceptionAction
  | feed (action : FeedAction)
  /-- The next notice of the stream is read. -/
  | read
  /-- A resolution begins to wait for the address of its key. -/
  | ask (ticket : Nat)
  /-- A wait takes its next step; its end is the answer. -/
  | look (ticket : Nat)
  /-- The pause of a resolution is over. -/
  | rest (ticket : Nat)
  /-- A resolution that was told to stop does so. -/
  | stop (ticket : Nat)
  | wait (span : Nat)

/-- The report that an action puts to the relay. -/
def ReceptionAction.reported : ReceptionAction → List SearchEvent
  | feed action => action.reported
  | read | ask _ | look _ | rest _ | stop _ | wait _ => []

namespace Reception

/-- The subscription reacts to a signal, if it waits for it. -/
def signal? (r : Reception) (signal : SubscriptionSignal) : Option (Reception × List PeerEvent) :=
  (r.subscription.step? r.now signal).map fun (subscription, events) =>
    ({ r with subscription }, events)

/-- The subscription reads the next notice of its stream. -/
def read? (r : Reception) : Option (Reception × List PeerEvent) :=
  (r.feed.browse.streams.get? r.stream).bind fun s =>
    match s.unread with
    | [] => none
    | event :: unread =>
      let streams := r.feed.browse.streams.put r.stream { s with unread }
      { r with feed := { r.feed with browse := { r.feed.browse with streams } } }.signal?
        (.event event)

/-- A resolution begins to wait, for so long. -/
def ask? (length : Nat) (r : Reception) (ticket : Nat) : Option (Reception × List PeerEvent) :=
  (r.subscription.resolutions.get? ticket).bind fun q =>
    { r with waits := r.waits.put ticket (.start q.key.fullName r.now length) }.signal?
      (.asked ticket)

/-- The wait of a resolution takes its next step. -/
def look? (r : Reception) (ticket : Nat) : Option (Reception × List PeerEvent) :=
  (r.waits.get? ticket).bind fun wait =>
    (wait.step? r.feed.book r.now).bind fun
      | .inl wait => some ({ r with waits := r.waits.put ticket wait }, [])
      | .inr result =>
        { r with waits := r.waits.erase ticket }.signal? (.answered ticket result)

/-- What an action leads to, and what the subscription announces, if this could happen. The
    subscription does not leave its stream. -/
def act? (length : Nat) (r : Reception) : ReceptionAction → Option (Reception × List PeerEvent)
  | .feed action =>
    if action = .leave r.stream then none
    else (r.feed.act? action).map fun feed => ({ r with feed }, [])
  | .read => r.read?
  | .ask ticket => r.ask? length ticket
  | .look ticket => r.look? ticket
  | .rest ticket => r.signal? (.rested ticket)
  | .stop ticket => { r with waits := r.waits.erase ticket }.signal? (.stopped ticket)
  | .wait span => some ({ r with now := r.now + span }, [])

/-- What a subscription that watches a browse of its type may come to, with the reports that
    were put to the relay and the events that were announced until then. A wait for an
    address lasts so long. -/
inductive Received (settings : BrowserSettings) (length : Nat) (typeDomain interface : String) :
    Reception → List SearchEvent → List PeerEvent → Prop
  /-- The subscription is the first watcher. -/
  | first : Received settings length typeDomain interface
      { feed := { browse := (SharedBrowse.start typeDomain interface).1 }
        stream := (SharedBrowse.start typeDomain interface).2
        subscription := .start settings typeDomain } [] []
  | attached {f : Feed} {browse : SharedBrowse} {stream : Nat} {fed : List SearchEvent} :
      f.Fed typeDomain interface fed → f.browse.attach? = some (browse, stream) →
      Received settings length typeDomain interface
        { feed := { f with browse }, stream, subscription := .start settings typeDomain } fed []
  | step {r r' : Reception} {fed : List SearchEvent} {told out : List PeerEvent}
      {action : ReceptionAction} : Received settings length typeDomain interface r fed told →
      r.act? length action = some (r', out) →
      Received settings length typeDomain interface r' (fed ++ action.reported) (told ++ out)

/-- The reception after a series of actions, if they could happen, and what was announced. -/
def actAll? (length : Nat) (r : Reception) :
    List ReceptionAction → Option (Reception × List PeerEvent)
  | [] => some (r, [])
  | action :: actions =>
    (r.act? length action).bind fun (r', out) =>
      (r'.actAll? length actions).map fun (r'', more) => (r'', out ++ more)

/-- Everything that was reported has been worked off and read, and no resolution is under
    way. -/
structure Settled (r : Reception) : Prop where
  reports : r.feed.relay.reports = []
  chore : r.feed.chore = none
  read : ∀ {s}, r.feed.browse.streams.get? r.stream = some s → s.unread = []
  resolved : ∀ ticket, r.subscription.resolutions.get? ticket = none

variable {settings : BrowserSettings} {length : Nat} {typeDomain interface : String}
  {r r' : Reception} {fed : List SearchEvent} {told out : List PeerEvent}

theorem Received.actAll {actions : List ReceptionAction}
    (h : Received settings length typeDomain interface r fed told)
    (hact : r.actAll? length actions = some (r', out)) :
    Received settings length typeDomain interface r'
      (fed ++ actions.flatMap ReceptionAction.reported) (told ++ out) := by
  induction actions generalizing r fed told out with
  | nil =>
    obtain ⟨rfl, rfl⟩ := Prod.mk.inj (Option.some.inj hact)
    rw [List.flatMap_nil, List.append_nil, List.append_nil]
    exact h
  | cons action actions ih =>
    obtain ⟨⟨r₁, first⟩, hfirst, hrest⟩ := Option.bind_eq_some_iff.1 hact
    obtain ⟨⟨r₂, more⟩, hmore, heq⟩ := Option.map_eq_some_iff.1 hrest
    obtain ⟨rfl, rfl⟩ := Prod.mk.inj heq
    rw [List.flatMap_cons, ← List.append_assoc, ← List.append_assoc]
    exact ih (h.step hfirst) hmore

/-- What an action does. -/
inductive Acts (length : Nat) (r : Reception) :
    ReceptionAction → Reception → List PeerEvent → Prop
  | fed {action : FeedAction} {feed : Feed} : action ≠ .leave r.stream →
      r.feed.act? action = some feed → Acts length r (.feed action) { r with feed } []
  | read {s : BrowseStream} {event : DirectoryEvent} {unread : List DirectoryEvent}
      {subscription : Subscription} {out : List PeerEvent} :
      r.feed.browse.streams.get? r.stream = some s → s.unread = event :: unread →
      r.subscription.step? r.now (.event event) = some (subscription, out) →
      Acts length r .read
        { r with
          feed :=
            { r.feed with
              browse :=
                { r.feed.browse with
                  streams := r.feed.browse.streams.put r.stream { s with unread } } }
          subscription } out
  | asked {ticket : Nat} {q : Resolution} {subscription : Subscription} {out : List PeerEvent} :
      r.subscription.resolutions.get? ticket = some q →
      r.subscription.step? r.now (.asked ticket) = some (subscription, out) →
      Acts length r (.ask ticket)
        { r with
          waits := r.waits.put ticket (.start q.key.fullName r.now length)
          subscription } out
  | looked {ticket : Nat} {wait wait' : AddressWait} : r.waits.get? ticket = some wait →
      wait.step? r.feed.book r.now = some (.inl wait') →
      Acts length r (.look ticket) { r with waits := r.waits.put ticket wait' } []
  | answered {ticket : Nat} {wait : AddressWait} {result : Option Endpoint}
      {subscription : Subscription} {out : List PeerEvent} : r.waits.get? ticket = some wait →
      wait.step? r.feed.book r.now = some (.inr result) →
      r.subscription.step? r.now (.answered ticket result) = some (subscription, out) →
      Acts length r (.look ticket) { r with waits := r.waits.erase ticket, subscription } out
  | rested {ticket : Nat} {subscription : Subscription} {out : List PeerEvent} :
      r.subscription.step? r.now (.rested ticket) = some (subscription, out) →
      Acts length r (.rest ticket) { r with subscription } out
  | stopped {ticket : Nat} {subscription : Subscription} {out : List PeerEvent} :
      r.subscription.step? r.now (.stopped ticket) = some (subscription, out) →
      Acts length r (.stop ticket) { r with waits := r.waits.erase ticket, subscription } out
  | waited (span : Nat) : Acts length r (.wait span) { r with now := r.now + span } []

theorem signal?_eq_some {signal : SubscriptionSignal} (h : r.signal? signal = some (r', out)) :
    ∃ subscription, r.subscription.step? r.now signal = some (subscription, out) ∧
      r' = { r with subscription } := by
  obtain ⟨⟨subscription, events⟩, hstep, he⟩ := Option.map_eq_some_iff.1 h
  obtain ⟨rfl, rfl⟩ := Prod.mk.inj he
  exact ⟨subscription, hstep, rfl⟩

theorem acts_of_act? {action : ReceptionAction} (h : r.act? length action = some (r', out)) :
    Acts length r action r' out := by
  cases action with
  | feed action =>
    obtain ⟨hstays, h⟩ := Option.ite_none_left_eq_some.1 h
    obtain ⟨feed, hfeed, he⟩ := Option.map_eq_some_iff.1 h
    obtain ⟨rfl, rfl⟩ := Prod.mk.inj he
    exact .fed hstays hfeed
  | read =>
    obtain ⟨s, hs, h⟩ := Option.bind_eq_some_iff.1 h
    split at h
    · cases h
    · obtain ⟨subscription, hstep, rfl⟩ := signal?_eq_some h
      exact .read hs ‹_› hstep
  | ask ticket =>
    obtain ⟨q, hq, h⟩ := Option.bind_eq_some_iff.1 h
    obtain ⟨subscription, hstep, rfl⟩ := signal?_eq_some h
    exact .asked hq hstep
  | look ticket =>
    obtain ⟨wait, hwait, h⟩ := Option.bind_eq_some_iff.1 h
    obtain ⟨stepped, hstepped, h⟩ := Option.bind_eq_some_iff.1 h
    cases stepped with
    | inl wait' =>
      obtain ⟨rfl, rfl⟩ := Prod.mk.inj (Option.some.inj h)
      exact .looked hwait hstepped
    | inr result =>
      obtain ⟨subscription, hstep, rfl⟩ := signal?_eq_some h
      exact .answered hwait hstepped hstep
  | rest ticket =>
    obtain ⟨subscription, hstep, rfl⟩ := signal?_eq_some h
    exact .rested hstep
  | stop ticket =>
    obtain ⟨subscription, hstep, rfl⟩ := signal?_eq_some h
    exact .stopped hstep
  | wait span =>
    obtain ⟨rfl, rfl⟩ := Prod.mk.inj (Option.some.inj h)
    exact .waited span

/-- What is announced is what the subscription announces in a run. -/
theorem Received.run (h : Received settings length typeDomain interface r fed told) :
    r.subscription.Run settings typeDomain told := by
  induction h with
  | first | attached => exact .start
  | @step r r' fed told out action _ hact ih =>
    have hnil : told ++ [] = told := List.append_nil told
    cases acts_of_act? hact with
    | fed | looked | waited =>
      rw [hnil]
      exact ih
    | read _ _ hstep | asked _ hstep | answered _ _ hstep | rested hstep | stopped hstep =>
      exact ih.step hstep

end Reception

end ServiceDiscovery
