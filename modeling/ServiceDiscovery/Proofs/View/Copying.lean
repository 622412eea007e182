import ServiceDiscovery.Proofs.View.Lined
import ServiceDiscovery.Proofs.View.Streaming

/-!
# Following a subscription

A network in which one follower brings the events of a subscription into the view: the
subscription goes on with whatever its directory has for it, the follower and the view
take their steps, others ask the view for what it shows, the follower is told to stop or
given up, and anything may happen elsewhere, in any order (`World.Copying`). Nobody else
has the view changed.

Three things hold all along. What the subscription announced was taken or waits to be
(`Streaming`). Every request that the follower put waits in the view or was answered, and
no other request is to change anything (`Lined`). The view copies what was taken
(`View.Copies`).

Main statement: whenever no change waits, the view shows the live peers of the events
taken, but for those of the node's own name, and it published a digest for each event
about another name; and what the follower is answered is that something changed
(`World.Copying.table_eq_fold`).
-/

namespace ServiceDiscovery

/-- What may happen in a network in which a follower brings events into the view. -/
inductive FollowAction
  /-- The subscription goes on, or its directory or the time does. -/
  | browse (action : BrowseAction)
  /-- The follower takes its next step. -/
  | follow
  /-- The view takes its next step. -/
  | work
  /-- Somebody else puts a request to the view, not one for a change. -/
  | ask (request : ViewRequest)
  /-- The follower is told to stop. -/
  | stop

namespace World

/-- The network after an action, if this could happen. -/
def follow? (w : World) (id : Nat) : FollowAction → Option World
  | .browse action => w.browse? id action
  | .follow => w.stepFollower? id
  | .work => w.stepView?
  | .ask request => if request.writes then none else some (w.askView request).1
  | .stop =>
    some { w with followers := w.followers.update id fun f => { f with cancelled := true } }

/-- The event that a follower takes with its next step: it reads, and neither was it given up
    nor does it notice that it was told to stop. -/
def nextEvent? (w : World) (id : Nat) : Option PeerEvent :=
  (w.followers.get? id).bind fun f =>
    if .follower id ∈ w.aborting ∨ f.stage ≠ .reading ∨ f.cancelled then none
    else (w.takeEvent? id).map Prod.fst

/-- The event that is taken in an action. -/
def taken (w : World) (id : Nat) : FollowAction → List PeerEvent
  | .follow => (w.nextEvent? id).toList
  | .browse _ | .work | .ask _ | .stop => []

/-- Anything that happens elsewhere: it does not touch the view, the subscription or its
    follower, and others only take answers that are not for the follower. -/
structure Elsewhere (id : Nat) (w w' : World) : Prop where
  view : w'.view = w.view
  nextAsker : w'.nextAsker = w.nextAsker
  listener : w'.listeners.get? id = w.listeners.get? id
  follower : w'.followers.get? id = w.followers.get? id
  replies : ∀ asker, w'.replies.get? asker ≠ none → w.replies.get? asker ≠ none
  own : ∀ f, w.followers.get? id = some f → ∀ asker, f.stage = .asking asker →
    w'.replies.get? asker = w.replies.get? asker

/-- The networks in which a follower, for a node whose own instance is `own`, may find itself,
    each with the events that it took until then. It begins with a view that nobody asked for
    anything, and a subscription of which no event was taken. -/
inductive Copying (settings : BrowserSettings) (serviceType own : String) (id : Nat) :
    World → List PeerEvent → Prop
  | start {w : World} {l : Listener} : w.view = {} → w.replies = .empty →
      w.listeners.get? id = some l → l.deserted = false →
      l.subscription.Run settings serviceType l.inbox →
      Copying settings serviceType own id (w.setFollower id { ownInstance := own }) []
  | step {w w' : World} {events : List PeerEvent} {action : FollowAction} :
      Copying settings serviceType own id w events → w.follow? id action = some w' →
      Copying settings serviceType own id w' (events ++ w.taken id action)
  | elsewhere {w w' : World} {events : List PeerEvent} :
      Copying settings serviceType own id w events → Elsewhere id w w' →
      Copying settings serviceType own id w' events

theorem askView_of_closed {w : World} {request : ViewRequest} (h : w.view.closed = true) :
    w.askView request = ({ w with nextAsker := w.nextAsker + 1 }, none) := by
  have hask : w.view.ask w.nextAsker request = (w.view, false) := if_pos h
  rw [askView, hask]
  rfl

theorem askView_of_open {w : World} {request : ViewRequest} (h : w.view.closed = false) :
    w.askView request =
      ({ w with
          view := { w.view with requests := w.view.requests ++ [(w.nextAsker, request)] }
          nextAsker := w.nextAsker + 1 }, some w.nextAsker) := by
  have hask : w.view.ask w.nextAsker request =
      ({ w.view with requests := w.view.requests ++ [(w.nextAsker, request)] }, true) :=
    if_neg (ne_true_of_eq_false h)
  rw [askView, hask]
  rfl

/-- The network after a series of actions, and the events taken, if they could happen. -/
def followAll? (w : World) (id : Nat) : List FollowAction → Option (World × List PeerEvent)
  | [] => some (w, [])
  | action :: actions =>
    (w.follow? id action).bind fun w' =>
      (w'.followAll? id actions).map fun (last, events) => (last, w.taken id action ++ events)

theorem Copying.followAll {settings : BrowserSettings} {serviceType own : String} {id : Nat}
    {w w' : World} {events more : List PeerEvent} {actions : List FollowAction}
    (h : Copying settings serviceType own id w events)
    (hw : w.followAll? id actions = some (w', more)) :
    Copying settings serviceType own id w' (events ++ more) := by
  induction actions generalizing w events more with
  | nil =>
    obtain ⟨rfl, rfl⟩ := Prod.mk.inj (Option.some.inj hw)
    rw [List.append_nil]
    exact h
  | cons action actions ih =>
    obtain ⟨w₁, hfirst, hrest⟩ := Option.bind_eq_some_iff.1 hw
    obtain ⟨⟨last, rest⟩, hlast, he⟩ := Option.map_eq_some_iff.1 hrest
    obtain ⟨rfl, rfl⟩ := Prod.mk.inj he
    rw [← List.append_assoc]
    exact ih (h.step hfirst) hlast

/-- What holds of such a network. -/
structure Copied (settings : BrowserSettings) (serviceType own : String) (id : Nat) (w : World)
    (events : List PeerEvent) : Prop where
  streaming : ∃ l, w.listeners.get? id = some l ∧ Streaming settings serviceType events l
  lined : Lined (w.followers.get? id) w.nextAsker w.replies w.view
  copies : w.view.Copies own events
  own : ∀ f, w.followers.get? id = some f → f.ownInstance = own

namespace Copied

variable {settings : BrowserSettings} {serviceType own : String} {id : Nat} {w w' : World}
  {events : List PeerEvent} {l : Listener} {f : Follower}

theorem start (hview : w.view = {}) (hreplies : w.replies = .empty)
    (hl : w.listeners.get? id = some l) (hstays : l.deserted = false)
    (hrun : l.subscription.Run settings serviceType l.inbox) :
    Copied settings serviceType own id (w.setFollower id { ownInstance := own }) [] := by
  have hf : (w.setFollower id { ownInstance := own }).followers.get? id =
      some { ownInstance := own } := Association.get?_put_self ..
  refine ⟨⟨l, hl, ⟨_, hrun, fun _ => rfl⟩, fun hd => ?_⟩, ?_, ?_, fun f he => ?_⟩
  · cases hstays.symm.trans hd
  · rw [hf]
    change Lined _ w.nextAsker w.replies w.view
    rw [hview, hreplies]
    exact .start _ rfl _
  · change w.view.Copies own []
    rw [hview]
    exact .start own
  · obtain rfl := Option.some.inj (hf.symm.trans he)
    rfl

/-- The subscription goes on. -/
theorem resume (h : Copied settings serviceType own id w events)
    (hw : Resumed settings serviceType events id w w') :
    Copied settings serviceType own id w' events := by
  obtain ⟨registry, now, listeners, l, rfl, hl, hstreaming⟩ := hw
  exact ⟨⟨l, hl, hstreaming⟩, h.lined, h.copies, h.own⟩

theorem elsewhere (h : Copied settings serviceType own id w events) (hw : Elsewhere id w w') :
    Copied settings serviceType own id w' events := by
  obtain ⟨l, hl, hstreaming⟩ := h.streaming
  refine ⟨⟨l, hw.listener.trans hl, hstreaming⟩, ?_, ?_, fun f hf => ?_⟩
  · rw [hw.follower, hw.nextAsker, hw.view]
    exact h.lined.others hw.replies hw.own
  · rw [hw.view]
    exact h.copies
  · exact h.own f (hw.follower.symm.trans hf)

/-- The view works a request off. -/
theorem work (h : Copied settings serviceType own id w events) (hw : w.stepView? = some w') :
    Copied settings serviceType own id w' events := by
  obtain ⟨⟨view, answers⟩, hstep, rfl⟩ := Option.map_eq_some_iff.1 hw
  have hopen : w.view.closed = false := by
    refine eq_false_of_ne_true fun hclosed => ?_
    rw [View.step?, h.lined.closed hclosed] at hstep
    cases hstep
  cases View.worked_of_step? hopen hstep with
  | @wrote asker request rest _ changed hrequests hwrites hhandle hopen' hrest =>
    obtain ⟨after, hafter, hcopies⟩ := h.copies.write hopen hrequests hwrites w.step
    obtain ⟨rfl, hreply⟩ := Prod.mk.inj (hafter.symm.trans hhandle)
    obtain rfl := ViewReply.changed.inj (Option.some.inj hreply)
    exact ⟨h.streaming, h.lined.answer hopen hrequests hrest hopen' fun _ => rfl, hcopies, h.own⟩
  | read hrequests hreads =>
    refine ⟨h.streaming, h.lined.answer hopen hrequests rfl hopen fun hwrites => ?_,
      h.copies.read hrequests hreads, h.own⟩
    cases hreads.symm.trans hwrites
  | closed hrequests =>
    exact ⟨h.streaming, h.lined.close hopen hrequests, h.copies.close, h.own⟩

/-- Somebody else asks. -/
theorem ask {request : ViewRequest} (h : Copied settings serviceType own id w events)
    (hreads : request.writes = false) :
    Copied settings serviceType own id (w.askView request).1 events :=
  ⟨h.streaming, h.lined.ask hreads, h.copies.ask _ hreads, h.own⟩

/-- The result of a process is noted. -/
theorem conclude (h : Copied settings serviceType own id w events) (p : Process)
    (result : TaskResult) : Copied settings serviceType own id (w.conclude p result) events := by
  rw [World.conclude]
  split
  · exact h
  · exact ⟨h.streaming, h.lined, h.copies, h.own⟩

/-- The follower goes away. -/
theorem giveUp (h : Copied settings serviceType own id w events) (aborting : List Process) :
    Copied settings serviceType own id
      { w with aborting, followers := w.followers.erase id } events := by
  have hf : (w.followers.erase id).get? id = none := Association.get?_erase_self ..
  refine ⟨h.streaming, ?_, h.copies, fun f he => by cases hf.symm.trans he⟩
  dsimp only
  rw [hf]
  exact h.lined.giveUp

/-- The follower gives the subscription up. -/
theorem desert (h : Copied settings serviceType own id w events) :
    Copied settings serviceType own id (w.desert id) events := by
  obtain ⟨l, hl, hstreaming⟩ := h.streaming
  exact ⟨⟨_, Streaming.get?_desert hl, hstreaming.desert⟩, h.lined, h.copies, h.own⟩

/-- The follower goes on without having asked. -/
theorem move {f' : Follower} (h : Copied settings serviceType own id w events)
    (hf : w.followers.get? id = some f) (hown : f'.ownInstance = f.ownInstance)
    (hstage : ∀ asker, f'.stage = .asking asker ↔ f.stage = .asking asker) :
    Copied settings serviceType own id (w.setFollower id f') events := by
  have hf' : (w.followers.put id f').get? id = some f' := Association.get?_put_self ..
  have hlined := h.lined
  rw [hf] at hlined
  refine ⟨h.streaming, ?_, h.copies, fun g hg => ?_⟩
  · dsimp only [setFollower]
    rw [hf']
    exact hlined.move hstage
  · obtain rfl := Option.some.inj (hf'.symm.trans hg)
    exact hown.trans (h.own f hf)

/-- The follower takes the answer of the view. -/
theorem hear {asker : Nat} (h : Copied settings serviceType own id w events)
    (hf : w.followers.get? id = some f) (hs : f.stage = .asking asker)
    (hreply : w.replies.contains asker = true) :
    Copied settings serviceType own id
      ({ w with replies := w.replies.erase asker }.setFollower id { f with stage := .reading })
      events := by
  have hf' : (w.followers.put id { f with stage := .reading }).get? id =
      some { f with stage := .reading } := Association.get?_put_self ..
  have hlined := h.lined
  rw [hf] at hlined
  refine ⟨h.streaming, ?_, h.copies, fun g hg => ?_⟩
  · dsimp only [setFollower]
    rw [hf']
    exact hlined.hear hs (Option.isSome_iff_ne_none.1 hreply)
  · obtain rfl := Option.some.inj (hf'.symm.trans hg)
    exact h.own f hf

/-- The follower takes an event about the node's own instance. -/
theorem pass {event : PeerEvent} {inbox : List PeerEvent}
    (h : Copied settings serviceType own id w events) (hl : w.listeners.get? id = some l)
    (hinbox : l.inbox = event :: inbox) (hown : event.key.name = own) :
    Copied settings serviceType own id
      { w with listeners := w.listeners.put id { l with inbox } } (events ++ [event]) := by
  obtain ⟨l', hl', hstreaming⟩ := h.streaming
  obtain rfl := Option.some.inj (hl'.symm.trans hl)
  obtain ⟨hstreaming, haccepted⟩ := hstreaming.take hinbox
  exact ⟨⟨_, Association.get?_put_self .., hstreaming⟩, h.lined,
    h.copies.skip haccepted hown, h.own⟩

/-- The follower takes an event about another instance, and puts what it asks for to the
    view. -/
theorem tell {event : PeerEvent} {inbox : List PeerEvent} {request : ViewRequest}
    (h : Copied settings serviceType own id w events) (hf : w.followers.get? id = some f)
    (hs : f.stage = .reading) (hl : w.listeners.get? id = some l)
    (hinbox : l.inbox = event :: inbox) (hrequest : Follower.request? own event = some request) :
    Copied settings serviceType own id
      (match { w with listeners := w.listeners.put id { l with inbox } }.askView request with
      | (w, some asker) => w.setFollower id { f with stage := .asking asker }
      | (w, none) => w)
      (events ++ [event]) := by
  obtain ⟨l', hl', hstreaming⟩ := h.streaming
  obtain rfl := Option.some.inj (hl'.symm.trans hl)
  obtain ⟨hstreaming, haccepted⟩ := hstreaming.take hinbox
  have hcopies := h.copies.tell w.nextAsker haccepted hrequest
  by_cases hclosed : w.view.closed = true
  · rw [askView_of_closed (w := { w with listeners := w.listeners.put id { l' with inbox } })
      hclosed]
    rw [View.ask, if_pos hclosed] at hcopies
    exact ⟨⟨_, Association.get?_put_self .., hstreaming⟩, h.lined.refuse, hcopies, h.own⟩
  · have hopen := eq_false_of_ne_true hclosed
    have hlined := h.lined
    rw [hf] at hlined
    have hf' : (w.followers.put id { f with stage := .asking w.nextAsker }).get? id =
        some { f with stage := .asking w.nextAsker } := Association.get?_put_self ..
    rw [askView_of_open (w := { w with listeners := w.listeners.put id { l' with inbox } }) hopen]
    rw [View.ask, if_neg hclosed] at hcopies
    refine ⟨⟨_, Association.get?_put_self .., hstreaming⟩, ?_, hcopies, fun g hg => ?_⟩
    · dsimp only [setFollower]
      rw [hf']
      exact hlined.tell hopen (fun asker he => by cases hs.symm.trans he)
        (Follower.writes_of_request? hrequest)
    · obtain rfl := Option.some.inj (hf'.symm.trans hg)
      exact h.own f hf

/-- The follower takes its next step. -/
theorem follow (h : Copied settings serviceType own id w events)
    (hw : w.stepFollower? id = some w') :
    Copied settings serviceType own id w' (events ++ (w.nextEvent? id).toList) := by
  obtain ⟨f, hf, hw⟩ := Option.bind_eq_some_iff.1 hw
  obtain ⟨l, hl, hw⟩ := Option.bind_eq_some_iff.1 hw
  obtain rfl := h.own f hf
  rw [nextEvent?, hf, Option.bind_some]
  dsimp only at hw
  have hnone : events ++ (none : Option PeerEvent).toList = events := List.append_nil events
  split at hw
  · rename_i haborting
    obtain rfl := Option.some.inj hw
    rw [if_pos (.inl haborting), hnone]
    exact (h.giveUp _).desert.conclude (.follower id) .aborted
  · rename_i hgoes
    split at hw
    · rename_i hs
      split at hw
      · rename_i hc
        obtain rfl := Option.some.inj hw
        rw [if_pos (.inr (.inr hc)), hnone]
        exact h.move hf rfl fun asker => by simp [hs]
      · rename_i hc
        rw [if_neg (by simp [hgoes, hs, hc])]
        rw [takeEvent?, hl, Option.bind_some] at hw ⊢
        cases hinbox : l.inbox with
        | nil =>
          rw [hinbox] at hw
          dsimp only at hw ⊢
          rw [Option.map_none, hnone]
          split at hw
          · obtain rfl := Option.some.inj hw
            exact h.move hf rfl fun asker => by simp [hs]
          · cases hw
        | cons event inbox =>
          rw [hinbox] at hw
          dsimp only at hw ⊢
          split at hw
          · rename_i hrequest
            obtain rfl := Option.some.inj hw
            exact h.pass hl hinbox (Follower.request?_eq_none_iff.1 hrequest)
          · rename_i request hrequest
            have htell := h.tell hf hs hl hinbox hrequest
            split at hw
            · rename_i hask
              rw [hask] at htell
              obtain rfl := Option.some.inj hw
              exact htell
            · rename_i hask
              rw [hask] at htell
              obtain rfl := Option.some.inj hw
              exact htell
    · rename_i asker hs
      rw [if_pos (.inr (.inl (by simp [hs]))), hnone]
      split at hw
      · rename_i hreply
        obtain rfl := Option.some.inj hw
        exact h.hear hf hs hreply
      · cases hw
    · rename_i hs
      obtain rfl := Option.some.inj hw
      rw [if_pos (.inr (.inl (by simp [hs]))), hnone]
      exact h.desert.move hf rfl fun asker => by simp [hs]
    · rename_i hs
      rw [if_pos (.inr (.inl (by simp [hs]))), hnone]
      split at hw
      · obtain rfl := Option.some.inj hw
        exact (h.giveUp w.aborting).conclude (.follower id) .done
      · cases hw

/-- The follower is told to stop. -/
theorem stop (h : Copied settings serviceType own id w events) :
    Copied settings serviceType own id
      { w with followers := w.followers.update id fun f => { f with cancelled := true } }
      events := by
  have hf' : (w.followers.update id fun f => { f with cancelled := true }).get? id =
      (w.followers.get? id).map fun f => { f with cancelled := true } := by
    rw [Association.get?_update, if_pos rfl]
  refine ⟨h.streaming, ?_, h.copies, fun g hg => ?_⟩
  · dsimp only
    rw [hf']
    have hlined := h.lined
    cases hf : w.followers.get? id with
    | none => exact hlined.giveUp
    | some f =>
      rw [hf] at hlined
      exact hlined.move fun _ => Iff.rfl
  · obtain ⟨f, hf, rfl⟩ := Option.map_eq_some_iff.1 (hf'.symm.trans hg)
    exact h.own f hf

/-- Whatever happens. -/
theorem act {action : FollowAction} (h : Copied settings serviceType own id w events)
    (hw : w.follow? id action = some w') :
    Copied settings serviceType own id w' (events ++ w.taken id action) := by
  have hnone : events ++ [] = events := List.append_nil events
  cases action with
  | follow => exact h.follow hw
  | browse action =>
    obtain ⟨l, hl, hstreaming⟩ := h.streaming
    rw [taken, hnone]
    exact h.resume (hstreaming.browse hl hw)
  | work =>
    rw [taken, hnone]
    exact h.work hw
  | ask request =>
    rw [taken, hnone]
    rw [follow?] at hw
    split at hw
    · cases hw
    · rename_i hreads
      obtain rfl := Option.some.inj hw
      exact h.ask (eq_false_of_ne_true hreads)
  | stop =>
    rw [taken, hnone]
    obtain rfl := Option.some.inj hw
    exact h.stop

end Copied

section

variable {settings : BrowserSettings} {serviceType own : String} {id : Nat} {w w' : World}
  {events : List PeerEvent}

theorem Copying.copied (h : Copying settings serviceType own id w events) :
    Copied settings serviceType own id w events := by
  induction h with
  | start hview hreplies hl hstays hrun => exact .start hview hreplies hl hstays hrun
  | step _ hw ih => exact ih.act hw
  | elsewhere _ hw ih => exact ih.elsewhere hw

/-- None of the events taken is refused. What a follower asked waits in the view, or was
    answered: that something changed, unless the view is closed. And as long as the view is
    open and no change waits, which is so whenever the follower does not wait for an answer,
    the view lists the live peers of the events taken, those of the node's own name excepted,
    each where it was added last; it published a digest of that for each event about another
    name. -/
theorem Copying.table_eq_fold (h : Copying settings serviceType own id w events) :
    ∃ live, LivePeers.ofEvents? events = some live ∧
      (∀ f, w.followers.get? id = some f → ∀ asker, f.stage = .asking asker →
        (∃ request, (asker, request) ∈ w.view.requests) ∨
          w.replies.get? asker = some (.changed true) ∨
          w.view.closed = true ∧ w.replies.get? asker = some .closed) ∧
      (∀ f, w.followers.get? id = some f → (∀ asker, f.stage ≠ .asking asker) →
        ∀ p ∈ w.view.requests, p.2.writes = false) ∧
      (w.view.closed = false → (∀ p ∈ w.view.requests, p.2.writes = false) →
        (∀ key, (w.view.table.entries.get? key).map PeerEntry.place =
          if key.name = own then none else (live.get? key).map Peer.place) ∧
        w.view.publications = (events.filter (·.key.name ≠ own)).length ∧
        w.view.digest = Digest.of w.view.table.all) := by
  have hcopied := h.copied
  obtain ⟨live, hlive⟩ := hcopied.copies.accepted
  refine ⟨live, hlive, hcopied.lined.awaited, fun f hf hidle p hp => ?_, fun hopen hdone => ?_⟩
  · exact eq_false_of_ne_true fun hw => hidle p.1 ((hcopied.lined.writing f hf p.1 p.2 hp).1 hw)
  · obtain ⟨⟨live', hlive', hshows⟩, hcount⟩ := hcopied.copies.shows hopen hdone
    obtain rfl := Option.some.inj (hlive.symm.trans hlive')
    exact ⟨hshows, hcount, hcopied.copies.digest⟩

/-- The node's own instance and another appear, and the other moves, while somebody asks the
    view what it shows. -/
theorem Copying.table_eq_fold_moved :
    let own : PeerKey := ⟨"eth0", .inet, "me", "t", "local"⟩
    let key : PeerKey := ⟨"eth0", .inet, "nas", "t", "local"⟩
    let first : Endpoint := .v4 ⟨10, 0, 0, 5⟩ 9000
    let second : Endpoint := .v4 ⟨10, 0, 0, 6⟩ 9000
    let change (change : PeerChange) : FollowAction := .browse (.change change)
    let listen : FollowAction := .browse (.listen [])
    let actions : List FollowAction :=
      [change (.addPeer own first), change (.addPeer key first), listen, listen, listen, listen,
        .follow, .follow, .ask .all, .work, .work, .follow,
        change (.addPeer key second), listen, listen, .follow, .work, .follow, .follow, .work]
    let w : World := (({} : World).subscribe "t").1.setFollower 0 { ownInstance := "me" }
    let events : List PeerEvent :=
      [.added (.located own first), .added (.located key first), .removed key,
        .added (.located key second)]
    ∃ w', w.followAll? 0 actions = some (w', events) ∧ w'.view.closed = false ∧
      w'.view.requests = [] ∧ (w'.followers.get? 0).map (·.stage) = some (.asking 3) ∧
      w'.replies.get? 3 = some (.changed true) ∧
      ∃ live, LivePeers.ofEvents? events = some live ∧
        (∀ k, (w'.view.table.entries.get? k).map PeerEntry.place =
          if k.name = "me" then none else (live.get? k).map Peer.place) ∧
        w'.view.publications = 3 := by
  intro own key first second change listen actions w events
  have hrun : (w.followAll? 0 actions).any fun after =>
      after.2 = events ∧ after.1.view.closed = false ∧ after.1.view.requests = [] ∧
        (after.1.followers.get? 0).map (·.stage) = some (.asking 3) := by
    decide +kernel
  obtain ⟨⟨w', taken⟩, hw, hfacts⟩ := (Option.any_eq_true ..).1 hrun
  obtain ⟨rfl, hopen, hrequests, hstage⟩ := of_decide_eq_true hfacts
  have hstart : Copying {} "t" "me" 0 w [] := .start rfl rfl rfl rfl .start
  obtain ⟨live, hlive, hanswer, -, hshows⟩ := (hstart.followAll hw).table_eq_fold
  obtain ⟨f, hf, hasking⟩ := Option.map_eq_some_iff.1 hstage
  have hchanged : w'.replies.get? 3 = some (.changed true) := by
    rcases hanswer f hf 3 hasking with ⟨request, hm⟩ | hr | ⟨hc, -⟩
    · rw [hrequests] at hm
      cases hm
    · exact hr
    · cases hopen.symm.trans hc
  have hnone : ∀ p ∈ w'.view.requests, p.2.writes = false := by
    rw [hrequests]
    exact fun p hp => absurd hp List.not_mem_nil
  obtain ⟨htable, hcount, -⟩ := hshows hopen hnone
  exact ⟨w', hw, hopen, hrequests, hstage, hchanged, live, hlive, htable, hcount⟩

end

end World

end ServiceDiscovery
