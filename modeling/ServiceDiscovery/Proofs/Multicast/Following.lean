import ServiceDiscovery.Proofs.Multicast.Reception

/-!
# Following what is reported

`Reception.Followed` is what holds of a subscription that receives, whatever happens
next (`Reception.Followed.acts`). Its notices, what its relay has left to tell and its
slots lead to the addresses in the book.

A notice that is dropped because a result for its key is waited for is not missed: the
book was changed before the notice was sent, so that the result is read off the new
entry. A wait that ends without a result missed no entry, or only one that the stream
does not tell of yet (`Reception.Followed.answer_eq`).
-/

namespace ServiceDiscovery

/-- Whether a key is that of an instance of a type, seen on an interface. -/
def PeerKey.IsOf (typeDomain interface : String) (key : PeerKey) : Prop :=
  ∃ name, IsInstance typeDomain name ∧ key = .ofFullName name typeDomain interface

/-- A key is told from others by its full name. -/
theorem PeerKey.IsOf.eq_iff {typeDomain interface name : String} {key : PeerKey}
    (ht : HasTransport typeDomain) (h : key.IsOf typeDomain interface)
    (hname : IsInstance typeDomain name) :
    key = .ofFullName name typeDomain interface ↔ key.fullName = name := by
  obtain ⟨name', hname', rfl⟩ := h
  rw [fullName_ofFullName ht hname']
  constructor
  · intro he
    have hfull := congrArg PeerKey.fullName he
    rwa [fullName_ofFullName ht hname', fullName_ofFullName ht hname] at hfull
  · rintro rfl
    rfl

/-- A result that is read off the address, or one that came too early for a notice that is
    still to be read, does no harm. -/
theorem Tracks.answer {key : PeerKey} {unread : List DirectoryEvent} {slot : Option Slot}
    {address result : Option Endpoint} (ticket : Nat) (h : Tracks key unread slot address)
    (hfiled : Filed key slot)
    (hresult : result = address ∨ result = none ∧ AppearsLast key unread) :
    Tracks key unread (Slot.resolve key ticket result slot) address := by
  rcases hresult with rfl | ⟨rfl, hlast⟩
  · exact h.resolve ticket hfiled
  · cases address with
    | some endpoint => exact .inl hlast
    | none => exact h.resolve ticket hfiled

/-- Who begins to watch is told of all that the book has, or is about to be. -/
theorem Feed.Current.replay {f : Feed} {typeDomain interface : String} {fed : List SearchEvent}
    {key : PeerKey} (h : f.Current typeDomain interface fed) (ht : HasTransport typeDomain)
    (hkey : key.IsOf typeDomain interface) :
    Tracks key (f.browse.present.values.map .appeared ++ f.due) none
      (f.book.lookUp key.fullName) := by
  obtain ⟨htype, hinterface⟩ := h.type
  have hself : key = .ofFullName key.fullName typeDomain interface := by
    obtain ⟨name, hname, rfl⟩ := hkey
    rw [PeerKey.fullName_ofFullName ht hname]
  cases hlookUp : f.book.lookUp key.fullName with
  | none => exact .inr rfl
  | some endpoint =>
    have hadvert : f.book.adverts.get? key.fullName ≠ none := by
      intro hnone
      rw [AddressBook.lookUp, hnone] at hlookUp
      cases hlookUp
    rcases h.told hadvert with hpresent | hdue
    · obtain ⟨key', hpresent⟩ := Option.ne_none_iff_exists'.1 hpresent
      obtain rfl : key' = key := (h.present hpresent).2.trans hself.symm
      have hmem : key' ∈ f.browse.present.values :=
        List.mem_map.2 ⟨_, (Association.mem_bindings_iff _).2 hpresent, rfl⟩
      have hreplay : Tracks key' (f.browse.present.values.map .appeared) none (some endpoint) :=
        .replay fun _ _ => hmem
      cases hchore : f.chore with
      | none =>
        rw [Feed.due, hchore]
        exact (List.append_nil _).symm ▸ hreplay
      | some chore =>
        rw [Feed.due, hchore, htype, hinterface]
        refine hreplay.append fun he => ?_
        -- What is in the book is not about to be told as removed.
        cases chore with
        | wake | appear => cases he
        | remove name =>
          have hname : IsInstance typeDomain name := h.chore _ hchore
          have hsame := (hkey.eq_iff ht hname).1 (DirectoryEvent.removed.inj he).symm
          rw [hsame] at hadvert
          exact hadvert (h.struck hchore)
    · have hdue : f.due = [.appeared key] := by
        rcases hdue with hchore | hchore
        all_goals
          rw [Feed.due, hchore, htype, hinterface]
          exact congrArg (fun k => [DirectoryEvent.appeared k]) hself.symm
      rw [hdue]
      exact .appeared key _ none endpoint

/-- What a signal about a resolution does: the resolution goes on, or it ends, with what
    the signal brings or because it was told to stop. -/
theorem Subscription.Move.resolution {s : Subscription} {now ticket : Nat}
    {signal : SubscriptionSignal} {after : Subscription × List PeerEvent}
    (h : s.Move now signal after) (hticket : ticketOf? signal = some ticket) :
    ∃ q, s.resolutions.get? ticket = some q ∧
      ((∃ q' : Resolution, q'.key = q.key ∧ after.1 = s.setResolution ticket q') ∨
        ∃ result, after.1 = (s.conclude ticket q.key result).1 ∧
          (signal = .answered ticket result ∨ signal = .stopped ticket ∧ q.cancelled = true)) := by
  cases h with
  | stop | appeared | removed | call | accepted | refused => cases hticket
  | lose _ he => rcases he with rfl | rfl <;> cases hticket
  | @progress _ t q q' _ hq ht hkey =>
    obtain rfl := Option.some.inj (ht.symm.trans hticket)
    exact ⟨q, hq, .inl ⟨q', hkey, rfl⟩⟩
  | @answered t q result _ hq =>
    obtain rfl := Option.some.inj hticket
    exact ⟨q, hq, .inr ⟨result, rfl, .inl rfl⟩⟩
  | @stopped t q _ hq hcancelled =>
    obtain rfl := Option.some.inj hticket
    exact ⟨q, hq, .inr ⟨none, rfl, .inr ⟨rfl, hcancelled⟩⟩⟩

namespace Reception

/-- The reception after a notice was read: the notices left unread, and what the
    subscription became. -/
def afterReading (r : Reception) (unread : List DirectoryEvent) (subscription : Subscription) :
    Reception :=
  { r with
    feed :=
      { r.feed with
        browse :=
          { r.feed.browse with
            streams := r.feed.browse.streams.put r.stream { unread } } }
    subscription }

/-- What holds of a subscription that receives, with the notices that it did not read. -/
structure Followed (typeDomain interface : String) (fed : List SearchEvent)
    (unread : List DirectoryEvent) (r : Reception) : Prop where
  current : r.feed.Current typeDomain interface fed
  running : r.feed.relay.exit = none
  watcher : r.stream ∈ r.feed.browse.watchers
  below : r.stream < r.feed.browse.nextStream
  stream : r.feed.browse.streams.get? r.stream = some { unread }
  notices : ∀ event ∈ unread, ∃ key : PeerKey, key.IsOf typeDomain interface ∧
    (event = .appeared key ∨ event = .removed key)
  listening : r.subscription.phase = .listening
  slots : ∀ {key slot}, r.subscription.slots.get? key = some slot → key.IsOf typeDomain interface
  resolutions : ∀ {ticket q}, r.subscription.resolutions.get? ticket = some q →
    q.key.IsOf typeDomain interface
  waits : ∀ {ticket wait}, r.waits.get? ticket = some wait →
    ∃ q, r.subscription.resolutions.get? ticket = some q ∧ wait.fullName = q.key.fullName
  /-- A wait that was not woken since has missed nothing, or is about to be woken. -/
  asleep : ∀ {ticket wait entered}, r.waits.get? ticket = some wait →
    wait.stage = .asleep entered → entered ≤ r.feed.book.entered ∧
      (entered = r.feed.book.entered → r.feed.book.lookUp wait.fullName = none ∨
        r.feed.chore = some (.wake wait.fullName))
  /-- What is unread, what is due and the slots lead to the addresses in the book. -/
  tracks : ∀ {key : PeerKey}, key.IsOf typeDomain interface →
    Tracks key (unread ++ r.feed.due) (r.subscription.slots.get? key)
      (r.feed.book.lookUp key.fullName)

namespace Followed

variable {settings : BrowserSettings} {length : Nat} {typeDomain interface : String}
  {r r' : Reception} {fed : List SearchEvent} {told out : List PeerEvent}
  {unread : List DirectoryEvent} {after : Subscription × List PeerEvent}

/-! ## Reports -/

/-- A subscription follows a step of the feed that leaves its stream open, if no wait misses
    an entry and what is told leads to the addresses in the book. -/
theorem of_feed {f' : Feed} {fed' : List SearchEvent} {unread' : List DirectoryEvent}
    (h : Followed typeDomain interface fed unread r)
    (hcurrent : f'.Current typeDomain interface fed') (hexit : f'.relay.exit = none)
    (hwatcher : r.stream ∈ f'.browse.watchers) (hbelow : r.stream < f'.browse.nextStream)
    (hstream : f'.browse.streams.get? r.stream = some { unread := unread' })
    (hnotices : ∀ event ∈ unread', ∃ key : PeerKey, key.IsOf typeDomain interface ∧
      (event = .appeared key ∨ event = .removed key))
    (hasleep : ∀ {fullName entered}, (entered ≤ r.feed.book.entered ∧
        (entered = r.feed.book.entered → r.feed.book.lookUp fullName = none ∨
          r.feed.chore = some (.wake fullName))) →
      entered ≤ f'.book.entered ∧ (entered = f'.book.entered →
        f'.book.lookUp fullName = none ∨ f'.chore = some (.wake fullName)))
    (htracks : ∀ {key : PeerKey} {slot}, key.IsOf typeDomain interface →
      Tracks key (unread ++ r.feed.due) slot (r.feed.book.lookUp key.fullName) →
      Tracks key (unread' ++ f'.due) slot (f'.book.lookUp key.fullName)) :
    Followed typeDomain interface fed' unread' { r with feed := f' } where
  current := hcurrent
  running := hexit
  watcher := hwatcher
  below := hbelow
  stream := hstream
  notices := hnotices
  listening := h.listening
  slots := h.slots
  resolutions := h.resolutions
  waits := h.waits
  asleep hwait hstage := hasleep (h.asleep hwait hstage)
  tracks hkey := htracks hkey (h.tracks hkey)

/-- A report is read. -/
theorem read_report {event : SearchEvent} {reports : List SearchEvent}
    (h : Followed typeDomain interface fed unread r) (ht : HasTransport typeDomain)
    (hchore : r.feed.chore = none) (hreports : r.feed.relay.reports = event :: reports) :
    Followed typeDomain interface fed unread
      { r with
        feed := Feed.read event { r.feed with relay := { r.feed.relay with reports } } } := by
  have hcurrent := h.current.read hchore hreports
  have habout : event.IsAbout typeDomain :=
    h.current.reports event (by rw [hreports]; exact List.mem_cons_self)
  have hdue : r.feed.due = [] := by rw [Feed.due, hchore]; rfl
  have hnot {fullName : String} : r.feed.chore ≠ some (.wake fullName) := by
    rw [hchore]
    simp
  obtain ⟨htype, hinterface⟩ := h.current.type
  cases event with
  | started =>
    exact h.of_feed hcurrent h.running h.watcher h.below h.stream h.notices (fun h => h)
      fun _ h => h
  | found fullName =>
    refine h.of_feed hcurrent h.running h.watcher h.below h.stream h.notices ?_ ?_
    · exact fun ⟨hle, hlast⟩ => ⟨hle, fun he => .inl ((hlast he).resolve_right hnot)⟩
    · intro key slot _ htracks
      rw [hdue, List.append_nil] at htracks
      exact htracks.append fun he => by cases he
  | resolved advert =>
    have hlookUp := r.feed.book.lookUp_put advert
    refine h.of_feed hcurrent h.running h.watcher h.below h.stream h.notices ?_ ?_
    · intro fullName entered ⟨hle, hlast⟩
      refine ⟨hle, fun he => ?_⟩
      by_cases hn : fullName = advert.fullName
      · exact .inr (by rw [hn]; rfl)
      · refine .inl ((hlookUp fullName).trans ?_)
        rw [if_neg hn]
        exact (hlast he).resolve_right hnot
    · intro key slot hkey htracks
      rw [hdue, List.append_nil] at htracks
      change Tracks key (unread ++ [.appeared (.ofFullName advert.fullName
        r.feed.browse.typeDomain r.feed.browse.interface)]) slot _
      rw [htype, hinterface]
      refine (hlookUp key.fullName).symm ▸ ?_
      split
      · rename_i hn
        obtain ⟨endpoint, hendpoint⟩ :=
          Option.ne_none_iff_exists'.1 (Advert.endpoint?_ne_none habout.2)
        rw [hendpoint, ← (hkey.eq_iff ht habout.1).2 hn]
        exact .appeared key unread slot endpoint
      · exact htracks.append (by simp)
  | removed fullName =>
    have hlookUp := r.feed.book.lookUp_strike fullName
    refine h.of_feed hcurrent h.running h.watcher h.below h.stream h.notices ?_ ?_
    · intro name entered ⟨hle, hlast⟩
      refine ⟨hle, fun he => .inl ((hlookUp name).trans ?_)⟩
      split
      · rfl
      · exact (hlast he).resolve_right hnot
    · intro key slot hkey htracks
      rw [hdue, List.append_nil] at htracks
      change Tracks key (unread ++ [.removed (.ofFullName fullName
        r.feed.browse.typeDomain r.feed.browse.interface)]) slot _
      rw [htype, hinterface]
      refine (hlookUp key.fullName).symm ▸ ?_
      split
      · rename_i hn
        rw [← (hkey.eq_iff ht habout).2 hn]
        exact .removed key unread slot
      · rename_i hn
        refine htracks.append fun he => hn ((hkey.eq_iff ht habout).1 ?_)
        exact (DirectoryEvent.removed.inj he).symm
  | stopped => exact habout.elim

/-- Waiters are woken. -/
theorem woken {fullName : String} (h : Followed typeDomain interface fed unread r)
    (hchore : r.feed.chore = some (.wake fullName)) :
    Followed typeDomain interface fed unread
      { r with
        feed :=
          { r.feed with
            book := r.feed.book.wake
            chore := some (.appear fullName) } } := by
  have hdue : r.feed.due = [.appeared (.ofFullName fullName r.feed.browse.typeDomain
      r.feed.browse.interface)] := by
    rw [Feed.due, hchore]
    rfl
  refine h.of_feed (h.current.wake hchore) h.running h.watcher h.below h.stream h.notices ?_ ?_
  · -- No wait was asleep since an entry that was not counted yet.
    exact fun ⟨hle, _⟩ => ⟨Nat.le_succ_of_le hle,
      fun he => absurd hle (by rw [he]; exact Nat.not_succ_le_self _)⟩
  · intro key slot _ htracks
    rw [hdue] at htracks
    exact htracks

/-- The watchers are told what is due. -/
theorem informed {chore : Chore} (h : Followed typeDomain interface fed unread r)
    (hchore : r.feed.chore = some chore) (hwake : ∀ fullName, chore ≠ .wake fullName) :
    Followed typeDomain interface fed (unread ++ r.feed.due)
      { r with
        feed := Feed.ofParts (Relay.publish chore.fullName chore.event r.feed.parts) } := by
  have hdue : r.feed.due = [chore.event (.ofFullName chore.fullName r.feed.browse.typeDomain
      r.feed.browse.interface)] := by
    rw [Feed.due, hchore]
    rfl
  have hcurrent := h.current.tell hchore hwake
  rw [Feed.ofParts_publish] at hcurrent ⊢
  obtain ⟨hopen, hwatcher, hstream⟩ := r.feed.browse.publish_of_mem chore.fullName
    (chore.event (.ofFullName chore.fullName r.feed.browse.typeDomain r.feed.browse.interface))
    h.watcher h.stream
  rw [if_pos hopen] at hcurrent ⊢
  obtain ⟨htype, hinterface⟩ := h.current.type
  refine h.of_feed (hcurrent h.running) h.running hwatcher ?_ ?_ ?_ ?_ ?_
  · rw [SharedBrowse.publish_frame]
    exact h.below
  · rw [hstream, hdue]
  · intro event he
    rcases List.mem_append.1 he with he | he
    · exact h.notices event he
    · rw [hdue, htype, hinterface] at he
      obtain rfl := List.mem_singleton.1 he
      refine ⟨_, ⟨chore.fullName, h.current.chore chore hchore, rfl⟩, ?_⟩
      cases chore with
      | wake | appear => exact .inl rfl
      | remove => exact .inr rfl
  · intro fullName entered ⟨hle, hlast⟩
    refine ⟨hle, fun he => .inl ((hlast he).resolve_right fun hw => ?_)⟩
    exact hwake fullName (Option.some.inj (hchore.symm.trans hw))
  · intro key slot _ htracks
    change Tracks key (unread ++ r.feed.due ++ []) slot _
    rw [List.append_nil]
    exact htracks

/-- Whatever happens to the feed, the subscription follows. -/
theorem act {action : FeedAction} {f' : Feed} (h : Followed typeDomain interface fed unread r)
    (ht : HasTransport typeDomain) (hstays : action ≠ .leave r.stream)
    (hact : r.feed.act? action = some f')
    (habout : ∀ event ∈ action.reported, event.IsAbout typeDomain) :
    ∃ unread', Followed typeDomain interface (fed ++ action.reported) unread'
      { r with feed := f' } := by
  have hnil : fed ++ [] = fed := List.append_nil fed
  cases action with
  | report event =>
    refine ⟨unread, ?_⟩
    have hcurrent := fun hexit => h.current.act hact hexit habout
    rw [Feed.act?, Relay.put] at hact
    split at hact
    · rename_i relay hput
      obtain rfl := Option.some.inj hact
      split at hput
      · cases hput
      · obtain ⟨rfl, -⟩ := Prod.mk.inj hput
        exact h.of_feed (hcurrent h.running) h.running h.watcher h.below h.stream h.notices
          (fun h => h) fun _ h => h
    · cases hact
  | work =>
    rw [FeedAction.reported, hnil]
    cases Feed.worked_of_work? hact with
    | read hchore _ hreports => exact ⟨unread, h.read_report ht hchore hreports⟩
    | woke hchore => exact ⟨unread, h.woken hchore⟩
    | told hchore hwake => exact ⟨_, h.informed hchore hwake⟩
  | attach =>
    refine ⟨unread, ?_⟩
    have hcurrent := fun hexit => h.current.act hact hexit habout
    obtain ⟨⟨browse, stream⟩, hattach, rfl⟩ := Option.map_eq_some_iff.1 hact
    rw [SharedBrowse.attach?] at hattach
    split at hattach
    · cases hattach
    · obtain ⟨rfl, -⟩ := Prod.mk.inj (Option.some.inj hattach)
      refine h.of_feed (hcurrent h.running) h.running (List.mem_append_left _ h.watcher)
        (Nat.lt_succ_of_lt h.below) ?_ h.notices (fun h => h) fun _ h => h
      exact (Association.get?_put_of_ne _ _ (Nat.ne_of_lt h.below)).trans h.stream
  | leave stream =>
    refine ⟨unread, ?_⟩
    have hcurrent := fun hexit => h.current.act hact hexit habout
    obtain rfl := Option.some.inj hact
    refine h.of_feed (hcurrent h.running) h.running h.watcher h.below ?_ h.notices
      (fun h => h) fun _ h => h
    exact (Association.get?_erase_of_ne _ fun he => hstays (by rw [he])).trans h.stream

/-! ## Notices -/

/-- A subscription that follows knows which resolution each slot waits for. -/
theorem ticketed (h : Followed typeDomain interface fed unread r)
    (hrun : r.subscription.Run settings typeDomain told) : r.subscription.Ticketed :=
  hrun.ticketed (by rw [h.listening]; simp)

/-- A subscription follows as it reads a notice, if it keeps to the instances of the type
    and to the resolutions that it waits for, and the slots make up for the notice. -/
theorem of_read {event : DirectoryEvent} {rest : List DirectoryEvent} {s : Subscription}
    (h : Followed typeDomain interface fed (event :: rest) r)
    (hphase : s.phase = r.subscription.phase)
    (hslots : ∀ {key slot}, s.slots.get? key = some slot → key.IsOf typeDomain interface)
    (hresolutions : ∀ {ticket q}, s.resolutions.get? ticket = some q →
      q.key.IsOf typeDomain interface)
    (hkept : ∀ {ticket q}, r.subscription.resolutions.get? ticket = some q →
      ∃ q', s.resolutions.get? ticket = some q' ∧ q'.key = q.key)
    (htracks : ∀ {key : PeerKey} {address},
      Tracks key (event :: (rest ++ r.feed.due)) (r.subscription.slots.get? key) address →
        Tracks key (rest ++ r.feed.due) (s.slots.get? key) address) :
    Followed typeDomain interface fed rest (r.afterReading rest s) where
  current := ⟨h.current.type, h.current.last, h.current.reports, h.current.chore,
    h.current.adverts, h.current.present, h.current.told, h.current.struck⟩
  running := h.running
  watcher := h.watcher
  below := h.below
  stream := Association.get?_put_self ..
  notices event he := h.notices event (List.mem_cons_of_mem _ he)
  listening := hphase.trans h.listening
  slots := hslots
  resolutions := hresolutions
  waits hwait := by
    obtain ⟨q, hq, hname⟩ := h.waits hwait
    obtain ⟨q', hq', hkey⟩ := hkept hq
    exact ⟨q', hq', by rw [hkey]; exact hname⟩
  asleep := h.asleep
  tracks hkey := htracks (h.tracks hkey)

theorem read_appeared {key : PeerKey} {rest : List DirectoryEvent}
    (h : Followed typeDomain interface fed (.appeared key :: rest) r)
    (hrun : r.subscription.Run settings typeDomain told) (hkey : key.IsOf typeDomain interface) :
    Followed typeDomain interface fed rest
      (r.afterReading rest (r.subscription.onAppeared key)) := by
  refine h.of_read (Subscription.phase_onAppeared key) ?_ ?_ ?_ ?_
  · intro k slot hslot
    rw [Subscription.get?_onAppeared] at hslot
    split at hslot
    · rename_i hk
      exact hk ▸ hkey
    · exact h.slots hslot
  · intro ticket q hq
    rw [Subscription.get?_resolutions_onAppeared] at hq
    split at hq
    · obtain rfl := Option.some.inj hq
      exact hkey
    · exact h.resolutions hq
  · intro ticket q hq
    refine ⟨q, ?_, rfl⟩
    -- The ticket of a new resolution is new.
    rw [Subscription.get?_resolutions_onAppeared, if_neg]
    · exact hq
    · exact fun hnew => Nat.ne_of_lt ((h.ticketed hrun).fresh hq) hnew.1
  · intro k address htracks
    rw [Subscription.get?_onAppeared]
    split
    · rename_i he
      subst he
      exact htracks.read_appeared _
    · rename_i hne
      exact htracks.read_other (fun he => hne (DirectoryEvent.appeared.inj he).symm) (by simp)

theorem read_removed {key : PeerKey} {rest : List DirectoryEvent}
    (h : Followed typeDomain interface fed (.removed key :: rest) r) :
    Followed typeDomain interface fed rest
      (r.afterReading rest (r.subscription.onRemoved key).1) := by
  have hresolutions (ticket : Nat) := Subscription.get?_resolutions_onRemoved
    (s := r.subscription) key ticket
  refine h.of_read (Subscription.phase_onRemoved key) ?_ ?_ ?_ ?_
  · intro k slot hslot
    rw [Subscription.get?_onRemoved] at hslot
    split at hslot
    · cases hslot
    · exact h.slots hslot
  · intro ticket q hq
    rw [hresolutions] at hq
    split at hq
    · obtain ⟨q', hq', rfl⟩ := Option.map_eq_some_iff.1 hq
      have hof := h.resolutions hq'
      exact hof
    · exact h.resolutions hq
  · intro ticket q hq
    rw [hresolutions]
    split
    · exact ⟨{ q with cancelled := true }, by rw [hq]; rfl, rfl⟩
    · exact ⟨q, hq, rfl⟩
  · intro k address htracks
    rw [Subscription.get?_onRemoved]
    split
    · rename_i he
      subst he
      exact htracks.read_removed
    · rename_i hne
      exact htracks.read_other (by simp) fun he => hne (DirectoryEvent.removed.inj he).symm

/-- The subscription reads a notice. -/
theorem read {event : DirectoryEvent} {rest : List DirectoryEvent}
    (h : Followed typeDomain interface fed (event :: rest) r)
    (hrun : r.subscription.Run settings typeDomain told)
    (hmove : r.subscription.Move r.now (.event event) after) :
    Followed typeDomain interface fed rest (r.afterReading rest after.1) := by
  obtain ⟨key, hkey, rfl | rfl⟩ := h.notices event List.mem_cons_self
  · cases hmove with
    | lose _ he => rcases he with he | he <;> cases he
    | progress _ _ hticket => cases hticket
    | appeared => exact h.read_appeared hrun hkey
  · cases hmove with
    | lose _ he => rcases he with he | he <;> cases he
    | progress _ _ hticket => cases hticket
    | removed => exact h.read_removed

/-! ## Resolutions -/

/-- How far a resolution is tells nothing about its key. -/
theorem progress {ticket : Nat} {q q' : Resolution} {waits : Association Nat AddressWait}
    (h : Followed typeDomain interface fed unread r)
    (hq : r.subscription.resolutions.get? ticket = some q) (hkey : q'.key = q.key)
    (hwaits : ∀ {t wait}, waits.get? t = some wait → r.waits.get? t = some wait ∨
      t = ticket ∧ wait.fullName = q.key.fullName ∧ wait.stage = .looking) :
    Followed typeDomain interface fed unread
      { r with waits, subscription := r.subscription.setResolution ticket q' } := by
  have hget (t : Nat) : (r.subscription.setResolution ticket q').resolutions.get? t =
      if t = ticket then some q' else r.subscription.resolutions.get? t :=
    Association.get?_put ..
  refine ⟨h.current, h.running, h.watcher, h.below, h.stream, h.notices, h.listening, h.slots,
    ?_, ?_, ?_, h.tracks⟩
  · intro t p hp
    rw [hget] at hp
    split at hp
    · obtain rfl := Option.some.inj hp
      rw [hkey]
      exact h.resolutions hq
    · exact h.resolutions hp
  · intro t wait hwait
    rw [hget]
    rcases hwaits hwait with hwait | ⟨rfl, hname, -⟩
    · obtain ⟨p, hp, hname⟩ := h.waits hwait
      split
      · rename_i hticket
        subst hticket
        obtain rfl := Option.some.inj (hq.symm.trans hp)
        exact ⟨q', rfl, by rw [hkey]; exact hname⟩
      · exact ⟨p, hp, hname⟩
    · exact ⟨q', if_pos rfl, by rw [hkey]; exact hname⟩
  · intro t wait entered hwait hstage
    rcases hwaits hwait with hwait | ⟨-, -, hlooking⟩
    · exact h.asleep hwait hstage
    · cases hlooking.symm.trans hstage

/-- A resolution ends with what the book has for its key, or too early for a notice that
    is still to be read, or because it was told to stop. -/
theorem conclude {ticket : Nat} {q : Resolution} {result : Option Endpoint}
    (h : Followed typeDomain interface fed unread r)
    (hrun : r.subscription.Run settings typeDomain told)
    (hq : r.subscription.resolutions.get? ticket = some q)
    (hresult : q.cancelled = true ∨ result = r.feed.book.lookUp q.key.fullName ∨
      result = none ∧ AppearsLast q.key (unread ++ r.feed.due)) :
    Followed typeDomain interface fed unread
      { r with
        waits := r.waits.erase ticket
        subscription := (r.subscription.conclude ticket q.key result).1 } := by
  have hfiled : Filed q.key (r.subscription.slots.get? q.key) :=
    fun _ hpeer => hrun.key_of_peer? hpeer
  have hslots (k : PeerKey) :=
    Subscription.get?_conclude (s := r.subscription) ticket q.key k result
  have hresolutions (t : Nat) :
      (r.subscription.conclude ticket q.key result).1.resolutions.get? t =
        if t = ticket then none else r.subscription.resolutions.get? t := by
    rw [Subscription.conclude_frame]
    exact Association.get?_erase ..
  refine ⟨h.current, h.running, h.watcher, h.below, h.stream, h.notices, ?_, ?_, ?_, ?_, ?_, ?_⟩
  · exact (Subscription.phase_conclude ..).trans h.listening
  · intro key slot hslot
    rw [hslots] at hslot
    split at hslot
    · rename_i hk
      rw [hk]
      exact h.resolutions hq
    · exact h.slots hslot
  · intro t p hp
    rw [hresolutions] at hp
    split at hp
    · cases hp
    · exact h.resolutions hp
  · intro t wait hwait
    obtain ⟨hne, hwait⟩ := Association.get?_erase_eq_some_iff.1 hwait
    obtain ⟨p, hp, hname⟩ := h.waits hwait
    exact ⟨p, by rw [hresolutions, if_neg hne, hp], hname⟩
  · intro t wait entered hwait hstage
    exact h.asleep (Association.get?_erase_eq_some_iff.1 hwait).2 hstage
  · intro key hkey
    have htracks := h.tracks hkey
    rw [hslots]
    split
    · rename_i hk
      subst hk
      rcases hresult with hcancelled | hresult
      · -- The slot does not wait for a resolution that was told to stop.
        rw [Slot.resolve_of_ne]
        · exact htracks
        · intro hw
          obtain ⟨q', hq', -, hfree⟩ := (h.ticketed hrun).running hw
          obtain rfl := Option.some.inj (hq.symm.trans hq')
          cases hcancelled.symm.trans hfree
      · exact htracks.answer ticket hfiled hresult
    · exact htracks

/-- A wait ends with what the book has, or without a result, and then it missed nothing that
    the stream does not tell of yet. -/
theorem answer_eq {ticket : Nat} {wait : AddressWait} {q : Resolution} {result : Option Endpoint}
    (h : Followed typeDomain interface fed unread r) (ht : HasTransport typeDomain)
    (hwait : r.waits.get? ticket = some wait)
    (hstep : wait.step? r.feed.book r.now = some (.inr result))
    (hq : r.subscription.resolutions.get? ticket = some q) :
    result = r.feed.book.lookUp q.key.fullName ∨
      result = none ∧ AppearsLast q.key (unread ++ r.feed.due) := by
  obtain ⟨q', hq', hname⟩ := h.waits hwait
  obtain rfl := Option.some.inj (hq.symm.trans hq')
  obtain ⟨htype, hinterface⟩ := h.current.type
  rw [← hname]
  unfold AddressWait.step? at hstep
  split at hstep
  · split at hstep
    · rename_i endpoint hfound
      obtain rfl := Sum.inr.inj (Option.some.inj hstep)
      exact .inl hfound.symm
    · cases Option.some.inj hstep
  · rename_i entered hstage
    split at hstep
    · cases Option.some.inj hstep
    · rename_i hsame
      obtain ⟨-, hstep⟩ := Option.ite_none_right_eq_some.1 hstep
      obtain rfl := Sum.inr.inj (Option.some.inj hstep)
      rcases (h.asleep hwait hstage).2 (Decidable.not_not.1 hsame).symm with hnone | hwake
      · exact .inl hnone.symm
      · refine .inr ⟨rfl, ?_⟩
        have hkey : q.key = .ofFullName wait.fullName typeDomain interface ↔
            q.key.fullName = wait.fullName :=
          (h.resolutions hq).eq_iff ht (h.current.chore _ hwake)
        rw [Feed.due, hwake, htype, hinterface]
        change AppearsLast q.key (unread ++ [.appeared (.ofFullName wait.fullName _ _)])
        rw [← hkey.2 hname.symm]
        exact .snoc q.key unread

/-- A wait goes on. -/
theorem looked {ticket : Nat} {wait wait' : AddressWait}
    (h : Followed typeDomain interface fed unread r) (hwait : r.waits.get? ticket = some wait)
    (hstep : wait.step? r.feed.book r.now = some (.inl wait')) :
    Followed typeDomain interface fed unread { r with waits := r.waits.put ticket wait' } := by
  have hwaits {t : Nat} {v : AddressWait} (hv : (r.waits.put ticket wait').get? t = some v) :
      t = ticket ∧ v = wait' ∨ r.waits.get? t = some v := by
    rw [Association.get?_put] at hv
    split at hv
    · exact .inl ⟨‹_›, (Option.some.inj hv).symm⟩
    · exact .inr hv
  have hgoes : wait'.fullName = wait.fullName ∧ (wait'.stage = .looking ∨
      wait'.stage = .asleep r.feed.book.entered ∧
        r.feed.book.lookUp wait.fullName = none) := by
    unfold AddressWait.step? at hstep
    split at hstep
    · split at hstep
      · cases Option.some.inj hstep
      · obtain rfl := Sum.inl.inj (Option.some.inj hstep)
        exact ⟨rfl, .inr ⟨rfl, ‹_›⟩⟩
    · split at hstep
      · obtain rfl := Sum.inl.inj (Option.some.inj hstep)
        exact ⟨rfl, .inl rfl⟩
      · obtain ⟨-, hstep⟩ := Option.ite_none_right_eq_some.1 hstep
        cases Option.some.inj hstep
  refine ⟨h.current, h.running, h.watcher, h.below, h.stream, h.notices, h.listening, h.slots,
    h.resolutions, ?_, ?_, h.tracks⟩
  · intro t v hv
    rcases hwaits hv with ⟨rfl, rfl⟩ | hv
    · obtain ⟨q, hq, hname⟩ := h.waits hwait
      exact ⟨q, hq, hgoes.1.trans hname⟩
    · exact h.waits hv
  · intro t v entered hv hstage
    rcases hwaits hv with ⟨rfl, rfl⟩ | hv
    · rcases hgoes.2 with hlooking | ⟨hasleep, hnone⟩
      · cases hlooking.symm.trans hstage
      · obtain rfl := WaitStage.asleep.inj (hasleep.symm.trans hstage)
        exact ⟨Nat.le_refl _, fun _ => .inl (hgoes.1 ▸ hnone)⟩
    · exact h.asleep hv hstage

/-! ## Actions -/

/-- A subscription that begins to watch follows what is replayed to it. -/
theorem start {f : Feed} {stream : Nat} (ht : HasTransport typeDomain)
    (hcurrent : f.Current typeDomain interface fed) (hexit : f.relay.exit = none)
    (hwatcher : stream ∈ f.browse.watchers) (hbelow : stream < f.browse.nextStream)
    (hstream : f.browse.streams.get? stream =
      some { unread := f.browse.present.values.map .appeared }) :
    Followed typeDomain interface fed (f.browse.present.values.map .appeared)
      { feed := f, stream, subscription := .start settings typeDomain } where
  current := hcurrent
  running := hexit
  watcher := hwatcher
  below := hbelow
  stream := hstream
  notices event he := by
    obtain ⟨key, hkey, rfl⟩ := List.mem_map.1 he
    obtain ⟨⟨name, _⟩, hbinding, rfl⟩ := List.mem_map.1 hkey
    obtain ⟨hname, hkey⟩ := hcurrent.present ((Association.mem_bindings_iff _).1 hbinding)
    exact ⟨_, ⟨name, hname, hkey⟩, .inl rfl⟩
  listening := rfl
  slots hslot := by cases hslot
  resolutions hq := by cases hq
  waits hwait := by cases hwait
  asleep hwait := by cases hwait
  tracks hkey := hcurrent.replay ht hkey

theorem acts {action : ReceptionAction} (h : Followed typeDomain interface fed unread r)
    (ht : HasTransport typeDomain) (hrun : r.subscription.Run settings typeDomain told)
    (hacts : Acts length r action r' out)
    (habout : ∀ event ∈ action.reported, event.IsAbout typeDomain) :
    ∃ unread', Followed typeDomain interface (fed ++ action.reported) unread' r' := by
  have hnil : fed ++ [] = fed := List.append_nil fed
  cases hacts with
  | fed hstays hfeed => exact h.act ht hstays hfeed habout
  | read hs hunread hstep =>
    obtain rfl := Option.some.inj (h.stream.symm.trans hs)
    obtain rfl := hunread
    rw [ReceptionAction.reported, hnil]
    exact ⟨_, h.read hrun (.of_step? hstep)⟩
  | asked hq hstep =>
    rw [ReceptionAction.reported, hnil]
    refine ⟨unread, ?_⟩
    obtain ⟨q, hq', hafter⟩ := (Subscription.Move.of_step? hstep).resolution rfl
    obtain rfl := Option.some.inj (hq.symm.trans hq')
    obtain ⟨q', hkey, rfl⟩ | ⟨_, -, he | ⟨he, -⟩⟩ := hafter
    · refine h.progress hq hkey fun hwait => ?_
      rw [Association.get?_put] at hwait
      split at hwait
      · obtain rfl := Option.some.inj hwait
        exact .inr ⟨‹_›, rfl, rfl⟩
      · exact .inl hwait
    · cases he
    · cases he
  | looked hwait hstep =>
    rw [ReceptionAction.reported, hnil]
    exact ⟨unread, h.looked hwait hstep⟩
  | answered hwait hstepped hstep =>
    rw [ReceptionAction.reported, hnil]
    refine ⟨unread, ?_⟩
    obtain ⟨q, hq, hafter⟩ := (Subscription.Move.of_step? hstep).resolution rfl
    obtain ⟨q', hkey, rfl⟩ | ⟨_, rfl, he | ⟨he, -⟩⟩ := hafter
    · exact h.progress hq hkey fun hwait => .inl (Association.get?_erase_eq_some_iff.1 hwait).2
    · obtain ⟨-, rfl⟩ := SubscriptionSignal.answered.inj he
      exact h.conclude hrun hq (.inr (h.answer_eq ht hwait hstepped hq))
    · cases he
  | rested hstep =>
    rw [ReceptionAction.reported, hnil]
    refine ⟨unread, ?_⟩
    obtain ⟨q, hq, hafter⟩ := (Subscription.Move.of_step? hstep).resolution rfl
    obtain ⟨q', hkey, rfl⟩ | ⟨_, -, he | ⟨he, -⟩⟩ := hafter
    · exact h.progress hq hkey .inl
    · cases he
    · cases he
  | stopped hstep =>
    rw [ReceptionAction.reported, hnil]
    refine ⟨unread, ?_⟩
    obtain ⟨q, hq, hafter⟩ := (Subscription.Move.of_step? hstep).resolution rfl
    obtain ⟨q', hkey, rfl⟩ | ⟨_, rfl, he | ⟨-, hcancelled⟩⟩ := hafter
    · exact h.progress hq hkey fun hwait => .inl (Association.get?_erase_eq_some_iff.1 hwait).2
    · cases he
    · exact h.conclude hrun hq (.inl hcancelled)
  | waited span =>
    rw [ReceptionAction.reported, hnil]
    exact ⟨unread, h.current, h.running, h.watcher, h.below, h.stream, h.notices, h.listening,
      h.slots, h.resolutions, h.waits, h.asleep, h.tracks⟩

end Followed

end Reception

end ServiceDiscovery
