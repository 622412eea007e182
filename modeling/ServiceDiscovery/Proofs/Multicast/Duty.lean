import ServiceDiscovery.Proofs.Multicast.Audience
import ServiceDiscovery.Proofs.Series

/-!
# Relays on duty

A relay that is told to stop, or notices that nothing more will be reported, leaves its
loop first and closes its browse after that; somebody may attach, read or leave in
between. A `Duty` is a relay at work of which one knows whether it left its loop. What
the relay notices next is up to nobody: any signal that is there (`Duty.notice?`). The
steps from one signal to the next amount to the relay's step (`Duty.relay_step?_eq`).

`Duty.Served` is whatever a browse with its relay may come to, whoever uses it.
`Duty.Kept` is what holds of it then: the browse is open as long as its relay goes on and
as it has somebody to send to, and a stream that is read tells of its end
(`Duty.Served.kept`).
-/

namespace ServiceDiscovery

/-! ## Publishing -/

namespace SharedBrowse

variable (b : SharedBrowse) (fullName : String) (event : DirectoryEvent)

/-- The answer to what is published tells whether a watcher is left. -/
theorem publish_snd :
    (b.publish fullName event).2 = !(b.publish fullName event).1.watchers.isEmpty := by
  rw [publish]
  split <;> rename_i hnone <;> simp [hnone]

theorem closed_publish (h : b.closed = false) :
    (b.publish fullName event).1.closed = !(b.publish fullName event).2 := by
  rw [publish_frame]
  dsimp only
  rw [h, Bool.false_or]

end SharedBrowse

/-- A report that does not stop the search is entered in the book, and leaves the relay with
    something to do. -/
theorem Feed.read_frame {event : SearchEvent} (h : event ≠ .stopped) (f : Feed) :
    Feed.read event f =
      { f with book := (Feed.read event f).book, chore := (Feed.read event f).chore } := by
  cases event with
  | started | found | resolved | removed => rfl
  | stopped => contradiction

/-! ## Duties -/

/-- A relay at work, until it has closed its browse. -/
structure Duty where
  feed : Feed
  /-- Whether the relay left its loop, and its browse is still to be closed. -/
  leaving : Bool := false
  deriving DecidableEq

/-- What may happen to a relay on duty and to its browse. -/
inductive DutyAction
  | report (event : SearchEvent)
  /-- Nothing will be reported any more. -/
  | disconnect
  /-- The responder is replaced, or cannot be any more. -/
  | replace
  /-- The relay is told to stop. -/
  | cancel
  /-- The relay notices something that is there. -/
  | notice (signal : RelaySignal)
  /-- The relay goes on with what it noticed. -/
  | work
  | attach
  /-- A watcher stops reading its stream. -/
  | leave (stream : Nat)
  /-- A watcher reads the next event of its stream. -/
  | read (stream : Nat)
  | forget (fullName : String)
  deriving DecidableEq

namespace Duty

/-- A relay that begins, with the first watcher of its browse and a book in which there
    may be something already. -/
def start (typeDomain interface : String) (book : AddressBook) : Duty :=
  { feed := { browse := (SharedBrowse.start typeDomain interface).1, book } }

/-- The duty with the relay changed. -/
def setRelay (d : Duty) (relay : Relay) : Duty := { d with feed := { d.feed with relay } }

/-- The duty with the browse changed. -/
def setBrowse (d : Duty) (browse : SharedBrowse) : Duty :=
  { d with feed := { d.feed with browse } }

/-- Whether the relay waits for a signal. -/
def Waits (d : Duty) : Prop :=
  d.leaving = false ∧ d.feed.chore = none ∧ d.feed.relay.exit = none

instance (d : Duty) : Decidable d.Waits := by
  unfold Waits
  infer_instance

/-- What comes of a signal, if that is there: the relay leaves its loop, or begins with a
    report. -/
def heed? (d : Duty) : RelaySignal → Option Duty
  | .cancelled => if d.feed.relay.cancelled then some { d with leaving := true } else none
  | .replaced => if d.feed.relay.replaced then some { d with leaving := true } else none
  | .report =>
    match d.feed.relay.reports with
    | .stopped :: reports =>
      some { d.setRelay { d.feed.relay with reports } with leaving := true }
    | event :: reports =>
      some { d with feed := .read event { d.feed with relay := { d.feed.relay with reports } } }
    | [] => if d.feed.relay.connected then none else some { d with leaving := true }

/-- A relay that waits notices a signal. -/
def notice? (d : Duty) (signal : RelaySignal) : Option Duty :=
  if d.Waits then d.heed? signal else none

/-- The next step of a relay that noticed something. -/
def work? (d : Duty) : Option Duty :=
  if d.leaving then some { feed := .ofParts (Relay.stop d.feed.parts) }
  else if d.feed.chore.isSome then d.feed.work?.map fun feed => { d with feed }
  else none

/-- What an action leads to, if it could happen. -/
def act? (d : Duty) : DutyAction → Option Duty
  | .report event =>
    match d.feed.relay.put event with
    | (relay, true) => some (d.setRelay relay)
    | (_, false) => none
  | .disconnect => some (d.setRelay { d.feed.relay with connected := false })
  | .replace => some (d.setRelay { d.feed.relay with replaced := true })
  | .cancel => some (d.setRelay { d.feed.relay with cancelled := true })
  | .notice signal => d.notice? signal
  | .work => d.work?
  | .attach => d.feed.browse.attach?.map fun (browse, _) => d.setBrowse browse
  | .leave stream =>
    (d.feed.browse.streams.get? stream).map fun _ =>
      d.setBrowse (d.feed.browse.dropStream stream)
  | .read stream =>
    (d.feed.browse.streams.get? stream).bind fun s =>
      match s.unread with
      | [] => none
      | _ :: unread =>
        let streams := d.feed.browse.streams.put stream { s with unread }
        some (d.setBrowse { d.feed.browse with streams })
  | .forget fullName => some (d.setBrowse (d.feed.browse.forget fullName))

/-- What a relay of a type and its browse may come to. -/
inductive Served (typeDomain interface : String) (book : AddressBook) : Duty → Prop
  | start : Served typeDomain interface book (.start typeDomain interface book)
  | step {d d' : Duty} {action : DutyAction} : Served typeDomain interface book d →
      d.act? action = some d' → Served typeDomain interface book d'

variable {d d' : Duty} {typeDomain interface : String} {book : AddressBook}
  {action : DutyAction}

/-! ## The relay's step -/

/-- A relay that waits for a signal notices it if it can take a step, and then the steps it
    works amount to that step. -/
theorem relay_step?_eq {signal : RelaySignal} {parts : Relay.Parts}
    (hchore : d.feed.chore = none) (hstays : d.leaving = false)
    (h : Relay.step? d.feed.parts signal = some parts) :
    ∃ noticed, d.notice? signal = some noticed ∧
      Relation.ReflTransGen (fun d d' : Duty => d.work? = some d') noticed
        { feed := .ofParts parts } := by
  obtain ⟨⟨relay, browse, book, chore⟩, leaving⟩ := d
  obtain rfl : chore = none := hchore
  obtain rfl : leaving = false := hstays
  change Relay.step? (relay, browse, book) signal = some parts at h
  unfold Relay.step? at h
  dsimp only at h
  split at h
  · cases h
  rename_i hgoes
  have hnotice : notice? ⟨⟨relay, browse, book, none⟩, false⟩ signal =
      heed? ⟨⟨relay, browse, book, none⟩, false⟩ signal :=
    if_pos ⟨rfl, rfl, Option.not_isSome_iff_eq_none.1 hgoes⟩
  rw [hnotice]
  -- Whatever makes the relay leave its loop, it closes the browse in its next step.
  have hleave (relay' : Relay) : Relation.ReflTransGen (fun d d' : Duty => d.work? = some d')
      ⟨⟨relay', browse, book, none⟩, true⟩
      { feed := .ofParts (Relay.stop (relay', browse, book)) } := .single rfl
  cases signal with
  | cancelled =>
    obtain ⟨hcancelled, he⟩ := Option.ite_none_right_eq_some.1 h
    obtain rfl := Option.some.inj he
    exact ⟨_, if_pos hcancelled, hleave relay⟩
  | replaced =>
    obtain ⟨hreplaced, he⟩ := Option.ite_none_right_eq_some.1 h
    obtain rfl := Option.some.inj he
    exact ⟨_, if_pos hreplaced, hleave relay⟩
  | report =>
    obtain ⟨reports, connected, replaced, cancelled, exit⟩ := relay
    cases reports with
    | nil =>
      obtain ⟨hover, he⟩ := Option.ite_none_left_eq_some.1 h
      obtain rfl := Option.some.inj he
      exact ⟨_, if_neg hover, hleave _⟩
    | cons event reports =>
      obtain rfl := Option.some.inj h
      cases event with
      | started => exact ⟨_, rfl, .refl⟩
      | stopped => exact ⟨_, rfl, hleave _⟩
      | found | removed => exact ⟨_, rfl, .single rfl⟩
      | resolved => exact ⟨_, rfl, .tail (.single rfl) rfl⟩

/-! ## What an action does -/

/-- What an action does. -/
inductive Does (d : Duty) : DutyAction → Duty → Prop
  | reported {event : SearchEvent} :
      Does d (.report event)
        (d.setRelay { d.feed.relay with reports := d.feed.relay.reports ++ [event] })
  | disconnected : Does d .disconnect (d.setRelay { d.feed.relay with connected := false })
  | replaced : Does d .replace (d.setRelay { d.feed.relay with replaced := true })
  | cancelled : Does d .cancel (d.setRelay { d.feed.relay with cancelled := true })
  /-- The relay leaves its loop: it noticed no report, or that the search stopped. -/
  | stopped {signal : RelaySignal} (reports : List SearchEvent) : d.Waits →
      (signal = .report → d.feed.relay.reports.head?.all (· = .stopped)) →
      Does d (.notice signal) { d.setRelay { d.feed.relay with reports } with leaving := true }
  | began {event : SearchEvent} {reports : List SearchEvent} : d.Waits →
      d.feed.relay.reports = event :: reports → event ≠ .stopped →
      Does d (.notice .report)
        { d with feed := .read event { d.feed with relay := { d.feed.relay with reports } } }
  | woke {fullName : String} : d.feed.chore = some (.wake fullName) →
      Does d .work
        { d with
          feed :=
            { d.feed with
              book := d.feed.book.wake
              chore := some (.appear fullName) } }
  | told {chore : Chore} : d.feed.chore = some chore → (∀ fullName, chore ≠ .wake fullName) →
      d.leaving = false →
      Does d .work
        { d with feed := .ofParts (Relay.publish chore.fullName chore.event d.feed.parts) }
  /-- The browse is closed. -/
  | ended : d.leaving = true →
      Does d .work { feed := .ofParts (Relay.stop d.feed.parts) }
  | attached : d.feed.browse.closed = false →
      Does d .attach
        (d.setBrowse
          (d.feed.browse.addStream (d.feed.browse.present.values.map .appeared)).1)
  | left {stream : Nat} {s : BrowseStream} : d.feed.browse.streams.get? stream = some s →
      Does d (.leave stream) (d.setBrowse (d.feed.browse.dropStream stream))
  | read {stream : Nat} {s : BrowseStream} {event : DirectoryEvent}
      {unread : List DirectoryEvent} : d.feed.browse.streams.get? stream = some s →
      s.unread = event :: unread →
      Does d (.read stream)
        (d.setBrowse
          { d.feed.browse with
            streams := d.feed.browse.streams.put stream { s with unread } })
  | forgot {fullName : String} :
      Does d (.forget fullName) (d.setBrowse (d.feed.browse.forget fullName))

theorem does_of_notice? {signal : RelaySignal} (h : d.notice? signal = some d') :
    Does d (.notice signal) d' := by
  obtain ⟨hwaits, h⟩ := Option.ite_none_right_eq_some.1 h
  cases signal with
  | cancelled | replaced =>
    obtain ⟨-, he⟩ := Option.ite_none_right_eq_some.1 h
    obtain rfl := Option.some.inj he
    exact .stopped d.feed.relay.reports hwaits nofun
  | report =>
    rw [heed?] at h
    split at h
    · rename_i reports hreports
      obtain rfl := Option.some.inj h
      exact .stopped _ hwaits fun _ => hreports ▸ rfl
    · rename_i event reports hstopped hreports
      obtain rfl := Option.some.inj h
      exact .began hwaits hreports hstopped
    · rename_i hreports
      obtain ⟨-, he⟩ := Option.ite_none_left_eq_some.1 h
      obtain rfl := Option.some.inj he
      exact .stopped d.feed.relay.reports hwaits fun _ => hreports ▸ rfl

theorem does_of_work? (h : d.work? = some d') : Does d .work d' := by
  rw [work?] at h
  split at h
  · obtain rfl := Option.some.inj h
    exact .ended ‹_›
  · rename_i hstays
    obtain ⟨hchore, h⟩ := Option.ite_none_right_eq_some.1 h
    obtain ⟨feed, hfeed, rfl⟩ := Option.map_eq_some_iff.1 h
    cases Feed.worked_of_work? hfeed with
    | read hnone => cases hnone ▸ hchore
    | woke hwake => exact .woke hwake
    | told hchore hwake => exact .told hchore hwake (eq_false_of_ne_true hstays)

theorem does_of_act? (h : d.act? action = some d') : Does d action d' := by
  cases action with
  | report event =>
    rw [act?, Relay.put] at h
    split at h
    · rename_i relay hput
      obtain rfl := Option.some.inj h
      obtain ⟨-, hput⟩ | ⟨-, hput⟩ := ite_eq_iff.1 hput
      · cases hput
      · obtain ⟨rfl, -⟩ := Prod.mk.inj hput
        exact .reported
    · cases h
  | disconnect =>
    obtain rfl := Option.some.inj h
    exact .disconnected
  | replace =>
    obtain rfl := Option.some.inj h
    exact .replaced
  | cancel =>
    obtain rfl := Option.some.inj h
    exact .cancelled
  | notice signal => exact does_of_notice? h
  | work => exact does_of_work? h
  | attach =>
    obtain ⟨⟨browse, stream⟩, hattach, rfl⟩ := Option.map_eq_some_iff.1 h
    obtain ⟨hopen, hattach⟩ := Option.ite_none_left_eq_some.1 hattach
    obtain ⟨rfl, -⟩ := Prod.mk.inj (Option.some.inj hattach)
    exact .attached (eq_false_of_ne_true hopen)
  | leave stream =>
    obtain ⟨s, hs, rfl⟩ := Option.map_eq_some_iff.1 h
    exact .left hs
  | read stream =>
    obtain ⟨s, hs, h⟩ := Option.bind_eq_some_iff.1 h
    split at h
    · cases h
    · obtain rfl := Option.some.inj h
      exact .read hs ‹_›
  | forget fullName =>
    obtain rfl := Option.some.inj h
    exact .forgot

/-! ## What holds of a browse on duty -/

/-- What holds of a relay on duty and of its browse. -/
structure Kept (d : Duty) : Prop where
  closed_iff : d.feed.browse.closed = true ↔ d.feed.browse.watchers = []
  exit_iff : d.feed.relay.exit = none ↔ d.feed.browse.closed = false
  /-- A relay that has something to do goes on. -/
  busy : d.leaving = true ∨ d.feed.chore ≠ none → d.feed.relay.exit = none
  /-- Numbers of streams are given out once. -/
  fresh : ∀ {stream}, d.feed.browse.nextStream ≤ stream →
    d.feed.browse.streams.get? stream = none
  /-- As long as the browse is open, it sends to every stream that is read. -/
  served : ∀ {stream s}, d.feed.browse.closed = false →
    d.feed.browse.streams.get? stream = some s →
      stream ∈ d.feed.browse.watchers ∧ s.connected = true ∧ .reset ∉ s.unread
  /-- Whoever still reads after that was sent off with a reset. -/
  sentOff : ∀ {stream s}, d.feed.browse.closed = true →
    d.feed.browse.streams.get? stream = some s →
      d.feed.relay.exit = some .reset ∧ s.connected = false
  /-- After a reset nothing is present. -/
  absent : d.feed.relay.exit = some .reset → ∀ fullName, d.feed.browse.isPresent fullName = false

namespace Kept

theorem start (typeDomain interface : String) (book : AddressBook) :
    Kept (.start typeDomain interface book) where
  closed_iff := ⟨nofun, nofun⟩
  exit_iff := ⟨fun _ => rfl, fun _ => rfl⟩
  busy _ := rfl
  fresh {stream} hs := (Association.get?_put_of_ne _ _ (Nat.ne_of_gt hs)).trans rfl
  served {stream s} _ hs := by
    change ((Association.empty : Association Nat BrowseStream).put 0 { unread := [] }).get? stream =
      some s at hs
    rw [Association.get?_put] at hs
    split at hs
    · rename_i hfirst
      obtain rfl := Option.some.inj hs
      exact ⟨hfirst ▸ List.mem_singleton_self 0, rfl, List.not_mem_nil⟩
    · cases hs
  sentOff hc := nomatch hc
  absent he := nomatch he

theorem goes {chore : Chore} (h : d.Kept) (hchore : d.feed.chore = some chore) :
    d.feed.relay.exit = none :=
  h.busy (.inr (hchore ▸ Option.some_ne_none chore))

/-- The relay goes on and leaves the browse as it is. -/
theorem goOn (h : d.Kept) (hbrowse : d'.feed.browse = d.feed.browse)
    (hexit : d'.feed.relay.exit = d.feed.relay.exit)
    (hbusy : d'.leaving = true ∨ d'.feed.chore ≠ none → d.feed.relay.exit = none) : d'.Kept := by
  obtain ⟨⟨relay, browse, book, chore⟩, leaving⟩ := d'
  obtain rfl : browse = d.feed.browse := hbrowse
  replace hexit : relay.exit = d.feed.relay.exit := hexit
  exact ⟨h.closed_iff, hexit ▸ h.exit_iff, fun hb => hexit.trans (hbusy hb), h.fresh, h.served,
    fun hc hs => hexit ▸ h.sentOff hc hs, fun he => h.absent (hexit ▸ he)⟩

theorem setRelay {relay : Relay} (h : d.Kept) (hexit : relay.exit = d.feed.relay.exit) :
    (d.setRelay relay).Kept :=
  h.goOn rfl hexit h.busy

/-- Somebody attaches to a browse that is open. -/
theorem attach (h : d.Kept) (hopen : d.feed.browse.closed = false) (unread : List PeerKey) :
    (d.setBrowse (d.feed.browse.addStream (unread.map .appeared)).1).Kept where
  closed_iff := by
    change d.feed.browse.closed = true ↔ d.feed.browse.watchers ++ [_] = []
    rw [hopen]
    exact ⟨nofun, fun hnil => absurd (List.append_eq_nil_iff.1 hnil).2 (List.cons_ne_nil _ _)⟩
  exit_iff := h.exit_iff
  busy := h.busy
  fresh {stream} hs := by
    have hlt : d.feed.browse.nextStream < stream := hs
    exact (Association.get?_put_of_ne _ _ (Nat.ne_of_gt hlt)).trans (h.fresh (Nat.le_of_lt hlt))
  served {stream s} _ hs := by
    change (d.feed.browse.streams.put _ _).get? stream = some s at hs
    rw [Association.get?_put] at hs
    split at hs
    · rename_i hnew
      obtain rfl := Option.some.inj hs
      exact ⟨hnew ▸ List.mem_append_right _ (List.mem_singleton_self _), rfl, by simp⟩
    · obtain ⟨hw, hrest⟩ := h.served hopen hs
      exact ⟨List.mem_append_left _ hw, hrest⟩
  sentOff hc := nomatch hopen.symm.trans hc
  absent := h.absent

/-- The streams that are read become fewer, or shorter. -/
theorem setStreams (h : d.Kept) {streams : Association Nat BrowseStream}
    (hkept : ∀ {stream s}, streams.get? stream = some s → ∃ s₀,
      d.feed.browse.streams.get? stream = some s₀ ∧ s.connected = s₀.connected ∧
        s.unread ⊆ s₀.unread) :
    (d.setBrowse { d.feed.browse with streams }).Kept where
  closed_iff := h.closed_iff
  exit_iff := h.exit_iff
  busy := h.busy
  fresh {stream} hn := Option.eq_none_iff_forall_ne_some.2 fun s hs => by
    obtain ⟨s₀, hs₀, -⟩ := hkept hs
    cases (h.fresh hn).symm.trans hs₀
  served hopen hs := by
    obtain ⟨s₀, hs₀, hc, hsub⟩ := hkept hs
    obtain ⟨hw, hconnected, hreset⟩ := h.served hopen hs₀
    exact ⟨hw, hc.trans hconnected, fun hm => hreset (hsub hm)⟩
  sentOff hclosed hs := by
    obtain ⟨s₀, hs₀, hc, -⟩ := hkept hs
    obtain ⟨hexit, hconnected⟩ := h.sentOff hclosed hs₀
    exact ⟨hexit, hc.trans hconnected⟩
  absent := h.absent

theorem leave (h : d.Kept) (stream : Nat) :
    (d.setBrowse (d.feed.browse.dropStream stream)).Kept :=
  h.setStreams fun hs => ⟨_, (Association.get?_erase_eq_some_iff.1 hs).2, rfl, List.Subset.refl _⟩

theorem read {stream : Nat} {s : BrowseStream} {event : DirectoryEvent}
    {unread : List DirectoryEvent} (h : d.Kept)
    (hs : d.feed.browse.streams.get? stream = some s) (hu : s.unread = event :: unread) :
    (d.setBrowse
      { d.feed.browse with
        streams := d.feed.browse.streams.put stream { s with unread } }).Kept :=
  h.setStreams fun {n s'} hs' => by
    rw [Association.get?_put] at hs'
    split at hs'
    · rename_i hn
      obtain rfl := Option.some.inj hs'
      exact ⟨s, hn ▸ hs, rfl, hu ▸ List.subset_cons_self _ _⟩
    · exact ⟨s', hs', rfl, List.Subset.refl _⟩

theorem forget (h : d.Kept) (fullName : String) :
    (d.setBrowse (d.feed.browse.forget fullName)).Kept where
  closed_iff := h.closed_iff
  exit_iff := h.exit_iff
  busy := h.busy
  fresh := h.fresh
  served := h.served
  sentOff := h.sentOff
  absent he name := by
    change ((d.feed.browse.present.erase fullName).get? name).isSome = false
    rw [Association.get?_erase]
    split
    · rfl
    · exact h.absent he name

/-- The watchers are told of something. A browse that finds none of them left is closed,
    and nobody reads its streams any more. -/
theorem tell {chore : Chore} (h : d.Kept) (hchore : d.feed.chore = some chore)
    (hstays : d.leaving = false) :
    Kept { d with feed := .ofParts (Relay.publish chore.fullName chore.event d.feed.parts) } := by
  have hexit : d.feed.relay.exit = none := h.goes hchore
  have hopen : d.feed.browse.closed = false := h.exit_iff.1 hexit
  rw [Feed.ofParts_publish]
  generalize hevent : chore.event (.ofFullName chore.fullName d.feed.browse.typeDomain
    d.feed.browse.interface) = event
  have hreset : event ≠ .reset := by
    rw [← hevent]
    cases chore <;> exact nofun
  -- Whoever reads a stream is told, and keeps the browse open.
  have hserved {stream : Nat} {s : BrowseStream}
      (hs : (d.feed.browse.publish chore.fullName event).1.streams.get? stream = some s) :
      (d.feed.browse.publish chore.fullName event).2 = true ∧
        stream ∈ (d.feed.browse.publish chore.fullName event).1.watchers ∧
        s.connected = true ∧ .reset ∉ s.unread := by
    rw [SharedBrowse.get?_streams_publish] at hs
    obtain ⟨s₀, hs₀, rfl⟩ := Option.map_eq_some_iff.1 hs
    obtain ⟨hw, hconnected, hunread⟩ := h.served hopen hs₀
    obtain ⟨hstill, hmem, -⟩ := d.feed.browse.publish_of_mem chore.fullName event hw hs₀
    rw [if_pos hw]
    refine ⟨hstill, hmem, hconnected, fun hm => ?_⟩
    rcases List.mem_append.1 hm with hm | hm
    · exact hunread hm
    · exact hreset (List.mem_singleton.1 hm).symm
  have hclosed := d.feed.browse.closed_publish chore.fullName event hopen
  refine ⟨?_, ?_, ?_, ?_, ?_, ?_, ?_⟩
  · rw [hclosed, SharedBrowse.publish_snd, Bool.not_not, List.isEmpty_iff]
  · dsimp only
    rw [hclosed]
    cases (d.feed.browse.publish chore.fullName event).2 with
    | true => exact iff_of_true hexit rfl
    | false => exact iff_of_false nofun nofun
  · rintro (hleaving | hchore)
    · cases hstays.symm.trans hleaving
    · exact absurd rfl hchore
  · intro stream hn
    dsimp only
    rw [SharedBrowse.publish_frame] at hn
    rw [SharedBrowse.get?_streams_publish, h.fresh hn, Option.map_none]
  · exact fun _ hs => (hserved hs).2
  · intro stream s hc hs
    dsimp only at hc
    rw [hclosed, (hserved hs).1] at hc
    cases hc
  · intro he
    dsimp only at he
    split at he
    · cases hexit.symm.trans he
    · cases he

/-- The browse is closed with a reset. -/
theorem close (h : d.Kept) (hexit : d.feed.relay.exit = none) :
    Kept { feed := .ofParts (Relay.stop d.feed.parts) } where
  closed_iff := ⟨fun _ => rfl, fun _ => rfl⟩
  exit_iff := ⟨nofun, nofun⟩
  busy hb := hb.elim nofun fun hne => absurd rfl hne
  fresh {stream} hn := by
    change d.feed.browse.closeWithReset.streams.get? stream = none
    rw [SharedBrowse.get?_streams_closeWithReset, h.fresh hn, Option.map_none]
  served hopen := nomatch hopen
  sentOff {stream s} _ hs := by
    refine ⟨rfl, ?_⟩
    change d.feed.browse.closeWithReset.streams.get? stream = some s at hs
    rw [SharedBrowse.get?_streams_closeWithReset] at hs
    obtain ⟨s₀, hs₀, rfl⟩ := Option.map_eq_some_iff.1 hs
    rw [if_pos (h.served (h.exit_iff.1 hexit) hs₀).1]
  absent _ _ := rfl

theorem does (h : d.Kept) (hdoes : Does d action d') : d'.Kept := by
  cases hdoes with
  | reported | disconnected | replaced | cancelled => exact h.setRelay rfl
  | stopped _ hwaits _ => exact h.goOn rfl rfl fun _ => hwaits.2.2
  | began hwaits _ hevent =>
    rw [Feed.read_frame hevent]
    exact h.goOn rfl rfl fun _ => hwaits.2.2
  | woke hchore => exact h.goOn rfl rfl fun _ => h.goes hchore
  | told hchore _ hstays => exact h.tell hchore hstays
  | ended hleaving => exact h.close (h.busy (.inl hleaving))
  | attached hopen => exact h.attach hopen d.feed.browse.present.values
  | left => exact h.leave _
  | read hs hu => exact h.read hs hu
  | forgot => exact h.forget _

end Kept

theorem Served.kept (h : Served typeDomain interface book d) : d.Kept := by
  induction h with
  | start => exact .start typeDomain interface book
  | step _ hact ih => exact ih.does (does_of_act? hact)

end Duty

end ServiceDiscovery
