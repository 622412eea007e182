import Mathlib.Logic.Relation
import ServiceDiscovery.Multicast.Relay
import ServiceDiscovery.Proofs.Association
import ServiceDiscovery.Proofs.Multicast.Names

/-!
# A browse that is fed

A relay works off a report in several steps: it changes the address book, wakes who
waits for an address, and tells the watchers, and others may act in between. A `Feed` is
a relay with its browse and the address book, and with what is left to do of the report
that was read (`Chore`). The steps for one report amount to the relay's step
(`Feed.relay_step?_eq`).

As long as the relay goes on, the book has of every name the advert that was reported
last, unless the name was reported as removed since, up to the reports that still wait
(`Feed.Current.last`). What the book has, the watchers were told of or will be
(`Feed.Current.told`).
-/

namespace ServiceDiscovery

/-- What a relay has left to do of a report about a full name. -/
inductive Chore
  /-- The book was changed: wake who waits, then tell that the name appeared. -/
  | wake (fullName : String)
  | appear (fullName : String)
  | remove (fullName : String)
  deriving DecidableEq

namespace Chore

def fullName : Chore → String
  | wake fullName | appear fullName | remove fullName => fullName

/-- What the watchers are told in the end. -/
def event : Chore → PeerKey → DirectoryEvent
  | wake _ | appear _ => .appeared
  | remove _ => .removed

end Chore

/-- A relay with its browse and the address book, at work. -/
structure Feed where
  relay : Relay := {}
  browse : SharedBrowse
  book : AddressBook := {}
  chore : Option Chore := none
  deriving DecidableEq

namespace Feed

/-- The relay, the browse and the book. -/
def parts (f : Feed) : Relay.Parts := (f.relay, f.browse, f.book)

/-- A feed with nothing left to do. -/
def ofParts : Relay.Parts → Feed
  | (relay, browse, book) => { relay, browse, book }

/-- Begin with a report. -/
def read (event : SearchEvent) (f : Feed) : Feed :=
  match event with
  | .started => f
  | .found fullName => { f with chore := some (.appear fullName) }
  | .resolved advert =>
    { f with
      book := f.book.put advert
      chore := some (.wake advert.fullName) }
  | .removed fullName =>
    { f with book := f.book.strike fullName, chore := some (.remove fullName) }
  | .stopped => ofParts (Relay.stop f.parts)

/-- What the watchers are still to be told of the report that was read. -/
def due (f : Feed) : List DirectoryEvent :=
  (f.chore.map fun c =>
    c.event (.ofFullName c.fullName f.browse.typeDomain f.browse.interface)).toList

/-- The next step of a relay at work. -/
def work? (f : Feed) : Option Feed :=
  match f.chore with
  | some (.wake fullName) =>
    some { f with
      book := f.book.wake
      chore := some (.appear fullName) }
  | some chore => some (ofParts (Relay.publish chore.fullName chore.event f.parts))
  | none =>
    if f.relay.exit.isSome then none
    else
      match f.relay.reports with
      | event :: reports => some (read event { f with relay := { f.relay with reports } })
      | [] => none

/-- One step at work after another. -/
abbrev Works : Feed → Feed → Prop := Relation.TransGen fun f g => f.work? = some g

/-- The steps for one report are the relay's step. -/
theorem relay_step?_eq {f : Feed} {event : SearchEvent} {reports : List SearchEvent}
    (hchore : f.chore = none) (hexit : f.relay.exit = none)
    (hreports : f.relay.reports = event :: reports) :
    ∃ parts, Relay.step? f.parts .report = some parts ∧ f.Works (ofParts parts) := by
  obtain ⟨relay, browse, book, chore⟩ := f
  obtain rfl : chore = none := hchore
  replace hexit : relay.exit = none := hexit
  replace hreports : relay.reports = event :: reports := hreports
  have hread : work? ⟨relay, browse, book, none⟩ =
      some (read event ⟨{ relay with reports }, browse, book, none⟩) := by
    simp only [work?, hexit, hreports, Option.isSome_none, Bool.false_eq_true, if_false]
  refine ⟨Relay.handle event ({ relay with reports }, browse, book), ?_, ?_⟩
  · simp only [Relay.step?, parts, hexit, hreports, Option.isSome_none, Bool.false_eq_true,
      if_false]
  · cases event with
    | started | stopped => exact .single hread
    | found | removed => exact .tail (.single hread) rfl
    | resolved => exact .tail (.tail (.single hread) rfl) rfl

end Feed

/-! ## Events -/

namespace SearchEvent

/-- The advert last reported of a name, after one more report. -/
def lastAdvert (fullName : String) (last : Option Advert) : SearchEvent → Option Advert
  | resolved advert => if advert.fullName = fullName then some advert else last
  | removed name => if name = fullName then none else last
  | _ => last

/-- The advert last reported of a name, unless the name was removed since. -/
def lastAdvert? (fullName : String) (events : List SearchEvent) : Option Advert :=
  events.foldl (lastAdvert fullName) none

/-- Whether an event is one of a search that goes on: it is about an instance of the type,
    and what is resolved has an address. -/
def IsAbout (typeDomain : String) : SearchEvent → Prop
  | found fullName | removed fullName => IsInstance typeDomain fullName
  | resolved advert => IsInstance typeDomain advert.fullName ∧ advert.addresses ≠ []
  | started => True
  | stopped => False

end SearchEvent

theorem Advert.endpoint?_ne_none {a : Advert} (h : a.addresses ≠ []) : a.endpoint? ≠ none := by
  rw [endpoint?]
  cases haddresses : a.addresses with
  | nil => exact absurd haddresses h
  | cons ip ips =>
    rw [IpAddress.least?]
    cases IpAddress.least? ips <;> exact Option.some_ne_none _

/-! ## Browses -/

namespace SharedBrowse

variable (b : SharedBrowse) (fullName : String) (event : DirectoryEvent)

/-- What is published does not change the kind of a browse. -/
theorem publish_frame :
    (b.publish fullName event).1 =
      { b with
        watchers := (b.publish fullName event).1.watchers
        streams := (b.publish fullName event).1.streams
        present := record fullName b.present event
        closed := b.closed || !(b.publish fullName event).2 } := by
  unfold publish
  dsimp only
  split
  · simp [send]
  · simp [send]

/-- A watcher that reads its stream is told, and keeps the browse open. -/
theorem publish_of_mem {stream : Nat} {s : BrowseStream} (hw : stream ∈ b.watchers)
    (hs : b.streams.get? stream = some s) :
    (b.publish fullName event).2 = true ∧ stream ∈ (b.publish fullName event).1.watchers ∧
      (b.publish fullName event).1.streams.get? stream =
        some { s with unread := s.unread ++ [event] } := by
  have hcontains : b.streams.contains stream = true := by
    rw [Association.contains, hs]
    rfl
  have hmem : stream ∈ b.watchers.filter b.streams.contains := List.mem_filter.2 ⟨hw, hcontains⟩
  have hopen : (b.watchers.filter b.streams.contains).isEmpty = false := by
    rw [List.isEmpty_eq_false_iff]
    exact List.ne_nil_of_mem hmem
  have hpublish : b.publish fullName event =
      ({ b with present := record fullName b.present event }.send event, true) := by
    rw [publish]
    exact if_neg (by rw [Bool.not_eq_true]; exact hopen)
  rw [hpublish]
  refine ⟨rfl, hmem, ?_⟩
  rw [send, Association.get?_mapValues, hs, Option.map_some, if_pos hmem]

end SharedBrowse

/-! ## Runs -/

/-- What may happen to a feed. -/
inductive FeedAction
  | report (event : SearchEvent)
  | work
  /-- Somebody begins to watch. -/
  | attach
  | leave (stream : Nat)
  deriving DecidableEq

/-- The report that an action puts to the relay. -/
def FeedAction.reported : FeedAction → List SearchEvent
  | report event => [event]
  | work | attach | leave _ => []

namespace Feed

/-- The feed after an action, if this could happen. -/
def act? (f : Feed) : FeedAction → Option Feed
  | .report event =>
    match f.relay.put event with
    | (relay, true) => some { f with relay }
    | (_, false) => none
  | .work => f.work?
  | .attach => f.browse.attach?.map fun (browse, _) => { f with browse }
  | .leave stream => some { f with browse := f.browse.dropStream stream }

/-- What a browse of a type may become, with the reports put to its relay until then. -/
inductive Fed (typeDomain interface : String) : Feed → List SearchEvent → Prop
  | start : Fed typeDomain interface { browse := (SharedBrowse.start typeDomain interface).1 } []
  | step {f f' : Feed} {fed : List SearchEvent} {action : FeedAction} :
      Fed typeDomain interface f fed → f.act? action = some f' →
      Fed typeDomain interface f' (fed ++ action.reported)

/-- What a step at work is. -/
inductive Worked (f : Feed) : Feed → Prop
  | read {event : SearchEvent} {reports : List SearchEvent} : f.chore = none →
      f.relay.exit = none → f.relay.reports = event :: reports →
      Worked f (read event { f with relay := { f.relay with reports } })
  | woke {fullName : String} : f.chore = some (.wake fullName) →
      Worked f { f with
        book := f.book.wake
        chore := some (.appear fullName) }
  | told {chore : Chore} : f.chore = some chore → (∀ fullName, chore ≠ .wake fullName) →
      Worked f (ofParts (Relay.publish chore.fullName chore.event f.parts))

variable {f f' : Feed} {typeDomain interface : String} {fed : List SearchEvent}
  {action : FeedAction}

theorem worked_of_work? (h : f.work? = some f') : Worked f f' := by
  unfold work? at h
  split at h
  · obtain rfl := Option.some.inj h
    exact .woke ‹_›
  · rename_i chore hwake hchore
    obtain rfl := Option.some.inj h
    exact .told hchore hwake
  · split at h
    · cases h
    · rename_i hexit
      split at h
      · obtain rfl := Option.some.inj h
        exact .read ‹_› (Option.not_isSome_iff_eq_none.1 hexit) ‹_›
      · cases h

/-- What a relay is told by publishing. -/
theorem ofParts_publish (f : Feed) (fullName : String) (event : PeerKey → DirectoryEvent) :
    ofParts (Relay.publish fullName event f.parts) =
      { relay :=
          if (f.browse.publish fullName
              (event (.ofFullName fullName f.browse.typeDomain f.browse.interface))).2 then f.relay
          else { f.relay with exit := some .idle, reports := [] }
        browse := (f.browse.publish fullName
          (event (.ofFullName fullName f.browse.typeDomain f.browse.interface))).1
        book := f.book } := by
  rw [parts, Relay.publish]
  dsimp only
  split
  · rename_i browse hpublish
    rw [hpublish]
    rfl
  · rename_i browse hpublish
    rw [hpublish]
    rfl

/-- A relay that ended has nothing left to do, and its browse is closed. -/
theorem Fed.closed (h : Fed typeDomain interface f fed) (hexit : f.relay.exit ≠ none) :
    f.browse.closed = true ∧ f.chore = none := by
  induction h with
  | start => exact absurd rfl hexit
  | @step f f' fed action _ hact ih =>
    cases action with
    | report event =>
      rw [act?, Relay.put] at hact
      split at hact
      · rename_i relay hput
        obtain rfl := Option.some.inj hact
        split at hput
        · cases hput
        · rename_i hgoes
          rw [Bool.or_eq_true, not_or, Option.not_isSome_iff_eq_none] at hgoes
          obtain ⟨rfl, -⟩ := Prod.mk.inj hput
          exact absurd hgoes.1 hexit
      · cases hact
    | work =>
      cases worked_of_work? hact with
      | @read event reports _ hgoes =>
        cases event with
        | started | found | resolved | removed => exact absurd hgoes hexit
        | stopped => exact ⟨rfl, rfl⟩
      | woke hchore => cases (ih hexit).2.symm.trans hchore
      | @told chore hchore _ =>
        rw [ofParts_publish] at hexit ⊢
        dsimp only at hexit ⊢
        split at hexit
        · cases (ih hexit).2.symm.trans hchore
        · rename_i hclosed
          rw [SharedBrowse.publish_frame]
          exact ⟨by simp [hclosed], rfl⟩
    | attach =>
      obtain ⟨⟨browse, stream⟩, hattach, rfl⟩ := Option.map_eq_some_iff.1 hact
      rw [SharedBrowse.attach?, if_pos (ih hexit).1] at hattach
      cases hattach
    | leave stream =>
      obtain rfl := Option.some.inj hact
      exact ih hexit

/-- What holds of a feed as long as its relay goes on. -/
structure Current (typeDomain interface : String) (fed : List SearchEvent) (f : Feed) : Prop where
  type : f.browse.typeDomain = typeDomain ∧ f.browse.interface = interface
  /-- The book is up to date, up to the reports that wait. -/
  last : ∀ name, f.relay.reports.foldl (SearchEvent.lastAdvert name) (f.book.adverts.get? name) =
    SearchEvent.lastAdvert? name fed
  reports : ∀ event ∈ f.relay.reports, event.IsAbout typeDomain
  chore : ∀ chore, f.chore = some chore → IsInstance typeDomain chore.fullName
  adverts : ∀ {name advert}, f.book.adverts.get? name = some advert →
    IsInstance typeDomain name ∧ advert.addresses ≠ []
  present : ∀ {name key}, f.browse.present.get? name = some key →
    IsInstance typeDomain name ∧ key = .ofFullName name typeDomain interface
  /-- What the book has is present, or about to be. -/
  told : ∀ {name}, f.book.adverts.get? name ≠ none → f.browse.present.get? name ≠ none ∨
    f.chore = some (.wake name) ∨ f.chore = some (.appear name)
  struck : ∀ {name}, f.chore = some (.remove name) → f.book.adverts.get? name = none

namespace Current

theorem start (typeDomain interface : String) :
    Current typeDomain interface [] { browse := (SharedBrowse.start typeDomain interface).1 } := by
  refine ⟨⟨rfl, rfl⟩, fun _ => rfl, fun _ hm => absurd hm List.not_mem_nil, ?_, ?_, ?_, ?_, ?_⟩
  · simp
  · simp
  · exact fun he => by cases he
  · exact fun hne => absurd rfl hne
  · simp

/-- A report is read. -/
theorem read {event : SearchEvent} {reports : List SearchEvent}
    (h : Current typeDomain interface fed f) (hchore : f.chore = none)
    (hreports : f.relay.reports = event :: reports) :
    Current typeDomain interface fed (read event { f with relay := { f.relay with reports } }) := by
  have habout : event.IsAbout typeDomain :=
    h.reports event (by rw [hreports]; exact List.mem_cons_self)
  have hrest : ∀ e ∈ reports, e.IsAbout typeDomain := fun e he =>
    h.reports e (by rw [hreports]; exact List.mem_cons_of_mem _ he)
  have hlast (name : String) : reports.foldl (SearchEvent.lastAdvert name)
      (SearchEvent.lastAdvert name (f.book.adverts.get? name) event) =
        SearchEvent.lastAdvert? name fed := by
    rw [← h.last, hreports, List.foldl_cons]
  have hpresent {name : String} (hne : f.book.adverts.get? name ≠ none) :
      f.browse.present.get? name ≠ none := by
    rcases h.told hne with hp | hc | hc
    · exact hp
    · cases hchore.symm.trans hc
    · cases hchore.symm.trans hc
  cases event with
  | started => exact ⟨h.type, hlast, hrest, h.chore, h.adverts, h.present, h.told, h.struck⟩
  | found fullName =>
    refine ⟨h.type, hlast, hrest, ?_, h.adverts, h.present, fun hne => .inl (hpresent hne), ?_⟩
    · rintro _ he
      obtain rfl := Option.some.inj he
      exact habout
    · exact fun he => by cases he
  | resolved advert =>
    refine ⟨h.type, fun name => ?_, hrest, ?_, ?_, h.present, ?_, fun he => by cases he⟩
    · rw [← hlast]
      change reports.foldl _ ((f.book.adverts.put advert.fullName advert).get? name) = _
      rw [Association.get?_put, SearchEvent.lastAdvert]
      simp only [eq_comm]
    · rintro _ he
      obtain rfl := Option.some.inj he
      exact habout.1
    · intro name a ha
      have hput : (f.book.adverts.put advert.fullName advert).get? name = some a := ha
      rw [Association.get?_put] at hput
      split at hput
      · rename_i hn
        obtain rfl := Option.some.inj hput
        exact ⟨hn ▸ habout.1, habout.2⟩
      · exact h.adverts hput
    · intro name hne
      by_cases hn : name = advert.fullName
      · exact .inr (.inl (by rw [hn]; rfl))
      · refine .inl (hpresent fun hnone => hne ?_)
        exact (f.book.adverts.get?_put_of_ne advert hn).trans hnone
  | removed fullName =>
    refine ⟨h.type, fun name => ?_, hrest, ?_, ?_, h.present, ?_, ?_⟩
    · rw [← hlast]
      change reports.foldl _ ((f.book.adverts.erase fullName).get? name) = _
      rw [Association.get?_erase, SearchEvent.lastAdvert]
      simp only [eq_comm]
    · rintro _ he
      obtain rfl := Option.some.inj he
      exact habout
    · intro name a ha
      have herase : (f.book.adverts.erase fullName).get? name = some a := ha
      exact h.adverts (Association.get?_erase_eq_some_iff.1 herase).2
    · intro name hne
      have herase : (f.book.adverts.erase fullName).get? name ≠ none := hne
      rw [Association.get?_erase] at herase
      split at herase
      · exact absurd rfl herase
      · exact .inl (hpresent herase)
    · intro name he
      obtain rfl := Chore.remove.inj (Option.some.inj he)
      exact f.book.adverts.get?_erase_self _
  | stopped => exact habout.elim

/-- The watchers are told. -/
theorem tell {chore : Chore} (h : Current typeDomain interface fed f)
    (hchore : f.chore = some chore) (hwake : ∀ fullName, chore ≠ .wake fullName)
    (hexit : (ofParts (Relay.publish chore.fullName chore.event f.parts)).relay.exit = none) :
    Current typeDomain interface fed
      (ofParts (Relay.publish chore.fullName chore.event f.parts)) := by
  rw [ofParts_publish] at hexit ⊢
  dsimp only at hexit
  split at hexit
  case isFalse => cases hexit
  rename_i hopen
  rw [if_pos hopen, SharedBrowse.publish_frame]
  have hinstance := h.chore chore hchore
  refine ⟨h.type, h.last, h.reports, by simp, h.adverts, ?_, ?_, by simp⟩
  · intro name key hp
    rw [h.type.1, h.type.2] at hp
    have hrecord : (SharedBrowse.record chore.fullName f.browse.present
      (chore.event (.ofFullName chore.fullName typeDomain interface))).get? name = some key := hp
    cases chore with
    | wake n => exact absurd rfl (hwake n)
    | appear n =>
      have hput : (f.browse.present.put n (.ofFullName n typeDomain interface)).get? name =
        some key := hrecord
      rw [Association.get?_put] at hput
      split at hput
      · rename_i hn
        obtain rfl := Option.some.inj hput
        subst hn
        exact ⟨hinstance, rfl⟩
      · exact h.present hput
    | remove n =>
      have herase : (f.browse.present.erase n).get? name = some key := hrecord
      exact h.present (Association.get?_erase_eq_some_iff.1 herase).2
  · intro name hne
    left
    cases chore with
    | wake n => exact absurd rfl (hwake n)
    | appear n =>
      change (f.browse.present.put n _).get? name ≠ none
      rw [Association.get?_put]
      split
      · exact Option.some_ne_none _
      · rename_i hn
        rcases h.told hne with hp | hc | hc
        · exact hp
        · cases hchore.symm.trans hc
        · cases hchore.symm.trans hc
          exact absurd rfl hn
    | remove n =>
      change (f.browse.present.erase n).get? name ≠ none
      have hn : name ≠ n := by
        rintro rfl
        exact hne (h.struck hchore)
      rw [Association.get?_erase_of_ne _ hn]
      rcases h.told hne with hp | hc | hc
      · exact hp
      · cases hchore.symm.trans hc
      · cases hchore.symm.trans hc

/-- Waiters are woken. -/
theorem wake {fullName : String} (h : Current typeDomain interface fed f)
    (hchore : f.chore = some (.wake fullName)) :
    Current typeDomain interface fed
      { f with
        book := f.book.wake
        chore := some (.appear fullName) } := by
  refine ⟨h.type, h.last, h.reports, ?_, h.adverts, h.present, fun {name} hne => ?_, by simp⟩
  · rintro _ he
    obtain rfl := Option.some.inj he
    exact h.chore (.wake fullName) hchore
  · rcases h.told hne with hp | hc | hc
    · exact .inl hp
    · cases hchore.symm.trans hc
      exact .inr (.inr rfl)
    · cases hchore.symm.trans hc

theorem act (h : Current typeDomain interface fed f) (hact : f.act? action = some f')
    (hexit : f'.relay.exit = none) (habout : ∀ event ∈ action.reported, event.IsAbout typeDomain) :
    Current typeDomain interface (fed ++ action.reported) f' := by
  have hnone : fed ++ [] = fed := List.append_nil fed
  cases action with
  | report event =>
    rw [act?, Relay.put] at hact
    split at hact
    · rename_i relay hput
      obtain rfl := Option.some.inj hact
      split at hput
      · cases hput
      · obtain ⟨rfl, -⟩ := Prod.mk.inj hput
        refine ⟨h.type, fun name => ?_, fun e he => ?_, h.chore, h.adverts, h.present, h.told,
          h.struck⟩
        · rw [SearchEvent.lastAdvert?, FeedAction.reported, List.foldl_append, List.foldl_append]
          exact congrArg (List.foldl _ · [event]) (h.last name)
        · rcases List.mem_append.1 he with he | he
          · exact h.reports e he
          · exact habout e he
    · cases hact
  | work =>
    rw [FeedAction.reported, hnone]
    cases worked_of_work? hact with
    | read hchore _ hreports => exact h.read hchore hreports
    | woke hchore => exact h.wake hchore
    | told hchore hwake => exact h.tell hchore hwake hexit
  | attach =>
    rw [FeedAction.reported, hnone]
    obtain ⟨⟨browse, stream⟩, hattach, rfl⟩ := Option.map_eq_some_iff.1 hact
    rw [SharedBrowse.attach?] at hattach
    split at hattach
    · cases hattach
    · obtain ⟨rfl, -⟩ := Prod.mk.inj (Option.some.inj hattach)
      exact ⟨h.type, h.last, h.reports, h.chore, h.adverts, h.present, h.told, h.struck⟩
  | leave stream =>
    rw [FeedAction.reported, hnone]
    obtain rfl := Option.some.inj hact
    exact ⟨h.type, h.last, h.reports, h.chore, h.adverts, h.present, h.told, h.struck⟩

end Current

/-- A relay that goes on went on before. -/
theorem exit_eq_none_of_act (hact : f.act? action = some f') (hexit : f'.relay.exit = none) :
    f.relay.exit = none := by
  cases action with
  | report event =>
    rw [act?, Relay.put] at hact
    split at hact
    · rename_i relay hput
      split at hput
      · cases hput
      · rename_i hgoes
        rw [Bool.or_eq_true, not_or, Option.not_isSome_iff_eq_none] at hgoes
        exact hgoes.1
    · cases hact
  | work =>
    cases worked_of_work? hact with
    | read _ hgoes => exact hgoes
    | woke => exact hexit
    | told =>
      rw [ofParts_publish] at hexit
      dsimp only at hexit
      split at hexit
      · exact hexit
      · cases hexit
  | attach =>
    obtain ⟨⟨browse, stream⟩, -, rfl⟩ := Option.map_eq_some_iff.1 hact
    exact hexit
  | leave stream =>
    obtain rfl := Option.some.inj hact
    exact hexit

/-- As long as its relay goes on, a feed is up to date. -/
theorem Fed.current (h : Fed typeDomain interface f fed)
    (habout : ∀ event ∈ fed, event.IsAbout typeDomain) (hexit : f.relay.exit = none) :
    Current typeDomain interface fed f := by
  induction h with
  | start => exact .start typeDomain interface
  | step _ hact ih =>
    exact (ih (fun e he => habout e (List.mem_append_left _ he))
      (exit_eq_none_of_act hact hexit)).act hact hexit
      fun e he => habout e (List.mem_append_right _ he)

end Feed

end ServiceDiscovery
