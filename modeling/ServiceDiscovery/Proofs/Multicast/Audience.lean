import Mathlib.Data.List.Induction
import ServiceDiscovery.Proofs.Multicast.Feed

/-!
# The watchers of a browse

An `Audience` is a browse at work, together with what each of its watchers has read.
Reports are put to the relay and worked off, watchers come, read and go, and the node
forgets names that it withdrew itself, in any order (`Audience.Gathered`).

A watcher folds its stream: what was replayed to it when it attached, and every event
since. Main statement: what a watcher that is still connected was sent folds to the keys
that are present, whenever it came (`Audience.Gathered.mem_keysAfter_iff`). Only a name
that was forgotten makes a difference, until the next event of that name: it is present no
more, but those who watched already were not told.
-/

namespace ServiceDiscovery

/-! ## Folding a stream -/

namespace DirectoryEvent

variable {keys : List PeerKey} {events : List DirectoryEvent} {event : DirectoryEvent}
  {key : PeerKey}

theorem mem_apply : key ∈ event.apply keys ↔
    event = .appeared key ∨ (event ≠ .removed key ∧ event ≠ .reset ∧ key ∈ keys) := by
  cases event with
  | appeared k => grind [apply]
  | removed k => grind [apply]
  | reset => simp [apply]

theorem mem_keysAfter_append : key ∈ keysAfter (events ++ [event]) ↔
    event = .appeared key ∨ (event ≠ .removed key ∧ event ≠ .reset ∧ key ∈ keysAfter events) := by
  rw [keysAfter, List.foldl_append]
  exact mem_apply

/-- Keys that are replayed are known. -/
theorem mem_keysAfter_map_appeared : key ∈ keysAfter (keys.map .appeared) ↔ key ∈ keys := by
  induction keys using List.reverseRecOn with
  | nil => exact Iff.rfl
  | append_singleton keys k ih =>
    rw [List.map_append, List.map_singleton, mem_keysAfter_append, ih, List.mem_append,
      List.mem_singleton]
    simp [or_comm, eq_comm]

end DirectoryEvent

/-! ## Sending to streams -/

namespace SharedBrowse

variable {b : SharedBrowse} {fullName : String} {event : DirectoryEvent} {stream : Nat}
  {s : BrowseStream}

/-- The watchers that are told, and the others that read a stream. -/
theorem get?_streams_send : (b.send event).streams.get? stream =
    (b.streams.get? stream).map fun s =>
      if stream ∈ b.watchers then { s with unread := s.unread ++ [event] } else s := by
  rw [send, Association.get?_mapValues]
  cases hs : b.streams.get? stream with
  | none => rfl
  | some s => simp [List.mem_filter, Association.contains, hs]

theorem get?_streams_publish : (b.publish fullName event).1.streams.get? stream =
    (b.streams.get? stream).map fun s =>
      if stream ∈ b.watchers then { s with unread := s.unread ++ [event] } else s := by
  rw [publish]
  split <;> exact get?_streams_send

theorem mem_watchers_publish : stream ∈ (b.publish fullName event).1.watchers ↔
    stream ∈ b.watchers ∧ b.streams.get? stream ≠ none := by
  have hsend : stream ∈ b.watchers.filter b.streams.contains ↔
      stream ∈ b.watchers ∧ b.streams.get? stream ≠ none := by
    rw [List.mem_filter, Association.contains, Option.isSome_iff_ne_none]
  rw [publish]
  split <;> exact hsend

/-- Watchers are told of a reset, and disconnected. -/
theorem get?_streams_closeWithReset : b.closeWithReset.streams.get? stream =
    (b.streams.get? stream).map fun s =>
      if stream ∈ b.watchers then { unread := s.unread ++ [.reset], connected := false }
      else s := by
  rw [closeWithReset, Association.get?_mapValues, get?_streams_send]
  cases hs : b.streams.get? stream with
  | none => rfl
  | some s =>
    have hsent : stream ∈ (b.send .reset).watchers ↔ stream ∈ b.watchers := by
      simp [send, List.mem_filter, Association.contains, hs]
    by_cases hw : stream ∈ b.watchers
    · simp [hsent, hw]
    · simp [hsent, hw]

end SharedBrowse

/-! ## Audiences -/

/-- The name that a report is about. -/
def SearchEvent.fullName? : SearchEvent → Option String
  | found fullName | removed fullName => some fullName
  | resolved advert => some advert.fullName
  | started | stopped => none

/-- The name of which an action tells the watchers. -/
def Feed.told? (f : Feed) : FeedAction → Option String
  | .work =>
    match f.chore with
    | some (.appear fullName) | some (.remove fullName) => some fullName
    | some (.wake _) | none => none
  | .report _ | .attach | .leave _ => none

/-- A browse at work, and those who watch it. -/
structure Audience where
  feed : Feed
  /-- What was read of each stream. -/
  heard : Nat → List DirectoryEvent := fun _ => []
  /-- The names forgotten since the watchers were told of them last. -/
  forgotten : List String := []

/-- What may happen to an audience. -/
inductive AudienceAction
  | feed (action : FeedAction)
  /-- The relay is told to stop, or the responder is replaced. -/
  | close
  /-- A watcher reads the next event of its stream. -/
  | read (stream : Nat)
  | forget (fullName : String)

/-- The report that an action puts to the relay. -/
def AudienceAction.reported : AudienceAction → List SearchEvent
  | feed action => action.reported
  | close | read _ | forget _ => []

namespace Audience

/-- The audience after an action, if this could happen. -/
def act? (a : Audience) : AudienceAction → Option Audience
  | .feed action =>
    (a.feed.act? action).map fun feed =>
      { a with feed, forgotten := a.forgotten.filter (a.feed.told? action ≠ some ·) }
  | .close =>
    if a.feed.relay.exit.isSome || a.feed.chore.isSome then none
    else some { a with feed := .ofParts (Relay.stop a.feed.parts) }
  | .read stream =>
    (a.feed.browse.streams.get? stream).bind fun s =>
      match s.unread with
      | [] => none
      | event :: unread =>
        let streams := a.feed.browse.streams.put stream { s with unread }
        some { a with
          feed := { a.feed with browse := { a.feed.browse with streams } }
          heard := fun n => if n = stream then a.heard n ++ [event] else a.heard n }
  | .forget fullName =>
    some { a with
      feed := { a.feed with browse := a.feed.browse.forget fullName }
      forgotten := fullName :: a.forgotten }

/-- What a browse of a type with its watchers may become, with the reports put to its relay
    until then. -/
inductive Gathered (typeDomain interface : String) : Audience → List SearchEvent → Prop
  | start : Gathered typeDomain interface
      { feed := { browse := (SharedBrowse.start typeDomain interface).1 } } []
  | step {a a' : Audience} {fed : List SearchEvent} {action : AudienceAction} :
      Gathered typeDomain interface a fed → a.act? action = some a' →
      Gathered typeDomain interface a' (fed ++ action.reported)

/-- The audience after a series of actions, if they could happen. -/
def actAll? (a : Audience) : List AudienceAction → Option Audience
  | [] => some a
  | action :: actions => (a.act? action).bind fun a => a.actAll? actions

variable {typeDomain interface : String} {a a' : Audience} {fed : List SearchEvent}

theorem Gathered.actAll {actions : List AudienceAction} (h : Gathered typeDomain interface a fed)
    (ha : a.actAll? actions = some a') :
    Gathered typeDomain interface a' (fed ++ actions.flatMap AudienceAction.reported) := by
  induction actions generalizing a fed with
  | nil =>
    obtain rfl := Option.some.inj ha
    rw [List.flatMap_nil, List.append_nil]
    exact h
  | cons action actions ih =>
    obtain ⟨a₁, hfirst, hrest⟩ := Option.bind_eq_some_iff.1 ha
    rw [List.flatMap_cons, ← List.append_assoc]
    exact ih (h.step hfirst) hrest

/-! ## What the watchers agree on -/

/-- No name that has this key was forgotten, unless the watchers were told of it since. -/
def Remembers (typeDomain interface : String) (a : Audience) (key : PeerKey) : Prop :=
  ∀ name ∈ a.forgotten, IsInstance typeDomain name → key ≠ .ofFullName name typeDomain interface

/-- Of the key of an instance, only its own name matters. -/
theorem remembers_ofFullName_iff {name : String} (hname : IsInstance typeDomain name) :
    a.Remembers typeDomain interface (.ofFullName name typeDomain interface) ↔
      name ∉ a.forgotten := by
  refine ⟨fun h hn => h name hn hname rfl, fun h other hother hinstance he => h ?_⟩
  exact PeerKey.ofFullName_inj hname hinstance he ▸ hother

/-- What holds of an audience, whatever happens next. -/
structure Agreed (typeDomain interface : String) (a : Audience) : Prop where
  type : a.feed.browse.typeDomain = typeDomain ∧ a.feed.browse.interface = interface
  reports : ∀ event ∈ a.feed.relay.reports, ∀ name, event.fullName? = some name →
    IsInstance typeDomain name
  chore : ∀ {chore}, a.feed.chore = some chore → IsInstance typeDomain chore.fullName
  present : ∀ {name key}, a.feed.browse.present.get? name = some key →
    IsInstance typeDomain name ∧ key = .ofFullName name typeDomain interface
  watching : ∀ {stream s}, a.feed.browse.streams.get? stream = some s → s.connected = true →
    stream ∈ a.feed.browse.watchers
  /-- Numbers of streams are given out once. -/
  fresh : ∀ {stream}, a.feed.browse.nextStream ≤ stream →
    a.feed.browse.streams.get? stream = none ∧ a.heard stream = []
  knows : ∀ {stream s}, a.feed.browse.streams.get? stream = some s → s.connected = true →
    ∀ {key}, a.Remembers typeDomain interface key →
      (key ∈ DirectoryEvent.keysAfter (a.heard stream ++ s.unread) ↔
        key ∈ a.feed.browse.present.values)

namespace Agreed

/-- A browse that nobody watches yet. -/
theorem unwatched (typeDomain interface : String) :
    Agreed typeDomain interface { feed := { browse := { typeDomain, interface } } } where
  type := ⟨rfl, rfl⟩
  reports _ he := absurd he List.not_mem_nil
  chore he := by cases he
  present he := by cases he
  watching he := by cases he
  fresh _ := ⟨rfl, rfl⟩
  knows he := by cases he

/-- Somebody begins to watch, and is told what is present. -/
theorem attach (h : Agreed typeDomain interface a) : Agreed typeDomain interface
    { a with
      feed :=
        { a.feed with
          browse :=
            (a.feed.browse.addStream (a.feed.browse.present.values.map .appeared)).1 } } where
  type := h.type
  reports := h.reports
  chore := h.chore
  present := h.present
  watching {stream s} hs hc := by
    change (a.feed.browse.streams.put _ _).get? stream = some s at hs
    rw [Association.get?_put] at hs
    split at hs
    · rename_i hnew
      exact hnew ▸ List.mem_append_right _ (List.mem_singleton_self _)
    · exact List.mem_append_left _ (h.watching hs hc)
  fresh {stream} hs := by
    have hlt : a.feed.browse.nextStream < stream := hs
    have hle : a.feed.browse.nextStream ≤ stream := Nat.le_of_lt hlt
    refine ⟨?_, (h.fresh hle).2⟩
    change (a.feed.browse.streams.put _ _).get? stream = none
    rw [Association.get?_put_of_ne _ _ (Nat.ne_of_gt hlt)]
    exact (h.fresh hle).1
  knows {stream s} hs hc key hkey := by
    change (a.feed.browse.streams.put _ _).get? stream = some s at hs
    rw [Association.get?_put] at hs
    split at hs
    · rename_i hnew
      obtain rfl := Option.some.inj hs
      have hheard : a.heard stream = [] := (h.fresh (Nat.le_of_eq hnew.symm)).2
      change key ∈ DirectoryEvent.keysAfter (a.heard stream ++ _) ↔ _
      rw [hheard, List.nil_append]
      exact DirectoryEvent.mem_keysAfter_map_appeared
    · exact h.knows hs hc hkey

/-- The first watcher. -/
theorem start (typeDomain interface : String) : Agreed typeDomain interface
    { feed := { browse := (SharedBrowse.start typeDomain interface).1 } } :=
  (unwatched typeDomain interface).attach

/-- A watcher goes away. -/
theorem leave (h : Agreed typeDomain interface a) (stream : Nat) :
    Agreed typeDomain interface
      { a with feed := { a.feed with browse := a.feed.browse.dropStream stream } } := by
  have hkept {n : Nat} {s : BrowseStream}
      (hs : (a.feed.browse.streams.erase stream).get? n = some s) :
      a.feed.browse.streams.get? n = some s := (Association.get?_erase_eq_some_iff.1 hs).2
  refine ⟨h.type, h.reports, h.chore, h.present, fun hs => h.watching (hkept hs), fun {n} hn => ?_,
    fun hs => h.knows (hkept hs)⟩
  refine ⟨?_, (h.fresh hn).2⟩
  change (a.feed.browse.streams.erase stream).get? n = none
  rw [Association.get?_erase, (h.fresh hn).1, ite_self]

/-- A watcher reads what it was sent. -/
theorem read {stream : Nat} {s : BrowseStream} {event : DirectoryEvent}
    {unread : List DirectoryEvent} (h : Agreed typeDomain interface a)
    (hs : a.feed.browse.streams.get? stream = some s) (hu : s.unread = event :: unread) :
    Agreed typeDomain interface
      { a with
        feed :=
          { a.feed with
            browse :=
              { a.feed.browse with
                streams := a.feed.browse.streams.put stream { s with unread } } }
        heard := fun n => if n = stream then a.heard n ++ [event] else a.heard n } := by
  have hother {n : Nat} (hn : n ≠ stream) :
      (a.feed.browse.streams.put stream { s with unread }).get? n =
        a.feed.browse.streams.get? n := Association.get?_put_of_ne _ _ hn
  have hself : (a.feed.browse.streams.put stream { s with unread }).get? stream =
      some { s with unread } := Association.get?_put_self ..
  refine ⟨h.type, h.reports, h.chore, h.present, ?_, ?_, ?_⟩
  · intro n s' hs' hc
    change (a.feed.browse.streams.put stream { s with unread }).get? n = some s' at hs'
    by_cases hn : n = stream
    · subst hn
      obtain rfl := Option.some.inj (hself.symm.trans hs')
      exact h.watching hs hc
    · exact h.watching ((hother hn).symm.trans hs') hc
  · intro n hn
    have hne : n ≠ stream := by
      rintro rfl
      cases hs.symm.trans (h.fresh hn).1
    refine ⟨(hother hne).trans (h.fresh hn).1, ?_⟩
    dsimp only
    rw [if_neg hne]
    exact (h.fresh hn).2
  · intro n s' hs' hc key hkey
    change (a.feed.browse.streams.put stream { s with unread }).get? n = some s' at hs'
    dsimp only
    by_cases hn : n = stream
    · subst hn
      obtain rfl := Option.some.inj (hself.symm.trans hs')
      have hknows := h.knows hs hc hkey
      rw [hu] at hknows
      rwa [if_pos rfl, List.append_assoc, List.singleton_append]
    · rw [if_neg hn]
      exact h.knows ((hother hn).symm.trans hs') hc hkey

/-- The node forgets a name. -/
theorem forget (h : Agreed typeDomain interface a) (fullName : String) :
    Agreed typeDomain interface
      { a with
        feed := { a.feed with browse := a.feed.browse.forget fullName }
        forgotten := fullName :: a.forgotten } := by
  refine ⟨h.type, h.reports, h.chore, ?_, h.watching, h.fresh, ?_⟩
  · intro name key hp
    exact h.present (Association.get?_erase_eq_some_iff.1 hp).2
  · intro stream s hs hc key hkey
    rw [h.knows hs hc fun name hn => hkey name (List.mem_cons_of_mem _ hn),
      Association.mem_values_iff]
    change _ ↔ key ∈ (a.feed.browse.present.erase fullName).values
    rw [Association.mem_values_iff]
    refine exists_congr fun name => ?_
    rw [Association.get?_erase_eq_some_iff]
    refine ⟨fun hp => ⟨?_, hp⟩, And.right⟩
    rintro rfl
    exact hkey name List.mem_cons_self (h.present hp).1 (h.present hp).2

/-- The relay goes on without telling anything. -/
theorem work {feed : Feed} (h : Agreed typeDomain interface a)
    (hbrowse : feed.browse = a.feed.browse)
    (hreports : ∀ event ∈ feed.relay.reports, ∀ name, event.fullName? = some name →
      IsInstance typeDomain name)
    (hchore : ∀ {chore}, feed.chore = some chore → IsInstance typeDomain chore.fullName) :
    Agreed typeDomain interface { a with feed } := by
  obtain ⟨relay, browse, book, chore⟩ := feed
  obtain rfl : browse = a.feed.browse := hbrowse
  exact ⟨h.type, hreports, hchore, h.present, h.watching, h.fresh, h.knows⟩

/-- The search is over: every watcher is disconnected. -/
theorem stop (h : Agreed typeDomain interface a) (relay : Relay) : Agreed typeDomain interface
    { a with feed := .ofParts (Relay.stop (relay, a.feed.browse, a.feed.book)) } := by
  have hover {stream : Nat} {s : BrowseStream}
      (hs : a.feed.browse.closeWithReset.streams.get? stream = some s) :
      s.connected = false := by
    rw [SharedBrowse.get?_streams_closeWithReset] at hs
    obtain ⟨s₀, hs₀, rfl⟩ := Option.map_eq_some_iff.1 hs
    split
    · rfl
    · rename_i hw
      exact eq_false_of_ne_true fun hc => hw (h.watching hs₀ hc)
  refine ⟨h.type, fun _ he => absurd he List.not_mem_nil, fun he => (by cases he),
    fun he => (by cases he), fun hs hc => ?_, fun {stream} hn => ⟨?_, (h.fresh hn).2⟩,
    fun hs hc => ?_⟩
  · cases (hover hs).symm.trans hc
  · change a.feed.browse.closeWithReset.streams.get? stream = none
    rw [SharedBrowse.get?_streams_closeWithReset, (h.fresh hn).1, Option.map_none]
  · cases (hover hs).symm.trans hc

/-- What is recorded as present follows the events like a watcher does. -/
theorem mem_values_record {chore : Chore} {key : PeerKey} (h : Agreed typeDomain interface a)
    (hname : IsInstance typeDomain chore.fullName) (hwake : ∀ fullName, chore ≠ .wake fullName) :
    key ∈ (SharedBrowse.record chore.fullName a.feed.browse.present
        (chore.event (.ofFullName chore.fullName typeDomain interface))).values ↔
      chore.event (.ofFullName chore.fullName typeDomain interface) = .appeared key ∨
        (chore.event (.ofFullName chore.fullName typeDomain interface) ≠ .removed key ∧
          chore.event (.ofFullName chore.fullName typeDomain interface) ≠ .reset ∧
          key ∈ a.feed.browse.present.values) := by
  rw [Association.mem_values_iff, Association.mem_values_iff]
  cases chore with
  | wake n => exact absurd rfl (hwake n)
  | appear n =>
    change (∃ name, (a.feed.browse.present.put n _).get? name = some key) ↔
      DirectoryEvent.appeared (.ofFullName n typeDomain interface) = .appeared key ∨ _
    constructor
    · rintro ⟨name, hp⟩
      rw [Association.get?_put] at hp
      split at hp
      · exact .inl (congrArg _ (Option.some.inj hp))
      · exact .inr ⟨(by simp [Chore.event]), (by simp [Chore.event]), name, hp⟩
    · rintro (he | ⟨-, -, name, hp⟩)
      · obtain rfl := DirectoryEvent.appeared.inj he
        exact ⟨n, Association.get?_put_self ..⟩
      · refine ⟨name, ?_⟩
        rw [Association.get?_put]
        split
        · rename_i hn
          exact congrArg some (hn ▸ (h.present hp).2.symm)
        · exact hp
  | remove n =>
    change (∃ name, (a.feed.browse.present.erase n).get? name = some key) ↔
      DirectoryEvent.removed (.ofFullName n typeDomain interface) = .appeared key ∨ _
    constructor
    · rintro ⟨name, hp⟩
      obtain ⟨hn, hp⟩ := Association.get?_erase_eq_some_iff.1 hp
      refine .inr ⟨fun he => hn ?_, (by simp [Chore.event]), name, hp⟩
      obtain ⟨hinstance, hkey⟩ := h.present hp
      exact (PeerKey.ofFullName_inj hname hinstance
        ((DirectoryEvent.removed.inj he).trans hkey)).symm
    · rintro (he | ⟨he, -, name, hp⟩)
      · cases he
      · refine ⟨name, Association.get?_erase_eq_some_iff.2 ⟨?_, hp⟩⟩
        rintro rfl
        exact he (congrArg _ (h.present hp).2.symm)

/-- A report is read. -/
theorem readReport {event : SearchEvent} {reports : List SearchEvent}
    (h : Agreed typeDomain interface a) (hchore : a.feed.chore = none)
    (hreports : a.feed.relay.reports = event :: reports) :
    Agreed typeDomain interface
      { a with
        feed := .read event { a.feed with relay := { a.feed.relay with reports } } } := by
  have hname : ∀ name, event.fullName? = some name → IsInstance typeDomain name :=
    h.reports event (hreports ▸ List.mem_cons_self)
  have hrest : ∀ e ∈ reports, ∀ name, e.fullName? = some name → IsInstance typeDomain name :=
    fun e he => h.reports e (hreports ▸ List.mem_cons_of_mem _ he)
  cases event with
  | started => exact h.work rfl hrest fun he => (by cases hchore.symm.trans he)
  | found fullName | removed fullName =>
    refine h.work rfl hrest fun he => ?_
    obtain rfl := Option.some.inj he
    exact hname fullName rfl
  | resolved advert =>
    refine h.work rfl hrest fun he => ?_
    obtain rfl := Option.some.inj he
    exact hname advert.fullName rfl
  | stopped => exact h.stop { a.feed.relay with reports }

/-- The watchers are told of a name. -/
theorem tell {chore : Chore} (h : Agreed typeDomain interface a)
    (hchore : a.feed.chore = some chore) (hwake : ∀ fullName, chore ≠ .wake fullName) :
    Agreed typeDomain interface
      { a with
        feed := .ofParts (Relay.publish chore.fullName chore.event a.feed.parts)
        forgotten := a.forgotten.filter (some chore.fullName ≠ some ·) } := by
  have hname := h.chore hchore
  rw [Feed.ofParts_publish, h.type.1, h.type.2, SharedBrowse.publish_frame]
  -- What a watcher knows after that, by what it knew before.
  have hstreams {stream : Nat} {s : BrowseStream}
      (hs : (a.feed.browse.publish chore.fullName
        (chore.event (.ofFullName chore.fullName typeDomain interface))).1.streams.get? stream =
          some s) (hc : s.connected = true) :
      ∃ s₀, a.feed.browse.streams.get? stream = some s₀ ∧ s₀.connected = true ∧
        stream ∈ a.feed.browse.watchers ∧ s.unread =
          s₀.unread ++ [chore.event (.ofFullName chore.fullName typeDomain interface)] := by
    rw [SharedBrowse.get?_streams_publish] at hs
    obtain ⟨s₀, hs₀, rfl⟩ := Option.map_eq_some_iff.1 hs
    split at hc
    · rename_i hw
      rw [if_pos hw]
      exact ⟨s₀, hs₀, hc, hw, rfl⟩
    · rename_i hw
      exact absurd (h.watching hs₀ hc) hw
  refine ⟨h.type, ?_, fun he => (by cases he), ?_, ?_, ?_, ?_⟩
  · intro event he
    dsimp only at he
    split at he
    · exact h.reports event he
    · exact absurd he List.not_mem_nil
  · intro name key hp
    change (SharedBrowse.record _ _ _).get? name = some key at hp
    cases chore with
    | wake n => exact absurd rfl (hwake n)
    | appear n =>
      change (a.feed.browse.present.put n _).get? name = some key at hp
      rw [Association.get?_put] at hp
      split at hp
      · rename_i hn
        exact ⟨hn ▸ hname, hn ▸ (Option.some.inj hp).symm⟩
      · exact h.present hp
    | remove n =>
      change (a.feed.browse.present.erase n).get? name = some key at hp
      exact h.present (Association.get?_erase_eq_some_iff.1 hp).2
  · intro stream s hs hc
    obtain ⟨s₀, hs₀, -, hw, -⟩ := hstreams hs hc
    exact SharedBrowse.mem_watchers_publish.2 ⟨hw, hs₀ ▸ Option.some_ne_none _⟩
  · intro stream hn
    refine ⟨?_, (h.fresh hn).2⟩
    change (a.feed.browse.publish _ _).1.streams.get? stream = none
    rw [SharedBrowse.get?_streams_publish, (h.fresh hn).1, Option.map_none]
  · intro stream s hs hc key hkey
    obtain ⟨s₀, hs₀, hc₀, -, hunread⟩ := hstreams hs hc
    have hothers (hne : key ≠ .ofFullName chore.fullName typeDomain interface) :
        a.Remembers typeDomain interface key := by
      intro name hn hinstance he
      by_cases hself : chore.fullName = name
      · exact hne (hself ▸ he)
      · have hleft : name ∈ a.forgotten.filter (some chore.fullName ≠ some ·) :=
          List.mem_filter.2 ⟨hn, decide_eq_true (hself ∘ Option.some.inj)⟩
        exact hkey name hleft hinstance he
    change key ∈ DirectoryEvent.keysAfter (a.heard stream ++ s.unread) ↔
      key ∈ (SharedBrowse.record _ _ _).values
    rw [hunread, ← List.append_assoc, DirectoryEvent.mem_keysAfter_append,
      h.mem_values_record hname hwake]
    by_cases hself : key = .ofFullName chore.fullName typeDomain interface
    · -- The event alone decides: what was known before may be out of date.
      cases chore with
      | wake n => exact absurd rfl (hwake n)
      | appear n => exact iff_of_true (.inl (hself ▸ rfl)) (.inl (hself ▸ rfl))
      | remove n => simp [Chore.event, Chore.fullName, hself]
    · rw [h.knows hs₀ hc₀ (hothers hself)]

theorem feed {action : FeedAction} {feed : Feed} (h : Agreed typeDomain interface a)
    (hact : a.feed.act? action = some feed)
    (hfed : ∀ event ∈ action.reported, ∀ name, event.fullName? = some name →
      IsInstance typeDomain name) :
    Agreed typeDomain interface
      { a with feed, forgotten := a.forgotten.filter (a.feed.told? action ≠ some ·) } := by
  have hsilent (htold : a.feed.told? action = none) :
      a.forgotten.filter (a.feed.told? action ≠ some ·) = a.forgotten := by
    rw [htold]
    exact List.filter_eq_self.2 fun _ _ => decide_eq_true nofun
  cases action with
  | report event =>
    rw [hsilent rfl]
    rw [Feed.act?, Relay.put] at hact
    split at hact
    · rename_i relay hput
      obtain rfl := Option.some.inj hact
      split at hput
      · cases hput
      · obtain ⟨rfl, -⟩ := Prod.mk.inj hput
        refine h.work rfl (fun e he => ?_) h.chore
        rcases List.mem_append.1 he with he | he
        · exact h.reports e he
        · exact hfed e he
    · cases hact
  | work =>
    cases Feed.worked_of_work? hact with
    | @read event reports hchore _ hreports =>
      rw [hsilent (by rw [Feed.told?, hchore])]
      exact h.readReport hchore hreports
    | woke hchore =>
      rw [hsilent (by rw [Feed.told?, hchore])]
      have hname := h.chore hchore
      refine h.work rfl h.reports fun he => ?_
      obtain rfl := Option.some.inj he
      exact hname
    | @told chore hchore hwake =>
      have htold : a.feed.told? .work = some chore.fullName := by
        rw [Feed.told?, hchore]
        cases chore with
        | wake n => exact absurd rfl (hwake n)
        | appear n | remove n => rfl
      rw [htold]
      exact h.tell hchore hwake
  | attach =>
    rw [hsilent rfl]
    obtain ⟨⟨browse, stream⟩, hattach, rfl⟩ := Option.map_eq_some_iff.1 hact
    rw [SharedBrowse.attach?] at hattach
    split at hattach
    · cases hattach
    · obtain ⟨rfl, -⟩ := Prod.mk.inj (Option.some.inj hattach)
      exact h.attach
  | leave stream =>
    rw [hsilent rfl]
    obtain rfl := Option.some.inj hact
    exact h.leave stream

theorem act {action : AudienceAction} (h : Agreed typeDomain interface a)
    (hact : a.act? action = some a')
    (hfed : ∀ event ∈ action.reported, ∀ name, event.fullName? = some name →
      IsInstance typeDomain name) : Agreed typeDomain interface a' := by
  cases action with
  | feed action =>
    obtain ⟨feed, hfeed, rfl⟩ := Option.map_eq_some_iff.1 hact
    exact h.feed hfeed hfed
  | close =>
    rw [Audience.act?] at hact
    split at hact
    · cases hact
    · obtain rfl := Option.some.inj hact
      exact h.stop a.feed.relay
  | read stream =>
    obtain ⟨s, hs, hread⟩ := Option.bind_eq_some_iff.1 hact
    split at hread
    · cases hread
    · rename_i event unread hu
      obtain rfl := Option.some.inj hread
      exact h.read hs hu
  | forget fullName =>
    obtain rfl := Option.some.inj hact
    exact h.forget fullName

end Agreed

theorem Gathered.agreed (h : Gathered typeDomain interface a fed)
    (hfed : ∀ event ∈ fed, ∀ name, event.fullName? = some name → IsInstance typeDomain name) :
    Agreed typeDomain interface a := by
  induction h with
  | start => exact .start typeDomain interface
  | step _ hact ih =>
    exact (ih fun e he => hfed e (List.mem_append_left _ he)).act hact
      fun e he => hfed e (List.mem_append_right _ he)

/-- Whoever still watches knows what is present: what was replayed to a watcher, and every
    event that it was sent since, read or not, fold to the keys that are present, but for
    names that were forgotten since their last event. So those who came late know what those
    who came early know. -/
theorem Gathered.mem_keysAfter_iff (h : Gathered typeDomain interface a fed)
    (hfed : ∀ event ∈ fed, ∀ name, event.fullName? = some name → IsInstance typeDomain name)
    {stream : Nat} {s : BrowseStream} (hs : a.feed.browse.streams.get? stream = some s)
    (hc : s.connected = true) {key : PeerKey} (hkey : a.Remembers typeDomain interface key) :
    (key ∈ DirectoryEvent.keysAfter (a.heard stream ++ s.unread) ↔
        key ∈ a.feed.browse.present.values) ∧
      ∀ {other s'}, a.feed.browse.streams.get? other = some s' → s'.connected = true →
        (key ∈ DirectoryEvent.keysAfter (a.heard other ++ s'.unread) ↔
          key ∈ DirectoryEvent.keysAfter (a.heard stream ++ s.unread)) := by
  have hagreed := h.agreed hfed
  have hpresent := hagreed.knows hs hc hkey
  exact ⟨hpresent, fun hs' hc' => (hagreed.knows hs' hc' hkey).trans hpresent.symm⟩

/-- Somebody attaches after one of two names was read about and the other was forgotten; then
    the first is withdrawn, and a third is found. -/
theorem Gathered.mem_keysAfter_iff_late :
    let type := "_p._tcp.local."
    let first : Audience := { feed := { browse := (SharedBrowse.start type "eth0").1 } }
    let tell (event : SearchEvent) : List AudienceAction :=
      [.feed (.report event), .feed .work, .feed .work]
    let actions : List AudienceAction :=
      tell (.found "a._p._tcp.local.") ++ tell (.found "b._p._tcp.local.") ++
        [.read 0, .forget "b._p._tcp.local.", .feed .attach] ++
        tell (.removed "a._p._tcp.local.") ++ tell (.found "c._p._tcp.local.")
    let key := PeerKey.ofFullName "c._p._tcp.local." type "eth0"
    ∃ a early late, first.actAll? actions = some a ∧
      a.feed.browse.streams.get? 0 = some early ∧ early.connected = true ∧
      a.feed.browse.streams.get? 1 = some late ∧ late.connected = true ∧
      a.forgotten = ["b._p._tcp.local."] ∧ a.Remembers type "eth0" key ∧
      key ∈ a.feed.browse.present.values ∧
      (key ∈ DirectoryEvent.keysAfter (a.heard 1 ++ late.unread) ↔
        key ∈ a.feed.browse.present.values) ∧
      (key ∈ DirectoryEvent.keysAfter (a.heard 0 ++ early.unread) ↔
        key ∈ DirectoryEvent.keysAfter (a.heard 1 ++ late.unread)) := by
  intro type first tell actions key
  have hrun : (first.actAll? actions).any fun a =>
      (a.feed.browse.streams.get? 0).any (·.connected) ∧
        (a.feed.browse.streams.get? 1).any (·.connected) ∧
        a.forgotten = ["b._p._tcp.local."] ∧ key ∈ a.feed.browse.present.values := by
    decide +kernel
  obtain ⟨a, ha, hfacts⟩ := (Option.any_eq_true ..).1 hrun
  obtain ⟨hearly, hlate, hforgotten, hpresent⟩ := of_decide_eq_true hfacts
  obtain ⟨early, hearly, hec⟩ := (Option.any_eq_true ..).1 hearly
  obtain ⟨late, hlate, hlc⟩ := (Option.any_eq_true ..).1 hlate
  have hfed : ∀ event ∈ actions.flatMap AudienceAction.reported, ∀ name,
      event.fullName? = some name → IsInstance type name := by
    have hnames : (actions.flatMap AudienceAction.reported).filterMap SearchEvent.fullName? =
        ["a", "b", "a", "c"].map (· ++ "." ++ type) := by decide +kernel
    have hdots : ∀ n ∈ ["a", "b", "a", "c"], n.toList.getLast? ≠ some '.' := by decide +kernel
    intro event he name hn
    have hm : name ∈ _ := List.mem_filterMap.2 ⟨event, he, hn⟩
    rw [hnames] at hm
    obtain ⟨n, hlisted, rfl⟩ := List.mem_map.1 hm
    exact ⟨n, rfl, hdots n hlisted⟩
  have hremembers : a.Remembers type "eth0" key := by
    have hname : IsInstance type "c._p._tcp.local." := ⟨"c", by decide +kernel, by decide +kernel⟩
    rw [remembers_ofFullName_iff hname, hforgotten]
    decide +kernel
  obtain ⟨hknown, hothers⟩ :=
    (Gathered.start.actAll ha).mem_keysAfter_iff hfed hlate hlc hremembers
  exact ⟨a, early, late, ha, hearly, hec, hlate, hlc, hforgotten, hremembers, hpresent, hknown,
    hothers hearly hec⟩

end Audience

end ServiceDiscovery
