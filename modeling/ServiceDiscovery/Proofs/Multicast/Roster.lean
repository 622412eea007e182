import ServiceDiscovery.Multicast.Directory
import ServiceDiscovery.Proofs.Multicast.Duty

/-!
# The list of browses

Whoever attaches to a type, tidies up after a relay or takes a registration back holds the
list of browses meanwhile, and lets go of it only once the responder has answered. All else
goes on beside that: a relay takes a step in the moment in which it has its browse, and
watchers read and leave. A `Roster` is the directory with who holds its list, and how far
that one is. What it does in one go (`MulticastDirectory.watch`, `MulticastDirectory.tidy?`)
it does here in the steps that others may come between (`Roster.watch_eq`,
`Roster.tidy?_eq`).

A browse that closed stays closed. So what the holder of the list found closed is so as long
as it holds the list (`Roster.Orderly.held`), and nobody but the holder starts a browse. Main
statement: there is at most one open browse of a type, the one listed, and a search is
stopped only while there is none (`Roster.Ran.one_of_each`).
-/

namespace ServiceDiscovery

/-! ## Browses in the course of time -/

/-- What may become of a browse and its relay, beside whoever holds the list. -/
structure BrowseRun.Ages (run run' : BrowseRun) : Prop where
  typeDomain : run'.browse.typeDomain = run.browse.typeDomain
  /-- A browse that closed stays closed. -/
  closed : run.browse.closed = true → run'.browse.closed = true
  /-- A relay that ends has closed its browse. -/
  exit : run'.relay.exit = run.relay.exit ∨ run'.browse.closed = true

namespace BrowseRun

variable {run run' : BrowseRun}

/-- The run with its relay and its browse as in some parts. -/
def withParts (run : BrowseRun) (parts : Relay.Parts) : BrowseRun :=
  { run with relay := parts.1, browse := parts.2.1 }

/-- The relay may change, and who watches. -/
theorem Ages.of_eq (htype : run'.browse.typeDomain = run.browse.typeDomain)
    (hclosed : run'.browse.closed = run.browse.closed)
    (hexit : run'.relay.exit = run.relay.exit) : run.Ages run' :=
  ⟨htype, fun h => hclosed.trans h, .inl hexit⟩

theorem Ages.refl (run : BrowseRun) : run.Ages run := .of_eq rfl rfl rfl

theorem Ages.trans {run'' : BrowseRun} (h : run.Ages run') (h' : run'.Ages run'') :
    run.Ages run'' where
  typeDomain := h'.typeDomain.trans h.typeDomain
  closed hc := h'.closed (h.closed hc)
  exit := h'.exit.elim (fun he => h.exit.imp he.trans h'.closed) .inr

theorem ages_stop (relay : Relay) (book : AddressBook) :
    run.Ages (run.withParts (Relay.stop (relay, run.browse, book))) :=
  ⟨rfl, fun _ => rfl, .inr rfl⟩

theorem ages_publish (relay : Relay) (book : AddressBook) (fullName : String)
    (event : PeerKey → DirectoryEvent) (hexit : relay.exit = run.relay.exit) :
    run.Ages (run.withParts (Relay.publish fullName event (relay, run.browse, book))) := by
  rw [Relay.publish]
  have hframe := run.browse.publish_frame fullName
    (event (.ofFullName fullName run.browse.typeDomain run.browse.interface))
  split
  · rename_i browse hpublish
    rw [hpublish] at hframe
    have htype := congrArg SharedBrowse.typeDomain hframe
    have hclosed := congrArg SharedBrowse.closed hframe
    exact .of_eq htype (hclosed.trans (Bool.or_false _)) hexit
  · rename_i browse hpublish
    rw [hpublish] at hframe
    have htype := congrArg SharedBrowse.typeDomain hframe
    have hclosed := congrArg SharedBrowse.closed hframe
    have hends : browse.closed = true := hclosed.trans (Bool.or_true _)
    exact ⟨htype, fun _ => hends, .inr hends⟩

/-- A step of the relay. -/
theorem ages_of_step? {signal : RelaySignal} {book : AddressBook} {parts : Relay.Parts}
    (h : Relay.step? (run.relay, run.browse, book) signal = some parts) :
    run.Ages (run.withParts parts) := by
  unfold Relay.step? at h
  obtain ⟨-, h⟩ := Option.ite_none_left_eq_some.1 h
  cases signal with
  | cancelled | replaced =>
    obtain ⟨-, he⟩ := Option.ite_none_right_eq_some.1 h
    obtain rfl := Option.some.inj he
    exact ages_stop _ _
  | report =>
    cases hreports : run.relay.reports with
    | nil =>
      rw [hreports] at h
      obtain ⟨-, he⟩ := Option.ite_none_left_eq_some.1 h
      obtain rfl := Option.some.inj he
      exact ages_stop _ _
    | cons event reports =>
      rw [hreports] at h
      obtain rfl := Option.some.inj h
      cases event with
      | started => exact .of_eq rfl rfl rfl
      | found | resolved | removed => exact ages_publish { run.relay with reports } _ _ _ rfl
      | stopped => exact ages_stop _ _

end BrowseRun

namespace MulticastDirectory

/-- A browse of a type is open. -/
def Open (d : MulticastDirectory) (id : Nat) (typeDomain : String) : Prop :=
  ∃ run, d.runs.get? id = some run ∧ run.browse.typeDomain = typeDomain ∧
    run.browse.closed = false

instance (d : MulticastDirectory) (id : Nat) (typeDomain : String) :
    Decidable (d.Open id typeDomain) :=
  decidable_of_iff
    ((d.runs.get? id).any fun run =>
      run.browse.typeDomain = typeDomain ∧ run.browse.closed = false)
    (by simp [Open, Option.any_eq_true])

/-- What may become of a directory beside whoever holds its list. -/
structure Ages (d d' : MulticastDirectory) : Prop where
  listed : d'.listed = d.listed
  nextRun : d'.nextRun = d.nextRun
  runs : ∀ id, Option.Rel BrowseRun.Ages (d.runs.get? id) (d'.runs.get? id)

variable {d d' : MulticastDirectory} {id : Nat} {typeDomain : String}

theorem Ages.trans {d'' : MulticastDirectory} (h : d.Ages d') (h' : d'.Ages d'') :
    d.Ages d'' where
  listed := h'.listed.trans h.listed
  nextRun := h'.nextRun.trans h.nextRun
  runs id := by
    -- The number stands for no browse throughout, or for one that aged twice.
    have hrun := h.runs id
    have hrun' := h'.runs id
    generalize d.runs.get? id = run₀ at hrun
    generalize d'.runs.get? id = run₁ at hrun hrun'
    generalize d''.runs.get? id = run₂ at hrun'
    cases hrun with
    | none => exact hrun'
    | some ha =>
      cases hrun' with
      | some hb => exact .some (ha.trans hb)

theorem Ages.refl (d : MulticastDirectory) : d.Ages d where
  listed := rfl
  nextRun := rfl
  runs id := by
    cases d.runs.get? id with
    | none => exact .none
    | some run => exact .some (.refl run)

/-- The browses age on their own, and nothing happens to the list. -/
theorem Ages.of_forall (hlisted : d'.listed = d.listed) (hnext : d'.nextRun = d.nextRun)
    {age : Nat → BrowseRun → BrowseRun}
    (hruns : ∀ id, d'.runs.get? id = (d.runs.get? id).map (age id))
    (hage : ∀ id (run : BrowseRun), run.Ages (age id run)) : d.Ages d' where
  listed := hlisted
  nextRun := hnext
  runs id := by
    rw [hruns]
    cases d.runs.get? id with
    | none => exact .none
    | some run => exact .some (hage id run)

theorem ages_setRun {run run' : BrowseRun} (h : d.runs.get? id = some run)
    (ha : run.Ages run') : d.Ages (d.setRun id run') where
  listed := rfl
  nextRun := rfl
  runs other := by
    change Option.Rel BrowseRun.Ages _ ((d.runs.put id run').get? other)
    rw [Association.get?_put]
    split
    · rename_i he
      rw [he, h]
      exact .some ha
    · cases d.runs.get? other with
      | none => exact .none
      | some run => exact .some (.refl run)

theorem ages_updateBrowse {f : SharedBrowse → SharedBrowse}
    (htype : ∀ browse, (f browse).typeDomain = browse.typeDomain)
    (hclosed : ∀ browse, (f browse).closed = browse.closed) : d.Ages (d.updateBrowse id f) :=
  .of_forall rfl rfl (fun other => Association.get?_mapValues _ _ other) fun other run => by
    split
    · exact .of_eq (htype _) (hclosed _) rfl
    · exact .refl run

theorem ages_stepRelay? {signal : RelaySignal} (h : d.stepRelay? id signal = some d') :
    d.Ages d' := by
  obtain ⟨run, hrun, h⟩ := Option.bind_eq_some_iff.1 h
  obtain ⟨parts, hstep, he⟩ := Option.bind_eq_some_iff.1 h
  obtain rfl := Option.some.inj he
  obtain ⟨hlisted, hnext, hruns⟩ := ages_setRun hrun (BrowseRun.ages_of_step? hstep)
  exact ⟨hlisted, hnext, hruns⟩

theorem ages_join? {ref : WatchRef} (h : d.join? typeDomain = some (d', ref)) : d.Ages d' := by
  obtain ⟨id, -, h⟩ := Option.bind_eq_some_iff.1 h
  obtain ⟨run, hrun, h⟩ := Option.bind_eq_some_iff.1 h
  obtain ⟨⟨browse, stream⟩, hattach, he⟩ := Option.bind_eq_some_iff.1 h
  obtain ⟨rfl, -⟩ := Prod.mk.inj (Option.some.inj he)
  obtain ⟨-, hattach⟩ := Option.ite_none_left_eq_some.1 hattach
  obtain ⟨rfl, -⟩ := Prod.mk.inj (Option.some.inj hattach)
  exact ages_setRun hrun (.of_eq rfl rfl rfl)

theorem ages_withdraw (fullName : String) : d.Ages (d.withdraw fullName).1 := by
  rw [withdraw]
  split
  · exact .refl d
  · have hforget (ids : List Nat) :
        ∀ d : MulticastDirectory, d.Ages
          (ids.foldl (fun d id => d.updateBrowse id (·.forget fullName)) d) := by
      induction ids with
      | nil => exact .refl
      | cons id ids ih =>
        intro d
        have hfirst : d.Ages (d.updateBrowse id (·.forget fullName)) :=
          ages_updateBrowse (fun _ => rfl) fun _ => rfl
        exact hfirst.trans (ih _)
    exact hforget d.listed.values d

/-! ## What goes on beside the list -/

end MulticastDirectory

/-- What may happen to a directory beside whoever holds its list. -/
inductive DirectoryAction
  /-- A relay notices something that is there. -/
  | relay (run : Nat) (signal : RelaySignal)
  | report (run : Nat) (event : SearchEvent)
  /-- Nothing will be reported any more. -/
  | disconnect (run : Nat)
  /-- The responder is replaced, or cannot be any more. -/
  | replace (run : Nat)
  /-- Every relay is told to stop. -/
  | cancel
  /-- The responder is shut down. -/
  | close
  /-- A watcher reads the next event of its stream. -/
  | read (ref : WatchRef)
  /-- A watcher stops reading its stream. -/
  | leave (ref : WatchRef)
  deriving DecidableEq

namespace MulticastDirectory

variable {d d' : MulticastDirectory} {id : Nat} {typeDomain : String}

/-- Change the relay of a browse. -/
def updateRelay? (d : MulticastDirectory) (id : Nat) (f : Relay → Relay) :
    Option MulticastDirectory :=
  (d.runs.get? id).map fun run => d.setRun id { run with relay := f run.relay }

/-- What an action beside the list leads to, if it could happen. -/
def act? (d : MulticastDirectory) : DirectoryAction → Option MulticastDirectory
  | .relay id signal => d.stepRelay? id signal
  | .report id event => d.updateRelay? id fun relay => (relay.put event).1
  | .disconnect id => d.updateRelay? id fun relay => { relay with connected := false }
  | .replace id => d.updateRelay? id fun relay => { relay with replaced := true }
  | .cancel =>
    some
      { d with
        runs := d.runs.mapValues fun _ run =>
          { run with relay := { run.relay with cancelled := true } }
        cancelled := true }
  | .close => some { d with responder := d.responder.shutDown.1 }
  | .read ref =>
    some (d.updateBrowse ref.browse fun browse =>
      { browse with
        streams := browse.streams.update ref.stream fun s => { s with unread := s.unread.tail } })
  | .leave ref => some (d.dropWatch ref)

/-- A directory that is shut down tells its relays to stop first. -/
theorem shutDown_eq (d : MulticastDirectory) :
    [DirectoryAction.cancel, .close].foldlM act? d = some d.shutDown.1 := rfl

theorem ages_updateRelay? {f : Relay → Relay} (h : d.updateRelay? id f = some d')
    (hf : ∀ relay, (f relay).exit = relay.exit) : d.Ages d' := by
  obtain ⟨run, hrun, rfl⟩ := Option.map_eq_some_iff.1 h
  exact ages_setRun hrun (.of_eq rfl rfl (hf run.relay))

theorem ages_act? {action : DirectoryAction} (h : d.act? action = some d') : d.Ages d' := by
  unfold act? at h
  cases action with
  | relay => exact ages_stepRelay? h
  | report id event =>
    refine ages_updateRelay? h fun relay => ?_
    rw [Relay.put]
    split <;> rfl
  | disconnect | replace => exact ages_updateRelay? h fun _ => rfl
  | cancel =>
    obtain rfl := Option.some.inj h
    exact .of_forall rfl rfl (fun id => Association.get?_mapValues _ _ id)
      fun _ _ => .of_eq rfl rfl rfl
  | close =>
    obtain rfl := Option.some.inj h
    exact ⟨rfl, rfl, (Ages.refl d).runs⟩
  | read | leave =>
    obtain rfl := Option.some.inj h
    exact ages_updateBrowse (fun _ => rfl) fun _ => rfl

/-! ## The browses listed -/

/-- What holds of the browses of a directory and of its list. -/
structure Orderly (d : MulticastDirectory) : Prop where
  /-- The browses are numbered in the order in which they were started. -/
  started : ∀ id, (d.runs.get? id).isSome ↔ id < d.nextRun
  ended : ∀ {id run}, d.runs.get? id = some run → run.relay.exit ≠ none →
    run.browse.closed = true
  listed : ∀ {id typeDomain}, d.Open id typeDomain → d.listed.get? typeDomain = some id

theorem Ages.open (h : d.Ages d') (hopen : d'.Open id typeDomain) : d.Open id typeDomain := by
  obtain ⟨run', hrun', htype, hopen⟩ := hopen
  have hrun := h.runs id
  rw [hrun'] at hrun
  generalize hrun₀ : d.runs.get? id = run₀ at hrun
  cases hrun with
  | @some run _ ha =>
    refine ⟨run, hrun₀, ha.typeDomain.symm.trans htype, eq_false_of_ne_true fun hclosed => ?_⟩
    cases hopen.symm.trans (ha.closed hclosed)

namespace Orderly

theorem ages (h : d.Orderly) (ha : d.Ages d') : d'.Orderly where
  started id := by
    rw [ha.nextRun, ← h.started]
    have hrun := ha.runs id
    generalize d.runs.get? id = run at hrun
    generalize d'.runs.get? id = run' at hrun
    cases hrun with
    | none => exact Iff.rfl
    | some => exact iff_of_true rfl rfl
  ended {id run'} hrun' hexit := by
    have hrun := ha.runs id
    rw [hrun'] at hrun
    generalize hrun₀ : d.runs.get? id = run₀ at hrun
    cases hrun with
    | @some run _ hage =>
      exact hage.exit.elim (fun he => hage.closed (h.ended hrun₀ (he ▸ hexit))) fun hc => hc
  listed hopen := ha.listed ▸ h.listed (ha.open hopen)

/-- If the browse listed under a type takes no watcher, none of the type is open. -/
theorem not_open_of_join?_eq_none (h : d.Orderly) (hnone : d.join? typeDomain = none) :
    ¬ d.Open id typeDomain := by
  intro hopen
  -- It would be the one listed, and take the watcher.
  have hlisted := h.listed hopen
  obtain ⟨run, hrun, -, hopen⟩ := hopen
  simp [join?, hlisted, hrun, SharedBrowse.attach?, hopen] at hnone

/-- A browse is started of a type of which none is open. -/
theorem startRun (h : d.Orderly) (hnone : ∀ id, ¬ d.Open id typeDomain) :
    (d.startRun typeDomain).1.Orderly where
  started id := by
    change ((d.runs.put d.nextRun _).get? id).isSome ↔ id < d.nextRun + 1
    rw [Association.get?_put]
    split
    · rename_i he
      exact iff_of_true rfl (he ▸ Nat.lt_succ_self _)
    · rename_i hne
      rw [h.started]
      exact ⟨Nat.lt_succ_of_lt, fun hlt => Nat.lt_of_le_of_ne (Nat.le_of_lt_succ hlt) hne⟩
  ended {id run} hrun hexit := by
    change (d.runs.put d.nextRun _).get? id = some run at hrun
    rw [Association.get?_put] at hrun
    split at hrun
    · obtain rfl := Option.some.inj hrun
      exact absurd rfl hexit
    · exact h.ended hrun hexit
  listed {id typeDomain'} hopen := by
    obtain ⟨run, hrun, htype, hopen⟩ := hopen
    change (d.runs.put d.nextRun _).get? id = some run at hrun
    change (d.listed.put typeDomain d.nextRun).get? typeDomain' = some id
    rw [Association.get?_put] at hrun ⊢
    split at hrun
    · rename_i he
      obtain rfl := Option.some.inj hrun
      rw [if_pos htype.symm, he]
    · have hopen' : d.Open id typeDomain' := ⟨run, hrun, htype, hopen⟩
      rw [if_neg fun he : typeDomain' = typeDomain => hnone id (he ▸ hopen')]
      exact h.listed hopen'

end Orderly

/-- What tidying up after a relay does. -/
inductive Tidies (d : MulticastDirectory) (id : Nat) (run : BrowseRun) :
    MulticastDirectory → Bool → Prop
  | struck {stop : Bool} : d.listed.get? run.browse.typeDomain = some id →
      Tidies d id run
        { d.setRun id { run with tidied := true } with
          listed := d.listed.erase run.browse.typeDomain } stop
  | passed : d.listed.get? run.browse.typeDomain ≠ some id →
      Tidies d id run (d.setRun id { run with tidied := true }) false

theorem tidies_of_tidy? {stop : Bool} (h : d.tidy? id = some (d', stop)) :
    ∃ run, d.runs.get? id = some run ∧ run.relay.exit ≠ none ∧ d.Tidies id run d' stop := by
  obtain ⟨run, hrun, h⟩ := Option.bind_eq_some_iff.1 h
  obtain ⟨exit, hexit, h⟩ := Option.bind_eq_some_iff.1 h
  obtain ⟨-, h⟩ := Option.ite_none_left_eq_some.1 h
  refine ⟨run, hrun, hexit ▸ Option.some_ne_none exit, ?_⟩
  obtain ⟨hlisted, he⟩ | ⟨hlisted, he⟩ := ite_eq_iff.1 h
  · obtain ⟨rfl, rfl⟩ := Prod.mk.inj (Option.some.inj he)
    exact .struck hlisted
  · obtain ⟨rfl, rfl⟩ := Prod.mk.inj (Option.some.inj he)
    exact .passed hlisted

/-- What is struck off the list is the browse that is tidied up. -/
theorem Tidies.get?_listed {run : BrowseRun} {stop : Bool} {other : Nat}
    (h : d.Tidies id run d' stop) (hother : other ≠ id) (typeDomain : String) :
    d'.listed.get? typeDomain = some other ↔ d.listed.get? typeDomain = some other := by
  cases h with
  | struck hlisted =>
    change (d.listed.erase run.browse.typeDomain).get? typeDomain = _ ↔ _
    rw [Association.get?_erase_eq_some_iff, and_iff_right_iff_imp]
    rintro h rfl
    exact hother (Option.some.inj (h.symm.trans hlisted))
  | passed => exact Iff.rfl

namespace Orderly

variable {run : BrowseRun} {stop : Bool}

/-- A browse that closed is struck off, and no other of the type is open. -/
theorem tidy (h : d.Orderly) (hrun : d.runs.get? id = some run) (hexit : run.relay.exit ≠ none)
    (htidies : d.Tidies id run d' stop) :
    d'.Orderly ∧ (stop = true → ∀ other, ¬ d'.Open other run.browse.typeDomain) := by
  have hages : d.Ages (d.setRun id { run with tidied := true }) :=
    ages_setRun hrun (.of_eq rfl rfl rfl)
  have hclosed : run.browse.closed = true := h.ended hrun hexit
  cases htidies with
  | struck hlisted =>
    -- An open browse of the type would be the one listed, and that has closed.
    have hnone (other : Nat) : ¬ d.Open other run.browse.typeDomain := fun hopen => by
      obtain rfl := Option.some.inj (hlisted.symm.trans (h.listed hopen))
      obtain ⟨run', hrun', -, hopen⟩ := hopen
      obtain rfl := Option.some.inj (hrun.symm.trans hrun')
      cases hopen.symm.trans hclosed
    have hafter := h.ages hages
    refine ⟨⟨hafter.started, hafter.ended, fun {other typeDomain} hopen => ?_⟩,
      fun _ other hopen => hnone other (hages.open hopen)⟩
    have hother : typeDomain ≠ run.browse.typeDomain := fun he =>
      hnone other (hages.open (he ▸ hopen))
    change (d.listed.erase run.browse.typeDomain).get? typeDomain = some other
    rw [Association.get?_erase_of_ne _ hother]
    exact hafter.listed hopen
  | passed => exact ⟨h.ages hages, nofun⟩

end Orderly

end MulticastDirectory

/-! ## The holder of the list -/

/-- How far the holder of the list is. -/
inductive RosterHolder
  /-- It is to attach to a type. -/
  | attaching (typeDomain : String)
  /-- It found no open browse of the type; the responder is to search. -/
  | starting (typeDomain : String)
  /-- It is to tidy up after the relay of a browse. -/
  | tidying (run : Nat)
  /-- The responder is to stop the search for a type. -/
  | stopping (typeDomain : String)
  deriving DecidableEq

/-- The type of which the holder found no open browse. -/
def RosterHolder.vacant? : RosterHolder → Option String
  | .starting typeDomain | .stopping typeDomain => some typeDomain
  | .attaching _ | .tidying _ => none

/-- A multicast directory with the holder of its list. -/
structure Roster where
  directory : MulticastDirectory
  holder : Option RosterHolder := none

/-- What may happen to a multicast directory. -/
inductive RosterAction
  /-- Somebody who is to attach to a type comes to hold the list. -/
  | attach (typeDomain : String)
  /-- So does the relay of a browse, after its end. -/
  | tidy (run : Nat)
  /-- The holder of the list goes on. -/
  | proceed
  | withdraw (fullName : String)
  | beside (action : DirectoryAction)
  deriving DecidableEq

namespace Roster

/-- Come to hold the list, if nobody does. -/
def hold? (r : Roster) (holder : RosterHolder) : Option Roster :=
  if r.holder = none then some { r with holder := some holder } else none

/-- The next step of the holder of the list. -/
def proceed? (r : Roster) : Option Roster :=
  match r.holder with
  | none => none
  | some (.attaching typeDomain) =>
    match r.directory.join? typeDomain with
    | some (directory, _) => some { directory }
    | none => some { r with holder := some (.starting typeDomain) }
  | some (.starting typeDomain) =>
    match r.directory.responder.search typeDomain with
    | .error _ => some { r with holder := none }
    | .ok () => some { directory := (r.directory.startRun typeDomain).1 }
  | some (.tidying id) => do
    let run ← r.directory.runs.get? id
    let (directory, stop) ← r.directory.tidy? id
    return { directory, holder := if stop then some (.stopping run.browse.typeDomain) else none }
  | some (.stopping _) => some { r with holder := none }

/-- What an action leads to, if it could happen. -/
def act? (r : Roster) : RosterAction → Option Roster
  | .attach typeDomain => r.hold? (.attaching typeDomain)
  | .tidy id => if (r.directory.tidy? id).isSome then r.hold? (.tidying id) else none
  | .proceed => r.proceed?
  | .withdraw fullName =>
    if r.holder = none then some { r with directory := (r.directory.withdraw fullName).1 } else none
  | .beside action => (r.directory.act? action).map fun directory => { r with directory }

/-- What a directory with such settings may come to. -/
inductive Ran (settings : MulticastSettings) : Roster → Prop
  | start : Ran settings { directory := { settings } }
  | step {r r' : Roster} {action : RosterAction} : Ran settings r → r.act? action = some r' →
      Ran settings r'

variable {r r' : Roster} {settings : MulticastSettings}

/-! ## In one go -/

/-- One step of the holder after another. -/
abbrev Proceeds : Roster → Roster → Prop :=
  Relation.ReflTransGen fun r r' => r.proceed? = some r'

/-- Whoever attaches does what it does in one go. -/
theorem watch_eq (d : MulticastDirectory) (typeDomain : String) :
    Proceeds { directory := d, holder := some (.attaching typeDomain) }
      { directory := (d.watch typeDomain).1 } := by
  rw [MulticastDirectory.watch]
  cases hjoin : d.join? typeDomain with
  | some joined => exact .single (by simp only [proceed?, hjoin])
  | none =>
    have hfirst : proceed? { directory := d, holder := some (.attaching typeDomain) } =
        some { directory := d, holder := some (.starting typeDomain) } := by
      simp only [proceed?, hjoin]
    refine .head hfirst (.single ?_)
    cases hsearch : d.responder.search typeDomain <;> simp only [proceed?, hsearch]

/-- So does whoever tidies up. -/
theorem tidy?_eq {d d' : MulticastDirectory} {id : Nat} {stop : Bool}
    (h : d.tidy? id = some (d', stop)) :
    Proceeds { directory := d, holder := some (.tidying id) } { directory := d' } := by
  obtain ⟨run, hrun, -, -⟩ := MulticastDirectory.tidies_of_tidy? h
  have hfirst : proceed? { directory := d, holder := some (.tidying id) } =
      some { directory := d',
             holder := if stop then some (.stopping run.browse.typeDomain) else none } := by
    simp [proceed?, hrun, h]
  cases stop with
  | false => exact .single hfirst
  | true => exact .tail (.single hfirst) rfl

/-! ## The holder finds what it found -/

/-- What holds of a directory and the holder of its list. -/
structure Orderly (r : Roster) : Prop where
  directory : r.directory.Orderly
  held : ∀ {typeDomain}, r.holder.bind RosterHolder.vacant? = some typeDomain →
    ∀ id, ¬ r.directory.Open id typeDomain

namespace Orderly

/-- The holder of the list begins, or has let go of it. -/
theorem of_directory (h : r.directory.Orderly)
    (hholder : r.holder.bind RosterHolder.vacant? = none) : r.Orderly :=
  ⟨h, fun hh => nomatch hholder.symm.trans hh⟩

theorem start (settings : MulticastSettings) : Orderly { directory := { settings } } := by
  refine of_directory ⟨fun id => iff_of_false nofun (Nat.not_lt_zero id), nofun, ?_⟩ rfl
  rintro id typeDomain ⟨run, hrun, -⟩
  cases hrun

/-- What goes on beside the list leaves the holder what it found. -/
theorem ages {directory : MulticastDirectory} (h : r.Orderly)
    (hages : r.directory.Ages directory) : Orderly { r with directory } :=
  ⟨h.directory.ages hages, fun hh id hopen => h.held hh id (hages.open hopen)⟩

theorem hold {holder : RosterHolder} (h : r.Orderly) (hbegins : holder.vacant? = none)
    (hact : r.hold? holder = some r') : r'.Orderly := by
  obtain ⟨-, he⟩ := Option.ite_none_right_eq_some.1 hact
  obtain rfl := Option.some.inj he
  exact of_directory h.directory hbegins

theorem proceed (h : r.Orderly) (hact : r.proceed? = some r') : r'.Orderly := by
  rw [proceed?] at hact
  cases hholder : r.holder with
  | none =>
    rw [hholder] at hact
    cases hact
  | some holder =>
    rw [hholder] at hact
    cases holder with
    | attaching typeDomain =>
      dsimp only at hact
      cases hjoin : r.directory.join? typeDomain with
      | some joined =>
        rw [hjoin] at hact
        obtain rfl := Option.some.inj hact
        exact of_directory (h.directory.ages (MulticastDirectory.ages_join? hjoin)) rfl
      | none =>
        rw [hjoin] at hact
        obtain rfl := Option.some.inj hact
        refine ⟨h.directory, fun hh id => ?_⟩
        obtain rfl := Option.some.inj hh
        exact h.directory.not_open_of_join?_eq_none hjoin
    | starting typeDomain =>
      dsimp only at hact
      cases hsearch : r.directory.responder.search typeDomain with
      | error fault =>
        rw [hsearch] at hact
        obtain rfl := Option.some.inj hact
        exact of_directory h.directory rfl
      | ok =>
        rw [hsearch] at hact
        obtain rfl := Option.some.inj hact
        -- Others acted since the holder found no open browse, but none of them starts one.
        exact of_directory (h.directory.startRun (h.held (hholder ▸ rfl))) rfl
    | tidying id =>
      obtain ⟨run, hrun, hact⟩ := Option.bind_eq_some_iff.1 hact
      obtain ⟨⟨directory, stop⟩, htidy, hact⟩ := Option.bind_eq_some_iff.1 hact
      obtain rfl := Option.some.inj hact
      obtain ⟨run', hrun', hexit, htidies⟩ := MulticastDirectory.tidies_of_tidy? htidy
      obtain rfl := Option.some.inj (hrun.symm.trans hrun')
      obtain ⟨hafter, hnone⟩ := h.directory.tidy hrun hexit htidies
      cases stop with
      | false => exact of_directory hafter rfl
      | true =>
        refine ⟨hafter, fun hh => ?_⟩
        obtain rfl := Option.some.inj hh
        exact hnone rfl
    | stopping typeDomain =>
      obtain rfl := Option.some.inj hact
      exact of_directory h.directory rfl

theorem act {action : RosterAction} (h : r.Orderly) (hact : r.act? action = some r') :
    r'.Orderly := by
  cases action with
  | attach => exact h.hold rfl hact
  | tidy => exact h.hold rfl (Option.ite_none_right_eq_some.1 hact).2
  | proceed => exact h.proceed hact
  | withdraw =>
    obtain ⟨-, he⟩ := Option.ite_none_right_eq_some.1 hact
    obtain rfl := Option.some.inj he
    exact h.ages (MulticastDirectory.ages_withdraw _)
  | beside =>
    obtain ⟨directory, hdirectory, rfl⟩ := Option.map_eq_some_iff.1 hact
    exact h.ages (MulticastDirectory.ages_act? hdirectory)

end Orderly

theorem Ran.orderly (h : Ran settings r) : r.Orderly := by
  induction h with
  | start => exact .start settings
  | step _ hact ih => exact ih.act hact

/-- While the list is held, nothing happens to it and no browse is started, until the
    holder goes on. -/
theorem frame_of_held {holder : RosterHolder} {action : RosterAction}
    (hholder : r.holder = some holder) (hact : r.act? action = some r')
    (hothers : action ≠ .proceed) :
    r'.holder = some holder ∧ r'.directory.nextRun = r.directory.nextRun ∧
      r'.directory.listed = r.directory.listed := by
  have hheld : r.holder ≠ none := hholder ▸ Option.some_ne_none holder
  cases action with
  | attach => cases (Option.ite_none_right_eq_some.1 hact).1.symm.trans hholder
  | tidy =>
    have hact := (Option.ite_none_right_eq_some.1 hact).2
    exact absurd (Option.ite_none_right_eq_some.1 hact).1 hheld
  | proceed => exact absurd rfl hothers
  | withdraw => exact absurd (Option.ite_none_right_eq_some.1 hact).1 hheld
  | beside =>
    obtain ⟨directory, hdirectory, rfl⟩ := Option.map_eq_some_iff.1 hact
    have hages := MulticastDirectory.ages_act? hdirectory
    exact ⟨hholder, hages.nextRun, hages.listed⟩

theorem frame_of_held_foldlM {holder : RosterHolder} {actions : List RosterAction}
    (hholder : r.holder = some holder) (hothers : .proceed ∉ actions)
    (hrun : actions.foldlM act? r = some r') :
    r'.holder = some holder ∧ r'.directory.nextRun = r.directory.nextRun ∧
      r'.directory.listed = r.directory.listed := by
  induction actions generalizing r with
  | nil =>
    obtain rfl := Option.some.inj hrun
    exact ⟨hholder, rfl, rfl⟩
  | cons action actions ih =>
    obtain ⟨hother, hothers⟩ := not_or.1 (List.mem_cons.not.1 hothers)
    rw [List.foldlM_cons] at hrun
    obtain ⟨r₁, hact, hrest⟩ := Option.bind_eq_some_iff.1 hrun
    obtain ⟨hholder₁, hnext₁, hlisted₁⟩ := frame_of_held hholder hact (Ne.symm hother)
    obtain ⟨hholder', hnext', hlisted'⟩ := ih hholder₁ hothers hrest
    exact ⟨hholder', hnext'.trans hnext₁, hlisted'.trans hlisted₁⟩

/-- A browse that is open is the one listed under its type, so that at most one of a type
    is. Tidying up after a relay takes no other browse off the list. A search is stopped only
    while no browse of the type is open, and until it is stopped none is started. -/
theorem Ran.one_of_each (h : Ran settings r) :
    (∀ id typeDomain, r.directory.Open id typeDomain →
        r.directory.listed.get? typeDomain = some id) ∧
      (∀ id other typeDomain, r.directory.Open id typeDomain →
        r.directory.Open other typeDomain → id = other) ∧
      (∀ (id : Nat) (r' : Roster), r.holder = some (.tidying id) → r.act? .proceed = some r' →
        ∀ typeDomain other, other ≠ id →
          (r'.directory.listed.get? typeDomain = some other ↔
            r.directory.listed.get? typeDomain = some other)) ∧
      ∀ typeDomain, r.holder = some (.stopping typeDomain) →
        ∀ (actions : List RosterAction) (r' : Roster), .proceed ∉ actions →
          actions.foldlM act? r = some r' →
            r'.holder = some (.stopping typeDomain) ∧
              r'.directory.nextRun = r.directory.nextRun ∧
              ∀ id, ¬ r'.directory.Open id typeDomain := by
  have hlisted {id : Nat} {typeDomain : String} (hopen : r.directory.Open id typeDomain) :
      r.directory.listed.get? typeDomain = some id := h.orderly.directory.listed hopen
  refine ⟨fun _ _ => hlisted, fun id other typeDomain hopen hother => ?_, ?_, ?_⟩
  · exact Option.some.inj ((hlisted hopen).symm.trans (hlisted hother))
  · intro id r' hholder hact typeDomain other hother
    change r.proceed? = some r' at hact
    rw [proceed?, hholder] at hact
    obtain ⟨run, -, hact⟩ := Option.bind_eq_some_iff.1 hact
    obtain ⟨⟨directory, stop⟩, htidy, hact⟩ := Option.bind_eq_some_iff.1 hact
    obtain rfl := Option.some.inj hact
    obtain ⟨_, -, -, htidies⟩ := MulticastDirectory.tidies_of_tidy? htidy
    exact htidies.get?_listed hother typeDomain
  · -- What the holder found is so in every state it may come to before it goes on.
    intro typeDomain hholder actions r' hothers hrun
    obtain ⟨hheld, hnext, -⟩ := frame_of_held_foldlM hholder hothers hrun
    have hran' : Ran settings r' := of_foldlM_eq_some (fun h hact => h.step hact) h hrun
    exact ⟨hheld, hnext, hran'.orderly.held (hheld ▸ rfl)⟩

/-- A browse closes as idle, and a newer one of the type is started and listed before the
    first is tidied up, which leaves the list as it is. Then the newer one closes, is struck
    off the list, and the search is stopped; meanwhile every relay is told to stop. -/
theorem Ran.one_of_each_twice :
    let type := "_p._tcp.local."
    let idle (id : Nat) : List RosterAction :=
      [.beside (.leave ⟨id, 0⟩), .beside (.report id (.found "a._p._tcp.local.")),
        .beside (.relay id .report)]
    let twice : List RosterAction :=
      [.attach type, .proceed, .proceed] ++ idle 0 ++ [.attach type, .proceed, .proceed, .tidy 0]
    ∃ r₀ r₁ r₂ r₃ : Roster, twice.foldlM act? { directory := {} } = some r₀ ∧
      r₀.holder = some (.tidying 0) ∧ r₀.act? .proceed = some r₁ ∧
      r₁.directory.listed.get? type = some 1 ∧
      (idle 1 ++ [RosterAction.tidy 1, .proceed]).foldlM act? r₁ = some r₂ ∧
      r₂.holder = some (.stopping type) ∧
      [RosterAction.beside .cancel].foldlM act? r₂ = some r₃ ∧
      ∀ id, ¬ r₃.directory.Open id type := by
  intro type idle twice
  have hrun : (twice.foldlM act? { directory := {} }).any fun r₀ =>
      r₀.holder = some (.tidying 0) ∧ r₀.directory.Open 1 type ∧
        (r₀.act? .proceed).any fun r₁ =>
          ((idle 1 ++ [RosterAction.tidy 1, .proceed]).foldlM act? r₁).any fun r₂ =>
            r₂.holder = some (.stopping type) ∧
              ([RosterAction.beside .cancel].foldlM act? r₂).isSome := by
    decide +kernel
  obtain ⟨r₀, hr₀, hfacts⟩ := (Option.any_eq_true ..).1 hrun
  obtain ⟨hholder, hopen, hnext⟩ := of_decide_eq_true hfacts
  obtain ⟨r₁, hr₁, hnext⟩ := (Option.any_eq_true ..).1 hnext
  obtain ⟨r₂, hr₂, hfacts⟩ := (Option.any_eq_true ..).1 hnext
  obtain ⟨hstopping, hnext⟩ := of_decide_eq_true hfacts
  obtain ⟨r₃, hr₃⟩ := Option.isSome_iff_exists.1 hnext
  have hran₀ : Ran {} r₀ := of_foldlM_eq_some (fun h hact => h.step hact) .start hr₀
  have hran₂ : Ran {} r₂ :=
    of_foldlM_eq_some (fun h hact => h.step hact) (hran₀.step hr₁) hr₂
  obtain ⟨hlisted, -, hpasses, -⟩ := hran₀.one_of_each
  obtain ⟨-, -, -, hstops⟩ := hran₂.one_of_each
  have hkept := (hpasses 0 r₁ hholder hr₁ type 1 Nat.one_ne_zero).2 (hlisted 1 type hopen)
  have hnone := (hstops type hstopping _ r₃ (by decide) hr₃).2.2
  exact ⟨r₀, r₁, r₂, r₃, hr₀, hholder, hr₁, hkept, hr₂, hstopping, hr₃, hnone⟩

end Roster

end ServiceDiscovery
