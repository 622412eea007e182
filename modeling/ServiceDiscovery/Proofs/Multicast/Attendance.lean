import ServiceDiscovery.Proofs.Multicast.Duty

/-!
# Nobody is stranded

An `Attendance` is a relay on duty together with what became of the streams of its browse:
which were handed out, what was read of each, and which were left by those who read them.

Main statement: a browse is closed exactly when it has nobody to send to, and once its
relay ended it takes no watchers, and every stream that was handed out and not left ends
with a reset, the only one in it (`Attendance.Attended.none_stranded`). So a watcher that
attaches while the relay is on its way out is told like the others.
-/

namespace ServiceDiscovery

/-- Whether events end with a reset, and have no other. -/
def DirectoryEvent.EndInReset (events : List DirectoryEvent) : Prop :=
  ∃ before, events = before ++ [.reset] ∧ .reset ∉ before

/-- A relay on duty, and what became of the streams of its browse. -/
structure Attendance where
  duty : Duty
  /-- The streams handed out. -/
  handed : List Nat
  /-- The streams that were left by those who read them. -/
  left : List Nat := []
  /-- What was read of each stream. -/
  heard : Nat → List DirectoryEvent := fun _ => []

namespace Attendance

/-- A relay that begins, and its first watcher. -/
def start (typeDomain interface : String) (book : AddressBook) : Attendance where
  duty := .start typeDomain interface book
  handed := [(SharedBrowse.start typeDomain interface).2]

/-- The next event of a stream. -/
def next? (a : Attendance) (stream : Nat) : Option DirectoryEvent :=
  (a.duty.feed.browse.streams.get? stream).bind (·.unread.head?)

/-- What became of the streams after an action that led to a duty. -/
def note (a : Attendance) (duty : Duty) : DutyAction → Attendance
  | .attach =>
    { a with duty, handed := a.handed ++ (a.duty.feed.browse.attach?.map Prod.snd).toList }
  | .leave stream => { a with duty, left := a.left ++ [stream] }
  | .read stream =>
    { a with
      duty
      heard := fun n => if n = stream then a.heard n ++ (a.next? stream).toList else a.heard n }
  | _ => { a with duty }

/-- The attendance after an action, if this could happen. -/
def act? (a : Attendance) (action : DutyAction) : Option Attendance :=
  (a.duty.act? action).map fun duty => a.note duty action

/-- What the attendance of a browse may come to. -/
inductive Attended (typeDomain interface : String) (book : AddressBook) : Attendance → Prop
  | start : Attended typeDomain interface book (.start typeDomain interface book)
  | step {a a' : Attendance} {action : DutyAction} : Attended typeDomain interface book a →
      a.act? action = some a' → Attended typeDomain interface book a'

variable {typeDomain interface : String} {book : AddressBook} {a a' : Attendance} {duty : Duty}

theorem Attended.served (h : Attended typeDomain interface book a) :
    a.duty.Served typeDomain interface book := by
  induction h with
  | start => exact .start
  | @step a a' action _ hact ih =>
    obtain ⟨duty, hduty, rfl⟩ := Option.map_eq_some_iff.1 hact
    have hnote : (a.note duty action).duty = duty := by cases action <;> rfl
    rw [hnote]
    exact ih.step hduty

/-- What holds of the streams of a browse on duty. -/
structure Counted (a : Attendance) : Prop where
  /-- Every stream handed out was left, or is still there. -/
  handed : ∀ stream ∈ a.handed, stream < a.duty.feed.browse.nextStream ∧
    (stream ∈ a.left ∨ a.duty.feed.browse.streams.get? stream ≠ none)
  fresh : ∀ {stream}, a.duty.feed.browse.nextStream ≤ stream → a.heard stream = []
  goesOn : ∀ {stream s}, a.duty.feed.browse.closed = false →
    a.duty.feed.browse.streams.get? stream = some s → .reset ∉ a.heard stream
  ended : ∀ {stream s}, a.duty.feed.browse.closed = true →
    a.duty.feed.browse.streams.get? stream = some s →
      DirectoryEvent.EndInReset (a.heard stream ++ s.unread)

namespace Counted

theorem start (typeDomain interface : String) (book : AddressBook) :
    Counted (.start typeDomain interface book) where
  handed stream hs := by
    obtain rfl := List.mem_singleton.1 hs
    exact ⟨Nat.zero_lt_one, .inr (Option.some_ne_none _)⟩
  fresh _ := rfl
  goesOn _ _ := List.not_mem_nil
  ended hc := nomatch hc

/-- Nothing happens to the streams. -/
theorem still (h : a.Counted) (hclosed : duty.feed.browse.closed = a.duty.feed.browse.closed)
    (hnext : duty.feed.browse.nextStream = a.duty.feed.browse.nextStream)
    (hstreams : duty.feed.browse.streams = a.duty.feed.browse.streams) :
    Counted { a with duty } := by
  refine ⟨?_, fun hn => h.fresh (hnext ▸ hn), fun hc hs => ?_, fun hc hs => ?_⟩
  · dsimp only
    rw [hnext, hstreams]
    exact h.handed
  · dsimp only at hc hs
    rw [hclosed] at hc
    rw [hstreams] at hs
    exact h.goesOn hc hs
  · dsimp only at hc hs
    rw [hclosed] at hc
    rw [hstreams] at hs
    exact h.ended hc hs

/-- Somebody attaches to a browse that is open. -/
theorem attach (h : a.Counted) (hopen : a.duty.feed.browse.closed = false) :
    (a.note (a.duty.setBrowse (a.duty.feed.browse.addStream
      (a.duty.feed.browse.present.values.map .appeared)).1) .attach).Counted := by
  have hattach : (a.duty.feed.browse.attach?.map Prod.snd).toList =
      [a.duty.feed.browse.nextStream] := by
    rw [SharedBrowse.attach?, if_neg (ne_true_of_eq_false hopen)]
    rfl
  have hlt {n : Nat} (hn : n < a.duty.feed.browse.nextStream) :
      (a.duty.feed.browse.streams.put a.duty.feed.browse.nextStream
        { unread := a.duty.feed.browse.present.values.map .appeared }).get? n =
          a.duty.feed.browse.streams.get? n :=
    Association.get?_put_of_ne _ _ (Nat.ne_of_lt hn)
  refine ⟨fun stream hs => ?_, fun hn => h.fresh (Nat.le_of_lt hn), fun {stream s} _ hs => ?_,
    fun hc => ?_⟩
  · change stream ∈ a.handed ++ _ at hs
    rw [hattach] at hs
    rcases List.mem_append.1 hs with hs | hs
    · obtain ⟨hn, hthere⟩ := h.handed stream hs
      exact ⟨Nat.lt_succ_of_lt hn, hthere.imp_right fun hne he => hne ((hlt hn).symm.trans he)⟩
    · obtain rfl := List.mem_singleton.1 hs
      refine ⟨Nat.lt_succ_self _, .inr fun hnone => ?_⟩
      cases (Association.get?_put_self ..).symm.trans hnone
  · change (a.duty.feed.browse.streams.put _ _).get? stream = some s at hs
    change .reset ∉ a.heard stream
    rw [Association.get?_put] at hs
    split at hs
    · rename_i hnew
      rw [h.fresh (Nat.le_of_eq hnew.symm)]
      exact List.not_mem_nil
    · exact h.goesOn hopen hs
  · cases hopen.symm.trans hc

/-- A watcher leaves. -/
theorem leave (h : a.Counted) (stream : Nat) :
    (a.note (a.duty.setBrowse (a.duty.feed.browse.dropStream stream)) (.leave stream)).Counted where
  handed n hn := by
    obtain ⟨hlt, hthere⟩ := h.handed n hn
    refine ⟨hlt, ?_⟩
    by_cases hself : n = stream
    · exact .inl (List.mem_append_right _ (List.mem_singleton.2 hself))
    · refine hthere.imp (List.mem_append_left _) fun hne he => hne ?_
      exact (Association.get?_erase_of_ne _ hself).symm.trans he
  fresh := h.fresh
  goesOn hc hs := h.goesOn hc (Association.get?_erase_eq_some_iff.1 hs).2
  ended hc hs := h.ended hc (Association.get?_erase_eq_some_iff.1 hs).2

/-- A watcher reads. -/
theorem read {stream : Nat} {s : BrowseStream} {event : DirectoryEvent}
    {unread : List DirectoryEvent} (h : a.Counted) (hkept : a.duty.Kept)
    (hs : a.duty.feed.browse.streams.get? stream = some s) (hu : s.unread = event :: unread) :
    (a.note (a.duty.setBrowse
      { a.duty.feed.browse with
        streams := a.duty.feed.browse.streams.put stream { s with unread } })
      (.read stream)).Counted := by
  have hnext : (a.next? stream).toList = [event] := by
    rw [next?, hs, Option.bind_some, hu]
    rfl
  have hheard (n : Nat) : (a.note (a.duty.setBrowse
      { a.duty.feed.browse with
        streams := a.duty.feed.browse.streams.put stream { s with unread } })
      (.read stream)).heard n = if n = stream then a.heard n ++ [event] else a.heard n := by
    rw [← hnext]
    rfl
  -- What was read and what is still to be read of a stream are the same together.
  have hsame {n : Nat} {s' : BrowseStream}
      (hs' : (a.duty.feed.browse.streams.put stream { s with unread }).get? n = some s') :
      ∃ s₀, a.duty.feed.browse.streams.get? n = some s₀ ∧
        (if n = stream then a.heard n ++ [event] else a.heard n) ++ s'.unread =
          a.heard n ++ s₀.unread := by
    rw [Association.get?_put] at hs'
    split at hs'
    · rename_i hself
      obtain rfl := Option.some.inj hs'
      refine ⟨s, hself ▸ hs, ?_⟩
      rw [if_pos hself, List.append_assoc, List.singleton_append, ← hu]
    · rename_i hother
      exact ⟨s', hs', by rw [if_neg hother]⟩
  refine ⟨fun n hn => ?_, fun {n} hn => ?_, fun {n s'} hc hs' hm => ?_, fun {n s'} hc hs' => ?_⟩
  · obtain ⟨hlt, hthere⟩ := h.handed n hn
    refine ⟨hlt, hthere.imp_right fun hne he => hne ?_⟩
    change (a.duty.feed.browse.streams.put stream _).get? n = none at he
    rw [Association.get?_put] at he
    split at he
    · cases he
    · exact he
  · have hne : n ≠ stream := by
      rintro rfl
      cases hs.symm.trans (hkept.fresh hn)
    rw [hheard, if_neg hne]
    exact h.fresh hn
  · obtain ⟨s₀, hs₀, he⟩ := hsame hs'
    rw [hheard] at hm
    rcases List.mem_append.1 (he ▸ List.mem_append_left s'.unread hm) with hm | hm
    · exact h.goesOn hc hs₀ hm
    · exact (hkept.served hc hs₀).2.2 hm
  · obtain ⟨s₀, hs₀, he⟩ := hsame hs'
    rw [hheard, he]
    exact h.ended hc hs₀

/-- The watchers are told of something. -/
theorem tell {chore : Chore} (h : a.Counted) (hkept : a.duty.Kept)
    (hchore : a.duty.feed.chore = some chore) (hstays : a.duty.leaving = false) :
    Counted { a with
      duty :=
        { a.duty with
          feed := .ofParts (Relay.publish chore.fullName chore.event a.duty.feed.parts) } } := by
  have hexit : a.duty.feed.relay.exit = none := hkept.goes hchore
  have hafter := hkept.tell hchore hstays
  rw [Feed.ofParts_publish] at hafter ⊢
  have hstream {stream : Nat} {s : BrowseStream}
      (hs : (a.duty.feed.browse.publish chore.fullName (chore.event (.ofFullName chore.fullName
        a.duty.feed.browse.typeDomain a.duty.feed.browse.interface))).1.streams.get? stream =
          some s) : ∃ s₀, a.duty.feed.browse.streams.get? stream = some s₀ := by
    rw [SharedBrowse.get?_streams_publish] at hs
    obtain ⟨s₀, hs₀, -⟩ := Option.map_eq_some_iff.1 hs
    exact ⟨s₀, hs₀⟩
  refine ⟨fun n hn => ?_, fun hn => h.fresh ?_, fun _ hs => ?_, fun hc hs => ?_⟩
  · obtain ⟨hlt, hthere⟩ := h.handed n hn
    dsimp only
    rw [SharedBrowse.get?_streams_publish, SharedBrowse.publish_frame]
    exact ⟨hlt, hthere.imp_right fun hne he => hne (Option.map_eq_none_iff.1 he)⟩
  · dsimp only at hn
    rwa [SharedBrowse.publish_frame] at hn
  · obtain ⟨s₀, hs₀⟩ := hstream hs
    exact h.goesOn (hkept.exit_iff.1 hexit) hs₀
  · -- Nobody reads a stream of a browse that closed because nobody reads.
    have hreset := (hafter.sentOff hc hs).1
    dsimp only at hreset
    split at hreset
    · cases hexit.symm.trans hreset
    · cases hreset

/-- The browse is closed with a reset. -/
theorem close (h : a.Counted) (hkept : a.duty.Kept) (hleaving : a.duty.leaving = true) :
    Counted { a with duty := { feed := .ofParts (Relay.stop a.duty.feed.parts) } } := by
  have hopen : a.duty.feed.browse.closed = false :=
    hkept.exit_iff.1 (hkept.busy (.inl hleaving))
  refine ⟨fun n hn => ?_, h.fresh, fun hc => (by cases hc), fun {n s} _ hs => ?_⟩
  · obtain ⟨hlt, hthere⟩ := h.handed n hn
    refine ⟨hlt, hthere.imp_right fun hne he => hne ?_⟩
    change a.duty.feed.browse.closeWithReset.streams.get? n = none at he
    rw [SharedBrowse.get?_streams_closeWithReset] at he
    exact Option.map_eq_none_iff.1 he
  · change a.duty.feed.browse.closeWithReset.streams.get? n = some s at hs
    rw [SharedBrowse.get?_streams_closeWithReset] at hs
    obtain ⟨s₀, hs₀, rfl⟩ := Option.map_eq_some_iff.1 hs
    obtain ⟨hw, -, hunread⟩ := hkept.served hopen hs₀
    -- The browse was open until now, so there was no reset in the stream before this one.
    refine ⟨a.heard n ++ s₀.unread, ?_, fun hm => ?_⟩
    · rw [if_pos hw, List.append_assoc]
    · exact (List.mem_append.1 hm).elim (h.goesOn hopen hs₀) hunread

theorem act {action : DutyAction} (h : a.Counted) (hkept : a.duty.Kept)
    (hact : a.act? action = some a') : a'.Counted := by
  obtain ⟨duty, hduty, rfl⟩ := Option.map_eq_some_iff.1 hact
  cases Duty.does_of_act? hduty with
  | reported | disconnected | replaced | cancelled | stopped | woke | forgot =>
    exact h.still rfl rfl rfl
  | began _ _ hevent =>
    rw [Feed.read_frame hevent]
    exact h.still rfl rfl rfl
  | told hchore _ hstays => exact h.tell hkept hchore hstays
  | ended hleaving => exact h.close hkept hleaving
  | attached hopen => exact h.attach hopen
  | left => exact h.leave _
  | read hs hu => exact h.read hkept hs hu

end Counted

theorem Attended.counted (h : Attended typeDomain interface book a) : a.Counted := by
  induction h with
  | start => exact .start typeDomain interface book
  | step hattended hact ih => exact ih.act hattended.served.kept hact

/-- Nobody is stranded: a browse is closed exactly when it has nobody to send to, and once
    its relay ended, nobody can attach to it, and every stream handed out was left by its
    reader, or what was sent to it ends with a reset, the only one, and the stream is
    disconnected. The relay ends idle only if every stream was left. -/
theorem Attended.none_stranded (h : Attended typeDomain interface book a) :
    (a.duty.feed.browse.closed = true ↔ a.duty.feed.browse.watchers = []) ∧
      (a.duty.feed.relay.exit ≠ none → a.duty.feed.browse.attach? = none ∧
        ∀ stream ∈ a.handed, stream ∈ a.left ∨
          ∃ s, a.duty.feed.browse.streams.get? stream = some s ∧ s.connected = false ∧
            DirectoryEvent.EndInReset (a.heard stream ++ s.unread)) ∧
      (a.duty.feed.relay.exit = some .idle → ∀ stream ∈ a.handed, stream ∈ a.left) := by
  have hkept := h.served.kept
  have hcounted := h.counted
  have hclosed (hexit : a.duty.feed.relay.exit ≠ none) : a.duty.feed.browse.closed = true :=
    eq_true_of_ne_false fun hopen => hexit (hkept.exit_iff.2 hopen)
  refine ⟨hkept.closed_iff, fun hexit => ⟨if_pos (hclosed hexit), fun stream hs => ?_⟩,
    fun hidle stream hs => ?_⟩
  · refine (hcounted.handed stream hs).2.imp_right fun hthere => ?_
    obtain ⟨s, hs⟩ := Option.ne_none_iff_exists'.1 hthere
    exact ⟨s, hs, (hkept.sentOff (hclosed hexit) hs).2, hcounted.ended (hclosed hexit) hs⟩
  · refine (hcounted.handed stream hs).2.resolve_right fun hthere => ?_
    obtain ⟨s, hs⟩ := Option.ne_none_iff_exists'.1 hthere
    have hexit : a.duty.feed.relay.exit ≠ none := hidle ▸ Option.some_ne_none _
    cases hidle.symm.trans (hkept.sentOff (hclosed hexit) hs).1

/-- The first of three watchers leaves, and the third attaches when the relay was told to stop
    and is on its way out. -/
theorem Attended.none_stranded_leaving :
    let type := "_p._tcp.local."
    let actions : List DutyAction :=
      [.attach, .report (.found "a._p._tcp.local."), .notice .report, .leave 0, .work, .cancel,
        .notice .cancelled, .read 1, .attach, .work, .read 2]
    ∃ a, actions.foldlM act? (.start type "eth0" {}) = some a ∧ a.handed = [0, 1, 2] ∧
      a.left = [0] ∧ a.duty.feed.relay.exit = some .reset ∧
      a.duty.feed.browse.closed = true ∧ a.duty.feed.browse.watchers = [] ∧
      a.duty.feed.browse.attach? = none ∧
      ∀ stream ∈ a.handed, stream ∈ a.left ∨
        ∃ s, a.duty.feed.browse.streams.get? stream = some s ∧ s.connected = false ∧
          DirectoryEvent.EndInReset (a.heard stream ++ s.unread) := by
  intro type actions
  have hrun : (actions.foldlM act? (.start type "eth0" {})).any fun a =>
      a.handed = [0, 1, 2] ∧ a.left = [0] ∧ a.duty.feed.relay.exit = some .reset ∧
        a.duty.feed.browse.closed = true := by
    decide +kernel
  obtain ⟨a, ha, hfacts⟩ := (Option.any_eq_true ..).1 hrun
  obtain ⟨hhanded, hleft, hexit, hclosed⟩ := of_decide_eq_true hfacts
  have hattended : Attended type "eth0" {} a :=
    of_foldlM_eq_some (fun h hact => h.step hact) .start ha
  obtain ⟨hempty, hover, -⟩ := hattended.none_stranded
  obtain ⟨hattach, hstreams⟩ := hover (hexit ▸ Option.some_ne_none _)
  exact ⟨a, ha, hhanded, hleft, hexit, hclosed, hempty.1 hclosed, hattach, hstreams⟩

end Attendance

end ServiceDiscovery
