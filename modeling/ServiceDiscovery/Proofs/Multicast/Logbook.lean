import ServiceDiscovery.Proofs.Multicast.Roster

/-!
# What a relay leaves in the address book

All relays of a directory write into one address book. A `Logbook` is one relay on duty
beside the others, with a log of the reports that were received and of the moments at which
the book was cleared, and of the end of the relay.

The book has of every name the advert that was received last, unless the name was removed or
the book was cleared since (`Logbook.Written.get?_adverts`). A relay that ends, for whatever
reason, takes nothing out of it. Main statement: an address that was received before the end
is found after it exactly as long as no relay is told that the name was removed and nobody
clears the book (`Logbook.Written.found_iff`). So a name that appears after a reset may be
resolved to an address from before (`Roster.Ran.resolves_outdated`).
-/

namespace ServiceDiscovery

/-- What a report changes in the book, for another relay than the one on duty. -/
def AddressBook.receive (book : AddressBook) : SearchEvent → AddressBook
  | .resolved advert => book.enter advert
  | .removed fullName => book.strike fullName
  | .started | .found _ | .stopped => book

/-- What is noted in the log. -/
inductive LogEntry
  /-- A relay received a report. -/
  | received (event : SearchEvent)
  /-- The book was cleared. -/
  | cleared
  /-- The relay on duty ended. -/
  | ended (exit : RelayExit)
  deriving DecidableEq

/-- The advert last received of a name, after one more entry. -/
def LogEntry.last (fullName : String) (last : Option Advert) : LogEntry → Option Advert
  | received event => event.lastAdvert fullName last
  | cleared => none
  | ended _ => last

/-- The advert last received of a name, unless the name was removed or the book was cleared
    since. -/
def lastReceived? (fullName : String) (log : List LogEntry) : Option Advert :=
  log.foldl (LogEntry.last fullName) none

/-- Where a name was when it was received last. -/
def lastEndpoint? (fullName : String) (log : List LogEntry) : Option Endpoint :=
  (lastReceived? fullName log).bind Advert.endpoint?

/-- A relay on duty, with the log. -/
structure Logbook where
  duty : Duty
  log : List LogEntry := []

/-- What may happen to a relay on duty and to the book. -/
inductive LogbookAction
  | duty (action : DutyAction)
  /-- Another relay receives a report. -/
  | receive (event : SearchEvent)
  /-- Somebody clears the book. -/
  | clear
  deriving DecidableEq

namespace Duty

/-- What the relay receives in an action. -/
def received (d : Duty) : DutyAction → List LogEntry
  | .notice .report => (d.feed.relay.reports.head?.map .received).toList
  | _ => []

/-- The end of the relay, if that is between two moments. -/
def ending (d d' : Duty) : List LogEntry :=
  if d.feed.relay.exit = none then (d'.feed.relay.exit.map .ended).toList else []

/-- The duty with the book changed. -/
def setBook (d : Duty) (book : AddressBook) : Duty := { d with feed := { d.feed with book } }

end Duty

namespace Logbook

/-- What an action leads to, if it could happen. -/
def act? (l : Logbook) : LogbookAction → Option Logbook
  | .duty action => (l.duty.act? action).map fun duty =>
    { duty, log := l.log ++ l.duty.received action ++ l.duty.ending duty }
  | .receive event =>
    some
      { duty := l.duty.setBook (l.duty.feed.book.receive event)
        log := l.log ++ [.received event] }
  | .clear => some { duty := l.duty.setBook l.duty.feed.book.clear, log := l.log ++ [.cleared] }

/-- What a relay of a type, the book and the log may come to. -/
inductive Written (typeDomain interface : String) : Logbook → Prop
  | start : Written typeDomain interface { duty := .start typeDomain interface {} }
  | step {l l' : Logbook} {action : LogbookAction} : Written typeDomain interface l →
      l.act? action = some l' → Written typeDomain interface l'

end Logbook

/-! ## The book -/

theorem AddressBook.get?_receive (book : AddressBook) (event : SearchEvent) (fullName : String) :
    (book.receive event).adverts.get? fullName =
      event.lastAdvert fullName (book.adverts.get? fullName) := by
  cases event with
  | started | found | stopped => rfl
  | resolved advert =>
    change (book.adverts.put advert.fullName advert).get? fullName = _
    rw [Association.get?_put, SearchEvent.lastAdvert]
    simp only [eq_comm]
  | removed name =>
    change (book.adverts.erase name).get? fullName = _
    rw [Association.get?_erase, SearchEvent.lastAdvert]
    simp only [eq_comm]

/-- A wait ends with an address when it looks and finds that in the book. -/
theorem AddressWait.step?_eq_found_iff {wait : AddressWait} {book : AddressBook} {now : Nat}
    {endpoint : Endpoint} :
    wait.step? book now = some (.inr (some endpoint)) ↔
      wait.stage = .looking ∧ book.lookUp wait.fullName = some endpoint := by
  rw [AddressWait.step?]
  cases wait.stage with
  | looking => cases book.lookUp wait.fullName <;> simp
  | asleep entered =>
    dsimp only
    split
    · simp
    · split <;> simp

namespace Duty

variable {d d' : Duty} {action : DutyAction}

/-- What a relay on duty does to the book is what it received. -/
theorem get?_adverts_of_does (h : Does d action d') (fullName : String) :
    d'.feed.book.adverts.get? fullName =
      (d.received action).foldl (LogEntry.last fullName) (d.feed.book.adverts.get? fullName) := by
  cases h with
  | reported | disconnected | replaced | cancelled | woke | ended | attached | left | read
  | forgot => rfl
  | @stopped signal reports _ hstopped =>
    cases signal with
    | cancelled | replaced => rfl
    | report =>
      -- There is no report to be read, or the one that the search stopped.
      have hall := hstopped rfl
      rw [received]
      generalize d.feed.relay.reports.head? = event at hall
      cases event with
      | none => rfl
      | some event =>
        obtain rfl := of_decide_eq_true hall
        rfl
  | @began event reports _ hreports =>
    have hbook : ∀ feed : Feed, (Feed.read event feed).book.adverts =
        (feed.book.receive event).adverts := by
      intro feed
      cases event <;> rfl
    rw [received, hreports, hbook]
    exact d.feed.book.get?_receive event fullName
  | told => rw [Feed.ofParts_publish]; rfl

/-- A relay that ended stays as it ended. -/
theorem exit_of_does (h : d.Kept) (hdoes : Does d action d') (hended : d.feed.relay.exit ≠ none) :
    d'.feed.relay.exit = d.feed.relay.exit := by
  cases hdoes with
  | reported | disconnected | replaced | cancelled | stopped | woke | attached | left | read
  | forgot => rfl
  | began hwaits => exact absurd hwaits.2.2 hended
  | told hchore => exact absurd (h.goes hchore) hended
  | ended hleaving => exact absurd (h.busy (.inl hleaving)) hended

end Duty

/-! ## The log -/

/-- Whether a name was lost: a relay was told that it was removed, or the book was
    cleared. -/
def Lost (fullName : String) (log : List LogEntry) : Prop :=
  .received (.removed fullName) ∈ log ∨ .cleared ∈ log

instance (fullName : String) (log : List LogEntry) : Decidable (Lost fullName log) := by
  unfold Lost
  infer_instance

/-- An entry that does not receive a name anew keeps what was known of it, or loses it. -/
theorem LogEntry.last_eq_some_iff {entry : LogEntry} {fullName : String}
    (hnever : ∀ advert, entry = .received (.resolved advert) → advert.fullName ≠ fullName)
    {last : Option Advert} {advert : Advert} :
    entry.last fullName last = some advert ↔
      last = some advert ∧ .received (.removed fullName) ≠ entry ∧ .cleared ≠ entry := by
  cases entry with
  | received event =>
    cases event with
    | resolved advert' =>
      rw [LogEntry.last, SearchEvent.lastAdvert, if_neg (hnever advert' rfl)]
      simp
    | removed name =>
      rw [LogEntry.last, SearchEvent.lastAdvert]
      by_cases hname : name = fullName
      · simp [hname]
      · simp [hname, Ne.symm hname]
    | started | found | stopped => simp [LogEntry.last, SearchEvent.lastAdvert]
  | cleared | ended => simp [LogEntry.last]

theorem foldl_last_eq_some_iff {fullName : String} {log : List LogEntry}
    (hnever : ∀ advert, .received (.resolved advert) ∈ log → advert.fullName ≠ fullName)
    {last : Option Advert} {advert : Advert} :
    log.foldl (LogEntry.last fullName) last = some advert ↔
      last = some advert ∧ ¬ Lost fullName log := by
  induction log generalizing last with
  | nil => simp [Lost]
  | cons entry log ih =>
    have hentry (advert : Advert) (he : entry = .received (.resolved advert)) :
        advert.fullName ≠ fullName := hnever advert (he ▸ List.mem_cons_self)
    rw [List.foldl_cons, ih fun advert hm => hnever advert (List.mem_cons_of_mem _ hm),
      LogEntry.last_eq_some_iff hentry]
    simp only [Lost, List.mem_cons]
    tauto

namespace Logbook

variable {l l' : Logbook} {typeDomain interface fullName : String}

theorem Written.kept (h : Written typeDomain interface l) : l.duty.Kept := by
  induction h with
  | start => exact .start typeDomain interface {}
  | @step l l' action _ hact ih =>
    cases action with
    | duty action =>
      obtain ⟨duty, hduty, rfl⟩ := Option.map_eq_some_iff.1 hact
      exact ih.does (Duty.does_of_act? hduty)
    | receive | clear =>
      obtain rfl := Option.some.inj hact
      exact ih.goOn rfl rfl ih.busy

/-- The book has the advert that was received last. -/
theorem Written.get?_adverts (h : Written typeDomain interface l) (fullName : String) :
    l.duty.feed.book.adverts.get? fullName = lastReceived? fullName l.log := by
  induction h with
  | start => rfl
  | @step l l' action _ hact ih =>
    cases action with
    | duty action =>
      obtain ⟨duty, hduty, rfl⟩ := Option.map_eq_some_iff.1 hact
      -- The end of a relay is noted, and changes nothing.
      have hending (last : Option Advert) :
          (l.duty.ending duty).foldl (LogEntry.last fullName) last = last := by
        rw [Duty.ending]
        split
        · cases duty.feed.relay.exit <;> rfl
        · rfl
      rw [lastReceived?, List.foldl_append, List.foldl_append, hending,
        Duty.get?_adverts_of_does (Duty.does_of_act? hduty), ih, lastReceived?]
    | receive event =>
      obtain rfl := Option.some.inj hact
      rw [lastReceived?, List.foldl_append]
      exact (l.duty.feed.book.get?_receive event fullName).trans
        (congrArg (event.lastAdvert fullName ·) ih)
    | clear =>
      obtain rfl := Option.some.inj hact
      rw [lastReceived?, List.foldl_append]
      rfl

theorem Written.lookUp_eq (h : Written typeDomain interface l) (fullName : String) :
    l.duty.feed.book.lookUp fullName = lastEndpoint? fullName l.log :=
  congrArg (·.bind Advert.endpoint?) (h.get?_adverts fullName)

/-- The log tells whether the relay ended, and how. -/
theorem Written.ended_mem_iff (h : Written typeDomain interface l) (exit : RelayExit) :
    .ended exit ∈ l.log ↔ l.duty.feed.relay.exit = some exit := by
  induction h with
  | start => exact iff_of_false List.not_mem_nil nofun
  | @step l l' action hwritten hact ih =>
    cases action with
    | duty action =>
      obtain ⟨duty, hduty, rfl⟩ := Option.map_eq_some_iff.1 hact
      have hreceived : .ended exit ∉ l.duty.received action := by
        unfold Duty.received
        split
        · cases l.duty.feed.relay.reports.head? <;> simp
        · exact List.not_mem_nil
      dsimp only
      rw [List.append_assoc, List.mem_append, List.mem_append, ih, or_iff_right hreceived,
        Duty.ending]
      split
      · rename_i hgoes
        rw [hgoes]
        simp
      · rename_i hended
        rw [Duty.exit_of_does hwritten.kept (Duty.does_of_act? hduty) hended]
        simp
    | receive | clear =>
      obtain rfl := Option.some.inj hact
      exact List.mem_append.trans ((or_iff_left (by simp)).trans ih)

/-- Whatever a relay ended with, it left the addresses in the book. After its end an address
    is found, and a wait that looks ends with it, if and only if it was received before the
    end and was not lost since; as long as the name is not received again there is no
    other. -/
theorem Written.found_iff (h : Written typeDomain interface l) {before since : List LogEntry}
    {exit : RelayExit} (hlog : l.log = before ++ .ended exit :: since)
    (hagain : ∀ advert, .received (.resolved advert) ∈ since → advert.fullName ≠ fullName)
    (endpoint : Endpoint) :
    l.duty.feed.relay.exit = some exit ∧
      (l.duty.feed.book.lookUp fullName = some endpoint ↔
        lastEndpoint? fullName before = some endpoint ∧ ¬ Lost fullName since) ∧
      ∀ (wait : AddressWait) (now : Nat), wait.fullName = fullName →
        (wait.step? l.duty.feed.book now = some (.inr (some endpoint)) ↔
          wait.stage = .looking ∧ lastEndpoint? fullName before = some endpoint ∧
            ¬ Lost fullName since) := by
  have hfound : l.duty.feed.book.lookUp fullName = some endpoint ↔
      lastEndpoint? fullName before = some endpoint ∧ ¬ Lost fullName since := by
    -- The end is an entry like others, and one that changes nothing.
    rw [h.lookUp_eq, hlog, lastEndpoint?, lastReceived?, List.foldl_append, List.foldl_cons,
      Option.bind_eq_some_iff]
    constructor
    · rintro ⟨advert, hlast, hendpoint⟩
      obtain ⟨hlast, hkept⟩ := (foldl_last_eq_some_iff hagain).1 hlast
      exact ⟨Option.bind_eq_some_iff.2 ⟨advert, hlast, hendpoint⟩, hkept⟩
    · rintro ⟨hlast, hkept⟩
      obtain ⟨advert, hlast, hendpoint⟩ := Option.bind_eq_some_iff.1 hlast
      exact ⟨advert, (foldl_last_eq_some_iff hagain).2 ⟨hlast, hkept⟩, hendpoint⟩
  refine ⟨(h.ended_mem_iff exit).1 (hlog ▸ List.mem_append_right _ List.mem_cons_self), hfound,
    fun wait now hname => ?_⟩
  rw [AddressWait.step?_eq_found_iff, hname, hfound]

/-- A search stops after an instance was resolved, and another relay is told of the instance,
    but not where it is: a wait that looks ends with the address from before. -/
theorem Written.found_iff_stopped :
    let type := "_p._tcp.local."
    let name := "a._p._tcp.local."
    let advert : Advert :=
      { fullName := name, type, subtype := none, port := 9000, addresses := [.v4 ⟨10, 0, 0, 5⟩] }
    let endpoint : Endpoint := .v4 ⟨10, 0, 0, 5⟩ 9000
    let since : List LogEntry := [.received (.found name)]
    let wait : AddressWait := .start name 0 3000
    let actions : List LogbookAction :=
      [.duty (.report (.resolved advert)), .duty (.notice .report), .duty .work, .duty .work,
        .duty (.report .stopped), .duty (.notice .report), .duty .work, .receive (.found name)]
    ∃ l : Logbook, actions.foldlM act? { duty := .start type "eth0" {} } = some l ∧
      l.log = [.received (.resolved advert), .received .stopped] ++ .ended .reset :: since ∧
      (∀ advert, .received (.resolved advert) ∈ since → advert.fullName ≠ name) ∧
      l.duty.feed.relay.exit = some .reset ∧
      l.duty.feed.book.lookUp name = some endpoint ∧
      wait.step? l.duty.feed.book 0 = some (.inr (some endpoint)) := by
  intro type name advert endpoint since wait actions
  have hrun : (actions.foldlM act? { duty := .start type "eth0" {} }).any fun l =>
      l.log = [.received (.resolved advert), .received .stopped] ++ .ended .reset :: since := by
    decide +kernel
  obtain ⟨l, hl, hlog⟩ := (Option.any_eq_true ..).1 hrun
  have hwritten : Written type "eth0" l :=
    of_foldlM_eq_some (fun h hact => h.step hact) .start hl
  have hagain : ∀ advert, .received (.resolved advert) ∈ since → advert.fullName ≠ name := by
    simp [since]
  obtain ⟨hexit, hfound, hwaits⟩ :=
    hwritten.found_iff (of_decide_eq_true hlog) hagain endpoint
  have hbefore : lastEndpoint? name [.received (.resolved advert), .received .stopped] =
      some endpoint ∧ ¬ Lost name since := by
    decide +kernel
  exact ⟨l, hl, of_decide_eq_true hlog, hagain, hexit, hfound.2 hbefore,
    (hwaits wait 0 rfl).2 ⟨rfl, hbefore⟩⟩

end Logbook

/-- A watcher is told of a reset, and whoever watches the type then is told that an instance
    appeared: it is resolved at once, to the address from before the reset. -/
theorem Roster.Ran.resolves_outdated :
    let type := "_p._tcp.local."
    let name := "a._p._tcp.local."
    let advert : Advert :=
      { fullName := name, type, subtype := none, port := 9000, addresses := [.v4 ⟨10, 0, 0, 5⟩] }
    let key : PeerKey := .ofFullName name type "any"
    let watch : List RosterAction := [.attach type, .proceed, .proceed]
    let relayed (id : Nat) (event : SearchEvent) : List RosterAction :=
      [.beside (.report id event), .beside (.relay id .report)]
    let actions : List RosterAction :=
      watch ++ relayed 0 (.resolved advert) ++ relayed 0 .stopped ++ [.tidy 0, .proceed] ++
        watch ++ relayed 1 (.found name)
    let unread (r : Roster) (id : Nat) : Option (List DirectoryEvent) :=
      ((r.directory.runs.get? id).bind (·.browse.streams.get? 0)).map (·.unread)
    ∃ r : Roster, actions.foldlM act? { directory := {} } = some r ∧
      unread r 0 = some [.appeared key, .reset] ∧ unread r 1 = some [.appeared key] ∧
      (AddressWait.start name 0 3000).step? r.directory.book 0 =
        some (.inr (some (.v4 ⟨10, 0, 0, 5⟩ 9000))) := by
  intro type name advert key watch relayed actions unread
  have hrun : (actions.foldlM act? { directory := {} }).any fun r =>
      unread r 0 = some [.appeared key, .reset] ∧ unread r 1 = some [.appeared key] ∧
        (AddressWait.start name 0 3000).step? r.directory.book 0 =
          some (.inr (some (.v4 ⟨10, 0, 0, 5⟩ 9000))) := by
    decide +kernel
  obtain ⟨r, hr, hfacts⟩ := (Option.any_eq_true ..).1 hrun
  exact ⟨r, hr, of_decide_eq_true hfacts⟩

end ServiceDiscovery
