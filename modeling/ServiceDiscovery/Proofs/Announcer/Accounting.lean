import ServiceDiscovery.Proofs.Announcer.Balance

/-!
# Accounting for registrations

An `Account` is kept of an announcer at a directory of which nothing is known: of
each registration that the directory answered with, of those that the announcer asked
it to withdraw, of those that a supervisor forgot because the directory had
restarted, and of those that an announce had in hand as it was given up.

Every event is balanced (`Lifetime.Steady.balanced`). So at any moment what was
answered is accounted for without rest and without repetition
(`Lifetime.Audited.accounts_for_answers`): it is in the hand of a task that waits for the lock, or
stored, or entered in the account as withdrawn, forgotten or dropped.
-/

namespace ServiceDiscovery

/-- The registration that the directory answers with in an event. -/
def AnnouncerEvent.answered : AnnouncerEvent → List Registration
  | react _ _ _ signal => signal.answered
  | _ => []

namespace Lifetime

open Announcer

/-- The registrations that the directory is asked to withdraw in an event. -/
def withdrawn (l : Lifetime) : AnnouncerEvent → List Registration
  | .react task generation now signal =>
    match l.announcer.step? ⟨generation, now, l.nextId⟩ task signal with
    | none => []
    | some (_, effects) => effects.filterMap AnnouncerEffect.withdrawn?
  | _ => []

/-- The registration that is forgotten in an event. -/
def forgotten (l : Lifetime) : AnnouncerEvent → List Registration
  | .react task _ _ signal => l.announcer.forgotten task signal
  | _ => []

/-- The registration that an announce has in hand that is given up in an event. -/
def dropped (l : Lifetime) : AnnouncerEvent → List Registration
  | .abort task => l.announcer.dropped task
  | _ => []

/-- What became of the registrations of an announcer. -/
structure Account where
  /-- The directory answered with these. -/
  answered : List Registration := []
  /-- The directory was asked to withdraw these. -/
  withdrawn : List Registration := []
  /-- A supervisor forgot these, as the directory had restarted. -/
  forgotten : List Registration := []
  /-- These an announce had in hand that was given up. -/
  dropped : List Registration := []

/-- The account after one more event. -/
def Account.enter (account : Account) (l : Lifetime) (event : AnnouncerEvent) : Account where
  answered := account.answered ++ event.answered
  withdrawn := account.withdrawn ++ l.withdrawn event
  forgotten := account.forgotten ++ l.forgotten event
  dropped := account.dropped ++ l.dropped event

/-- All entries of an account but for the answers. -/
def Account.spent (account : Account) : List Registration :=
  account.withdrawn ++ account.forgotten ++ account.dropped

/-- The states in which an announcer may find itself, each with its account. -/
inductive Audited (settings : AnnouncerSettings) : Lifetime → Account → Prop
  | start (nextId : Nat) : Audited settings (start settings nextId) {}
  | step {l l' : Lifetime} {account : Account} {event : AnnouncerEvent} :
      Audited settings l account → l.meet? event = some l' →
      Audited settings l' (account.enter l event)

/-- The announcer and its account after a series of events, if they can happen to
    it. -/
def auditAll? (l : Lifetime) (account : Account) :
    List AnnouncerEvent → Option (Lifetime × Account)
  | [] => some (l, account)
  | event :: events => (l.meet? event).bind fun l' => l'.auditAll? (account.enter l event) events

section

variable {settings : AnnouncerSettings} {l l' : Lifetime} {account : Account}
  {event : AnnouncerEvent}

theorem Audited.auditAll {events : List AnnouncerEvent} {account' : Account}
    (h : Audited settings l account) (hl : l.auditAll? account events = some (l', account')) :
    Audited settings l' account' := by
  induction events generalizing l account with
  | nil =>
    obtain ⟨rfl, rfl⟩ := Prod.mk.inj (Option.some.inj hl)
    exact h
  | cons event events ih =>
    obtain ⟨l₁, hfirst, hrest⟩ := Option.bind_eq_some_iff.1 hl
    exact ih (h.step hfirst) hrest

theorem Audited.lived (h : Audited settings l account) : Lived settings l := by
  induction h with
  | start nextId => exact .start nextId
  | step _ hl ih => exact ih.step hl

theorem Steady.vacant (h : Steady l) : Vacant l.announcer :=
  .of_tended h.order h.status h.supervision

/-- No announce that has a registration in hand is given up where one is stored. -/
theorem Steady.dropped_eq_nil (h : Steady l) {registration : Registration}
    (hr : l.announcer.registration? = some registration) : l.dropped event = [] := by
  cases event with
  | abort task =>
    rw [dropped, Announcer.dropped]
    split
    · rename_i hx
      rw [registration?, h.vacant.storing hx] at hr
      cases hr
    · rfl
  | announce | withdraw | shutdown | dropHandle | react | elsewhere => rfl

/-- What is had before an event, and answered in it, is had after it, or entered in the
    account. -/
theorem Steady.balanced (h : Steady l) (hl : l.meet? event = some l') :
    ∃ effects, Balanced l.announcer event.answered (l.forgotten event ++ l.dropped event)
        (l'.announcer, effects) ∧
      effects.filterMap AnnouncerEffect.withdrawn? = l.withdrawn event := by
  cases event with
  | announce | withdraw | shutdown | dropHandle =>
    obtain rfl := Option.some.inj hl
    exact ⟨[], balanced_spawn h.order.next rfl, rfl⟩
  | react task generation now signal =>
    obtain ⟨stepped, hstep, rfl⟩ := Option.map_eq_some_iff.1 hl
    refine ⟨stepped.2, ?_, by rw [withdrawn, hstep]⟩
    exact (List.append_nil _).symm ▸ balanced_of_step? h.vacant h.order.next hstep
  | abort task =>
    obtain rfl := Option.some.inj hl
    refine ⟨(l.announcer.abort task).2, balanced_abort l.announcer task, ?_⟩
    exact withdrawn_abort l.announcer task
  | elsewhere =>
    obtain rfl := Option.some.inj hl
    exact ⟨[], .still (fun _ => rfl) rfl, rfl⟩

/-- In an event a supervisor gets about to forget only by noticing that the directory
    is at another generation than the one it had seen. -/
theorem noticed_of_meet? (hl : l.meet? event = some l') {t id seen : Nat} {cancelled : Bool}
    (hx : l'.announcer.tasks.get? t = some (.supervise id seen cancelled .forgetting)) :
    (∃ before, l.announcer.tasks.get? t = some (.supervise id seen before .forgetting)) ∨
      ∃ now last, event = .react t seen now .proceed ∧ seen ≠ last ∧
        l.announcer.tasks.get? t = some (.supervise id last cancelled .watching) := by
  cases event with
  | announce | withdraw | shutdown | dropHandle =>
    obtain rfl := Option.some.inj hl
    exact .inl (stillForgets_spawn l.announcer rfl _ _ _ _ hx)
  | react task generation now signal =>
    obtain ⟨stepped, hstep, rfl⟩ := Option.map_eq_some_iff.1 hl
    rcases stillForgets_of_step? hstep with hstill |
      ⟨id', last, cancelled', rfl, hnew, hwas, hafter⟩
    · exact .inl (hstill _ _ _ _ hx)
    · have hx : stepped.1.tasks.get? t = _ := hx
      rw [hafter, setTask, Association.get?_put] at hx
      split at hx
      · rename_i ht
        cases hx
        exact .inr ⟨now, last, by rw [ht], hnew, ht ▸ hwas⟩
      · exact .inl ⟨_, hx⟩
  | abort task =>
    obtain rfl := Option.some.inj hl
    exact .inl (stillForgets_of_givesUp (l.givesUp_abort task) _ _ _ _ hx)
  | elsewhere =>
    obtain rfl := Option.some.inj hl
    exact .inl ⟨_, hx⟩

/-- Whatever the directory answered with is accounted for. -/
structure Accounted (l : Lifetime) (account : Account) : Prop where
  balanced : account.answered.Perm (l.announcer.holdings ++ account.spent)
  /-- If no number was given out twice, no registration is in two places, or twice in
      one. -/
  once : (account.answered.map (·.id)).Nodup →
    ((l.announcer.holdings ++ account.spent).map (·.id)).Nodup
  /-- What is in hand is so with a task that is yet to enter the lock. -/
  waits : ∀ registration ∈ l.announcer.inHand, ∃ t x,
    l.announcer.tasks.get? t = some x ∧ x.inHand? = some registration ∧ x.awaitsLock = true
  vacant : Vacant l.announcer
  /-- What is stored stays stored, unless it is withdrawn or forgotten. -/
  kept : ∀ {event l' registration}, l.meet? event = some l' →
    l.announcer.registration? = some registration →
    l'.announcer.registration? = some registration ∨ registration ∈ l.withdrawn event ∨
      registration ∈ l.forgotten event
  /-- Who is about to forget noticed that the directory had restarted. -/
  noticed : ∀ {event l' t id seen cancelled}, l.meet? event = some l' →
    l'.announcer.tasks.get? t = some (.supervise id seen cancelled .forgetting) →
    (∃ before, l.announcer.tasks.get? t = some (.supervise id seen before .forgetting)) ∨
      ∃ now last, event = .react t seen now .proceed ∧ seen ≠ last ∧
        l.announcer.tasks.get? t = some (.supervise id last cancelled .watching)

theorem Audited.balanced (h : Audited settings l account) :
    account.answered.Perm (l.announcer.holdings ++ account.spent) := by
  induction h with
  | start nextId => exact .refl _
  | @step l l' account event haudited hl ih =>
    obtain ⟨effects, hbalanced, hwithdrawn⟩ := haudited.lived.steady.balanced hl
    rw [List.perm_iff_count]
    intro registration
    have hbefore := ih.count_eq registration
    have hevent := hbalanced.perm.count_eq registration
    simp only [Account.spent, Account.enter, hwithdrawn, List.count_append] at hbefore hevent ⊢
    omega

/-- At any moment of any lifetime, whatever the directory answered with is in one
    place: in the hand of a task, stored, or accounted for as withdrawn, forgotten or
    dropped. -/
theorem Audited.accounts_for_answers (h : Audited settings l account) : Accounted l account where
  balanced := h.balanced
  once hnodup := (h.balanced.map (·.id)).nodup hnodup
  waits registration hm := by
    obtain ⟨⟨t, r⟩, he, rfl⟩ := List.mem_map.1 hm
    obtain ⟨x, hx, hhand⟩ := Option.bind_eq_some_iff.1 (Association.mem_entries.1 he)
    exact ⟨t, x, hx, hhand, AnnouncerTask.awaitsLock_of_inHand? hhand⟩
  vacant := h.lived.steady.vacant
  kept hl hr := by
    obtain ⟨effects, hbalanced, hwithdrawn⟩ := h.lived.steady.balanced hl
    have hkept := hbalanced.kept _ hr
    rw [hwithdrawn, h.lived.steady.dropped_eq_nil hr, List.append_nil, List.mem_append] at hkept
    exact hkept
  noticed hl hx := noticed_of_meet? hl hx

/-- The directory restarts and the record is registered again, but a shutdown comes
    first; the next announce is given up with its registration in hand, one more is
    shut down, and the last one is stored while the late supervisor still has its
    registration in hand. -/
theorem Audited.accounts_for_answers_everywhere :
    let record : ServiceRecord := { instanceName := "nas", serviceType := "t", port := 5000 }
    let registered (task id : Nat) : List AnnouncerEvent :=
      [.announce record, .react task 0 0 .proceed, .react task 0 0 .proceed,
        .react task 0 0 (.registered (.ok ⟨id, "nas.t"⟩))]
    let events : List AnnouncerEvent :=
      registered 0 1 ++ [.react 0 0 0 .proceed, .react 1 1 0 .proceed, .react 1 1 0 .proceed,
        .react 1 1 0 .proceed, .react 1 1 0 (.registered (.ok ⟨2, "nas.t"⟩)), .shutdown,
        .react 2 1 0 .proceed] ++ registered 3 3 ++ [.abort 3] ++ registered 4 4 ++
        [.react 4 1 0 .proceed, .shutdown, .react 6 1 0 .proceed, .react 6 1 0 .withdrawn] ++
        registered 7 5 ++ [.react 7 1 0 .proceed]
    ∃ l account, (Lifetime.start {} 0).auditAll? {} events = some (l, account) ∧
      account.answered.map (·.id) = [1, 2, 3, 4, 5] ∧ account.withdrawn.map (·.id) = [4] ∧
      account.forgotten.map (·.id) = [1] ∧ account.dropped.map (·.id) = [3] ∧
      l.announcer.inHand.map (·.id) = [2] ∧ l.announcer.registration? = some ⟨5, "nas.t"⟩ ∧
      Accounted l account := by
  intro record registered events
  have hrun : ((Lifetime.start {} 0).auditAll? {} events).any (fun (l, account) =>
      account.answered.map (·.id) = [1, 2, 3, 4, 5] ∧ account.withdrawn.map (·.id) = [4] ∧
        account.forgotten.map (·.id) = [1] ∧ account.dropped.map (·.id) = [3] ∧
        l.announcer.inHand.map (·.id) = [2] ∧
        l.announcer.registration? = some ⟨5, "nas.t"⟩) = true := by decide +kernel
  obtain ⟨⟨l, account⟩, hl, hstate⟩ := (Option.any_eq_true _ _).1 hrun
  obtain ⟨hanswered, hwithdrawn, hforgotten, hdropped, hhand, hstored⟩ := of_decide_eq_true hstate
  exact ⟨l, account, hl, hanswered, hwithdrawn, hforgotten, hdropped, hhand, hstored,
    ((Audited.start 0).auditAll hl).accounts_for_answers⟩

end

end Lifetime

end ServiceDiscovery
