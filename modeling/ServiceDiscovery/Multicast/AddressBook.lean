import ServiceDiscovery.Multicast.Advert

/-!
# The address book

The last resolved advert of every full name. Whoever needs an address that is
not there yet waits for it (`AddressWait`): it looks into the book, then sleeps
until some advert is entered or its time is up, and so on. An advert is entered
in two steps, between which others may act: it is put into the book, and then
all who wait are woken. The book counts how often they were, so that a waiter
which looked at one count notices every time after that.
-/

namespace ServiceDiscovery

/-- The last resolved adverts. -/
structure AddressBook where
  adverts : Association String Advert := .empty
  /-- For how many entries those who wait were woken. -/
  entered : Nat := 0
  deriving DecidableEq, Inhabited

namespace AddressBook

/-- Put an advert into the book under its full name. Nobody is told yet. -/
def put (b : AddressBook) (advert : Advert) : AddressBook :=
  { b with adverts := b.adverts.put advert.fullName advert }

/-- Wake all who wait. -/
def wake (b : AddressBook) : AddressBook := { b with entered := b.entered + 1 }

/-- Enter an advert, while nobody else acts. -/
def enter (b : AddressBook) (advert : Advert) : AddressBook := (b.put advert).wake

/-- Strike out a name. -/
def strike (b : AddressBook) (fullName : String) : AddressBook :=
  { b with adverts := b.adverts.erase fullName }

/-- Strike out all names. -/
def clear (b : AddressBook) : AddressBook := { b with adverts := .empty }

/-- Where the instance of a name is. -/
def lookUp (b : AddressBook) (fullName : String) : Option Endpoint :=
  (b.adverts.get? fullName).bind Advert.endpoint?

theorem lookUp_put (b : AddressBook) (advert : Advert) (fullName : String) :
    (b.put advert).lookUp fullName =
      if fullName = advert.fullName then advert.endpoint? else b.lookUp fullName := by
  rw [lookUp, put, Association.get?_put]
  split <;> rfl

theorem lookUp_strike (b : AddressBook) (struck fullName : String) :
    (b.strike struck).lookUp fullName =
      if fullName = struck then none else b.lookUp fullName := by
  rw [lookUp, strike, Association.get?_erase]
  split <;> rfl

end AddressBook

/-- How far a wait for an address is. -/
inductive WaitStage
  /-- About to look into the book. -/
  | looking
  /-- Asleep since the book had so many entries. -/
  | asleep (entered : Nat)
  deriving DecidableEq, Repr

/-- A wait for the address of a name. -/
structure AddressWait where
  fullName : String
  /-- The moment at which it is given up. -/
  deadline : Nat
  stage : WaitStage := .looking
  deriving DecidableEq, Repr

namespace AddressWait

/-- A wait that starts now and lasts so long. -/
def start (fullName : String) (now length : Nat) : AddressWait :=
  { fullName, deadline := now + length }

/-- The next step of a wait: further waiting, or its end with the address. A
    new entry is noticed before the time is up. -/
def step? (w : AddressWait) (book : AddressBook) (now : Nat) :
    Option (AddressWait ⊕ Option Endpoint) :=
  match w.stage with
  | .looking =>
    match book.lookUp w.fullName with
    | some endpoint => some (.inr (some endpoint))
    | none => some (.inl { w with stage := .asleep book.entered })
  | .asleep entered =>
    if book.entered ≠ entered then some (.inl { w with stage := .looking })
    else if w.deadline ≤ now then some (.inr none)
    else none

end AddressWait

end ServiceDiscovery
