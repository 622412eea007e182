import ServiceDiscovery.Time.Date
import ServiceDiscovery.Text.Blank
import ServiceDiscovery.Text.Scan

/-!
# Times of day in UTC

A time is a date, the minute of the day, the second and its nanoseconds. A
minute may have a sixty-first second, as the one has that a leap second is
inserted into.

The text is that of RFC 3339 in UTC, as in `2024-01-02T03:04:05.123Z`, with
zero, three, six or nine decimals, the fewest that suffice. A year that has
not just four digits is written with its sign.

Reading is more liberal: blanks may stand before every number and around the
hyphens and colons, the letters may be small, a space may stand for the `T`, the
year may have a sign and then any number of digits, there may be any number of
decimals, of which nine count, and the time may be given with an offset from
UTC, whose hours and minutes may have colons or blanks between them.
-/

namespace ServiceDiscovery

/-- A time in UTC. -/
structure UtcTime where
  date : Date
  /-- The minutes since midnight. -/
  minute : Nat
  second : Nat
  nanos : Nat
  minute_lt : minute < 1440
  second_le : second ≤ 60
  nanos_lt : nanos < 1000000000
  deriving DecidableEq, Repr

/-- Why a text is no time. -/
inductive TimeFault
  | tooShort
  | invalid
  | outOfRange
  | tooLong
  /-- The offset leads out of the calendar. -/
  | impossible
  deriving DecidableEq, Repr

def TimeFault.message : TimeFault → String
  | tooShort => "premature end of input"
  | invalid => "input contains invalid characters"
  | outOfRange => "input is out of range"
  | tooLong => "trailing input"
  | impossible => "no possible date and time matching input"

namespace UtcTime

/-- The first moment of the year 1970. -/
def epoch : UtcTime where
  date := { year := 1970, month := 1, day := 1, valid := by decide }
  minute := 0
  second := 0
  nanos := 0
  minute_lt := by decide
  second_le := by decide
  nanos_lt := by decide

/-! ## Writing -/

/-- A number in decimal, with zeros in front of it up to a width. -/
def padded (width n : Nat) : List Char :=
  let digits := Nat.toDigits 10 n
  List.replicate (width - digits.length) '0' ++ digits

/-- The text of a year. -/
def renderYear (year : Int) : List Char :=
  if 0 ≤ year ∧ year ≤ 9999 then padded 4 year.toNat
  else (if year < 0 then '-' else '+') :: padded 4 year.natAbs

/-- The text of the decimals of a second, with the point. -/
def renderNanos (nanos : Nat) : List Char :=
  if nanos = 0 then []
  else if nanos % 1000000 = 0 then '.' :: padded 3 (nanos / 1000000)
  else if nanos % 1000 = 0 then '.' :: padded 6 (nanos / 1000)
  else '.' :: padded 9 nanos

/-- The text of a time. -/
def render (t : UtcTime) : String :=
  String.ofList <|
    renderYear t.date.year ++ '-' :: padded 2 t.date.month ++ '-' :: padded 2 t.date.day ++
      'T' :: padded 2 (t.minute / 60) ++ ':' :: padded 2 (t.minute % 60) ++
      ':' :: padded 2 t.second ++ renderNanos t.nanos ++ ['Z']

/-! ## Reading -/

/-- What reads something off the front of a text. -/
abbrev Scanner (α : Type) := List Char → Except TimeFault (α × List Char)

/-- The largest number that is read. -/
def maxNumber : Nat := Nat.pow 2 63 - 1

/-- Read a number of at least one digit and at most `width` of them, if that is
    given. -/
def scanDigits (width : Option Nat) : Scanner Nat := fun cs =>
  let all := cs.takeWhile Char.isDigit
  let digits := match width with
    | some n => all.take n
    | none => all
  if digits.isEmpty then .error (if cs.isEmpty then .tooShort else .invalid)
  else if maxNumber < digitsValue 10 digits then .error .outOfRange
  else .ok (digitsValue 10 digits, cs.drop digits.length)

/-- Read a number of two digits at most in a range, after blanks. -/
def scanPart (least most : Nat) : Scanner Nat := fun cs => do
  let (n, rest) ← scanDigits (some 2) (cs.dropWhile isBlank)
  if least ≤ n ∧ n ≤ most then return (n, rest) else throw .outOfRange

/-- Read a year: four digits, or more with a sign. -/
def scanYear : Scanner Int := fun cs => do
  let (year, rest) ← match cs.dropWhile isBlank with
    | '-' :: cs => do
      let (n, rest) ← scanDigits none cs
      pure (-(n : Int), rest)
    | '+' :: cs => do
      let (n, rest) ← scanDigits none cs
      pure ((n : Int), rest)
    | cs => do
      let (n, rest) ← scanDigits (some 4) cs
      pure ((n : Int), rest)
  if -(Nat.pow 2 31 : Int) ≤ year ∧ year < Nat.pow 2 31 then return (year, rest) else throw .outOfRange

/-- Read a mark, after blanks. -/
def scanMark (mark : Char) : Scanner Unit := fun cs =>
  match cs.dropWhile isBlank with
  | [] => .error .tooShort
  | c :: rest => if c = mark then .ok ((), rest) else .error .invalid

/-- Read what stands between date and time. -/
def scanDivider : Scanner Unit
  | [] => .error .tooShort
  | c :: rest => if c = 'T' || c = 't' || c = ' ' then .ok ((), rest) else .error .invalid

/-- Read decimals, if there are any, as nanoseconds. -/
def scanNanos : Scanner Nat
  | '.' :: cs => do
    let (n, rest) ← scanDigits (some 9) cs
    let count := cs.length - rest.length
    return (n * Nat.pow 10 (9 - count), rest.dropWhile Char.isDigit)
  | cs => .ok (0, cs)

/-- Read two digits. -/
def scanPair : Scanner Nat
  | a :: b :: rest =>
    if a.isDigit && b.isDigit then .ok (digitsValue 10 [a, b], rest) else .error .invalid
  | [c] => .error (if c.toNat < 128 then .tooShort else .invalid)
  | [] => .error .tooShort

/-- Read the minutes of an offset. -/
def scanOffsetMinutes (cs : List Char) : Except TimeFault (Nat × List Char) := do
  let (n, rest) ← scanPair cs
  if n < 60 then return (n, rest) else throw .outOfRange

/-- Read the sign of an offset: whether it is a minus. -/
def scanSign : Scanner Bool
  | [] => .error .tooShort
  | c :: rest =>
    if c = '+' then .ok (false, rest)
    else if c = '-' || c = '−' then .ok (true, rest)
    else .error .invalid

/-- The text after the letters `utc` in any case. -/
def dropUtc? : List Char → Option (List Char)
  | a :: b :: c :: rest =>
    if a.toLower = 'u' && b.toLower = 't' && c.toLower = 'c' then some rest else none
  | _ => none

/-- Read an offset from UTC, in minutes. -/
def scanOffset : Scanner Int := fun cs =>
  match dropUtc? cs with
  | some rest => .ok (0, rest)
  | none =>
    match cs with
    | 'Z' :: rest | 'z' :: rest => .ok (0, rest)
    | cs => do
      let (negative, rest) ← scanSign cs
      let (hours, rest) ← scanPair rest
      let (minutes, rest) ← scanOffsetMinutes (rest.dropWhile fun c => c = ':' || isBlank c)
      let offset : Int := hours * 60 + minutes
      return (if negative then -offset else offset, rest)

/-- A time of day as it is read, with its date and its offset. -/
structure Reading where
  year : Int
  month : Nat
  day : Nat
  hour : Nat
  minute : Nat
  second : Nat
  nanos : Nat
  offset : Int

/-- Read all parts of a time. -/
def scanReading : Scanner Reading := fun cs => do
  let (year, cs) ← scanYear cs
  let (_, cs) ← scanMark '-' cs
  let (month, cs) ← scanPart 1 12 cs
  let (_, cs) ← scanMark '-' cs
  let (day, cs) ← scanPart 1 31 cs
  let (_, cs) ← scanDivider cs
  let (hour, cs) ← scanPart 0 23 cs
  let (_, cs) ← scanMark ':' cs
  let (minute, cs) ← scanPart 0 59 cs
  let (_, cs) ← scanMark ':' cs
  let (second, cs) ← scanPart 0 60 cs
  let (nanos, cs) ← scanNanos cs
  let (offset, cs) ← scanOffset (cs.dropWhile isBlank)
  return ({ year, month, day, hour, minute, second, nanos, offset }, cs)

/-- A minute counted from the midnight of a date, as a date and a minute of that
    day. The minute lies less than a day before or after that date. -/
def normalize? (date : Date) (minute : Int) : Option (Date × Nat) :=
  if minute < 0 then date.previous?.map fun d => (d, (minute + 1440).toNat)
  else if 1440 ≤ minute then date.next?.map fun d => (d, (minute - 1440).toNat)
  else some (date, minute.toNat)

/-- The time that was read. -/
def Reading.toUtc (r : Reading) : Except TimeFault UtcTime :=
  match Date.of? r.year r.month r.day with
  | none => .error .outOfRange
  | some date =>
    if r.offset ≤ -1440 ∨ 1440 ≤ r.offset then .error .outOfRange
    else
      match normalize? date (r.hour * 60 + r.minute - r.offset) with
      | none => .error .impossible
      | some (date, minute) =>
        if h : minute < 1440 ∧ r.second ≤ 60 ∧ r.nanos < 1000000000 then
          .ok ⟨date, minute, r.second, r.nanos, h.1, h.2.1, h.2.2⟩
        else .error .outOfRange

/-- The time whose text is `s`. -/
def parse (s : String) : Except TimeFault UtcTime := do
  let (reading, rest) ← scanReading s.toList
  if (rest.dropWhile isBlank).isEmpty then reading.toUtc else throw .tooLong

end UtcTime

end ServiceDiscovery
