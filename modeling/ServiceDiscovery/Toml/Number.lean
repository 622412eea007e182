import ServiceDiscovery.Time.Date
import ServiceDiscovery.Toml.Text
import ServiceDiscovery.Toml.Value

/-!
# Reading TOML: numbers, dates and times

Integers fit into 64 bits with a sign. In decimal they may have a sign and have no
leading zeros; in hexadecimal, octal and binary they have neither a sign nor a
limit on zeros. Between two digits may stand an underscore.

A number in double precision has decimals or an exponent or both, and is the one
nearest to what is written; a positive one must not be too large, whereas a
negative one that is too large is infinite.

A date, a time of day, or both with or without an offset are kept as the text
they have in their usual form: with a `T` between date and time, and with nine
decimals of a second at most and no zeros at their end.
-/

namespace ServiceDiscovery.Toml

/-! ## Digits -/

/-- The digits a text goes on with, an underscore before each of them at most;
    the underscores are left out. -/
def moreDigits (isDigit : Char → Bool) : List Char → List Char × List Char
  | '_' :: c :: cs =>
    if isDigit c then
      let (ds, rest) := moreDigits isDigit cs
      (c :: ds, rest)
    else ([], '_' :: c :: cs)
  | c :: cs =>
    if isDigit c then
      let (ds, rest) := moreDigits isDigit cs
      (c :: ds, rest)
    else ([], c :: cs)
  | [] => ([], [])

/-- Scan at least one digit. -/
def scanDigits (isDigit : Char → Bool) : Scanner (List Char)
  | c :: cs =>
    if isDigit c then
      let (ds, rest) := moreDigits isDigit cs
      some (c :: ds, rest)
    else none
  | [] => none

/-- Scan decimal digits without leading zeros. -/
def scanUnpadded : Scanner (List Char)
  | '0' :: cs => some (['0'], cs)
  | cs => scanDigits Char.isDigit cs

/-- Scan a sign, if there is one: whether it is a minus. -/
def scanSign : List Char → Bool × List Char
  | '+' :: cs => (false, cs)
  | '-' :: cs => (true, cs)
  | cs => (false, cs)

/-! ## Integers -/

/-- The integer of a sign and a magnitude, if it fits. -/
def integer? (negative : Bool) (magnitude : Nat) : Option Value :=
  if negative then
    if magnitude ≤ Nat.pow 2 63 then some (.integer (-(magnitude : Int))) else none
  else if magnitude < Nat.pow 2 63 then some (.integer magnitude)
  else none

/-- Scan the digits of an integer in a radix. -/
def scanInRadix (radix : Nat) : Scanner Value := fun cs => do
  let (digits, rest) ← scanDigits (fun c => (digitValue? radix c).isSome) cs
  return (← integer? false (digitsValue radix digits), rest)

/-- Scan an integer. -/
def scanInteger : Scanner Value
  | '0' :: 'x' :: cs => scanInRadix 16 cs
  | '0' :: 'o' :: cs => scanInRadix 8 cs
  | '0' :: 'b' :: cs => scanInRadix 2 cs
  | cs => do
    let (negative, cs) := scanSign cs
    let (digits, rest) ← scanUnpadded cs
    return (← integer? negative (digitsValue 10 digits), rest)

/-! ## Numbers in double precision -/

/-- A number in double precision, or that it is too large. -/
def nearest? (significand : Nat) (exponent : Int) : Option Binary64 :=
  let size := Binary64.decimalLength significand + exponent
  -- Far outside of the range no power of ten is needed to tell.
  if significand = 0 ∨ size < -330 then some .zero
  else if 310 < size then none
  else if 0 ≤ exponent then Binary64.ofRatio? (significand * Nat.pow 10 exponent.toNat) 1
  else Binary64.ofRatio? significand (Nat.pow 10 (-exponent).toNat)

/-- The number of a sign, a significand and an exponent. -/
def float? (negative : Bool) (significand : Nat) (exponent : Int) : Option Value :=
  match nearest? significand exponent with
  | some x => some (.float (.finite negative x))
  | none => if negative then some (.float (.infinite true)) else none

/-- Scan an exponent. -/
def scanExponent : Scanner Int
  | c :: cs => do
    guard (c = 'e' || c = 'E')
    let (negative, cs) := scanSign cs
    let (digits, rest) ← scanDigits Char.isDigit cs
    let n := digitsValue 10 digits
    return (if negative then -(n : Int) else n, rest)
  | [] => none

/-- Scan decimals. -/
def scanDecimals : Scanner (List Char)
  | '.' :: cs => scanDigits Char.isDigit cs
  | _ => none

/-- Scan infinity or what is no number. -/
def scanSpecial (negative : Bool) : Scanner Value
  | 'i' :: 'n' :: 'f' :: cs => some (.float (.infinite negative), cs)
  | 'n' :: 'a' :: 'n' :: cs => some (.float .notANumber, cs)
  | _ => none

/-- Scan a number with decimals or an exponent. -/
def scanFloat : Scanner Value := fun cs =>
  let (negative, cs) := scanSign cs
  match scanUnpadded cs with
  | none => scanSpecial negative cs
  | some (whole, rest) =>
    match scanDecimals rest with
    | some (decimals, rest) =>
      let (exponent, rest) := (scanExponent rest).getD (0, rest)
      (float? negative (digitsValue 10 (whole ++ decimals)) (exponent - decimals.length)).map (·, rest)
    | none => do
      let (exponent, rest) ← scanExponent rest
      return (← float? negative (digitsValue 10 whole) exponent, rest)

/-! ## Dates and times -/

/-- Scan a number of just so many digits in a range, as text. -/
def scanFixed (width least most : Nat) : Scanner (List Char) := fun cs =>
  let digits := cs.take width
  let n := digitsValue 10 digits
  if digits.length = width ∧ digits.all Char.isDigit ∧ least ≤ n ∧ n ≤ most then
    some (digits, cs.drop width)
  else none

/-- Scan a date. -/
def scanDate : Scanner (List Char) := fun cs => do
  let (year, cs) ← scanFixed 4 0 9999 cs
  let cs ← scanChar '-' cs
  let (month, cs) ← scanFixed 2 1 12 cs
  let cs ← scanChar '-' cs
  let (day, cs) ← scanFixed 2 1 31 cs
  guard (digitsValue 10 day ≤ daysInMonth (digitsValue 10 year) (digitsValue 10 month))
  return (year ++ '-' :: month ++ '-' :: day, cs)

/-- Scan decimals of a second, if there are any. -/
def scanSecondDecimals : List Char → List Char × List Char
  | '.' :: cs =>
    let digits := cs.takeWhile Char.isDigit
    if digits.isEmpty then ([], '.' :: cs)
    else
      let kept := ((digits.take 9).reverse.dropWhile (· == '0')).reverse
      (if kept.isEmpty then [] else '.' :: kept, cs.drop digits.length)
  | cs => ([], cs)

/-- Scan a time of day. -/
def scanTime : Scanner (List Char) := fun cs => do
  let (hour, cs) ← scanFixed 2 0 23 cs
  let cs ← scanChar ':' cs
  let (minute, cs) ← scanFixed 2 0 59 cs
  let cs ← scanChar ':' cs
  let (second, cs) ← scanFixed 2 0 60 cs
  let (decimals, cs) := scanSecondDecimals cs
  return (hour ++ ':' :: minute ++ ':' :: second ++ decimals, cs)

/-- Scan an offset from UTC. -/
def scanOffset : Scanner (List Char)
  | [] => none
  | c :: cs =>
    if c = 'Z' || c = 'z' then some (['Z'], cs)
    else do
      guard (c = '+' || c = '-')
      let (hours, cs) ← scanFixed 2 0 23 cs
      let cs ← scanChar ':' cs
      let (minutes, cs) ← scanFixed 2 0 59 cs
      let none := digitsValue 10 hours = 0 ∧ digitsValue 10 minutes = 0
      return ((if none then '+' else c) :: hours ++ ':' :: minutes, cs)

/-- Scan the time of day and the offset that may follow a date. -/
def scanTimeOfDate : Scanner (List Char)
  | [] => none
  | c :: cs => do
    guard (c = 'T' || c = 't' || c = ' ')
    let (time, cs) ← scanTime cs
    let (offset, cs) := (scanOffset cs).getD ([], cs)
    return ('T' :: time ++ offset, cs)

/-- Scan a date, a time of day, or both. -/
def scanDateTime : Scanner Value := fun cs =>
  let found :=
    match scanDate cs with
    | some (date, rest) =>
      let (time, rest) := (scanTimeOfDate rest).getD ([], rest)
      some (date ++ time, rest)
    | none => scanTime cs
  found.map fun (text, rest) => (.dateTime (String.ofList text), rest)

end ServiceDiscovery.Toml
