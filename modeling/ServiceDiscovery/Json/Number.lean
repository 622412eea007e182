import ServiceDiscovery.Json.Text

/-!
# Reading JSON: numbers

A number without point and exponent is an integer if it fits into 64 bits, with
sign or without; all others are numbers in double precision. These are computed
in two roundings: the digits, of which only as many count as fit into 64 bits,
are rounded to a number in double precision, and that is multiplied with or
divided by a power of ten. The result may differ from the nearest number in the
last digit.

Skipping a number asks only for its form; one that is out of range is skipped.
-/

namespace ServiceDiscovery.Json

/-- A number that was read. -/
inductive Number
  | integer (value : Int)
  | float (negative : Bool) (magnitude : Binary64)
  deriving DecidableEq, Repr

/-- What a number is shown as where it does not fit. -/
def Number.found : Number → Found
  | integer value => .integer value
  | float negative magnitude => .float (FloatValue.mixed (.finite negative magnitude))

/-- The largest number of 64 bits. -/
def maxWord : Nat := Nat.pow 2 64 - 1

/-- The digits a text starts with, and the rest. -/
def spanDigits (cs : List Char) : List Char × List Char :=
  (cs.takeWhile Char.isDigit, cs.dropWhile Char.isDigit)

/-- Append digits to a number as long as it fits into 64 bits; the digits left
    over come with it. -/
def appendDigits : Nat → List Char → Nat × List Char
  | n, [] => (n, [])
  | n, d :: ds =>
    let next := n * 10 + (d.toNat - '0'.toNat)
    if next ≤ maxWord then appendDigits next ds else (n, d :: ds)

/-! ## Numbers in double precision -/

/-- The largest power of ten in double precision. -/
def maxPower : Nat := 308

/-- The number in double precision nearest to `10 ^ k`, for a `k` up to
    `maxPower`. -/
def tenTo (k : Nat) : Binary64 := (Binary64.ofRatio? (Nat.pow 10 k) 1).getD .zero

/-- A number divided by `10 ^ k`. -/
def shrink (x : Binary64) (k : Nat) : Binary64 :=
  if k ≤ maxPower then (x.div? (tenTo k)).getD .zero
  else if x.mantissa = 0 then x
  else shrink ((x.div? (tenTo maxPower)).getD .zero) (k - maxPower)
termination_by k
decreasing_by simp only [maxPower] at *; omega

/-- `significand * 10 ^ exponent` in double precision, if that is not too
    large. -/
def assemble? (significand : Nat) (exponent : Int) : Option Binary64 :=
  let x := (Binary64.ofRatio? significand 1).getD .zero
  if exponent < 0 then some (shrink x (-exponent).toNat)
  else if exponent.toNat ≤ maxPower then x.mul? (tenTo exponent.toNat)
  else if x.mantissa = 0 then some x
  else none

/-- The number made of its parts. -/
def makeFloat (negative : Bool) (significand : Nat) (exponent : Int) (rest : List Char) :
    Except Fault (Number × List Char) :=
  match assemble? significand exponent with
  | some x => .ok (.float negative x, rest)
  | none => .error .malformed

/-- The sign that may stand before an exponent: whether it is a minus. -/
def readSign : List Char → Bool × List Char
  | '+' :: cs => (false, cs)
  | '-' :: cs => (true, cs)
  | cs => (false, cs)

/-- Read the exponent whose `e` was seen. -/
def readExponent (negative : Bool) (significand : Nat) (exponent : Int) (cs : List Char) :
    Except Fault (Number × List Char) :=
  let (down, cs) := readSign cs
  let (digits, rest) := spanDigits cs
  if digits.isEmpty then .error (if rest.isEmpty then .truncated else .malformed)
  else
    let shift := digitsValue 10 digits
    if Nat.pow 2 31 ≤ shift then
      if significand ≠ 0 && !down then .error .malformed
      else .ok (.float negative .zero, rest)
    else makeFloat negative significand (if down then exponent - shift else exponent + shift) rest

/-- Read what may follow the digits of a number in double precision. -/
def readScale (negative : Bool) (significand : Nat) (exponent : Int) :
    Reader Number
  | 'e' :: cs | 'E' :: cs => readExponent negative significand exponent cs
  | cs => makeFloat negative significand exponent cs

/-- Read the decimals whose point was seen. -/
def readDecimals (negative : Bool) (significand : Nat) (exponent : Int) (cs : List Char) :
    Except Fault (Number × List Char) :=
  let (digits, rest) := spanDigits cs
  if digits.isEmpty then .error (if rest.isEmpty then .truncated else .malformed)
  else
    let (significand, left) := appendDigits significand digits
    readScale negative significand (exponent - (digits.length - left.length : Nat)) rest

/-! ## Numbers -/

/-- The integer of a sign and digits, if it fits; minus zero does not. -/
def integer? (negative : Bool) (significand : Nat) : Option Int :=
  if !negative then some significand
  else if 0 < significand ∧ significand ≤ Nat.pow 2 63 then some (-(significand : Int))
  else none

/-- Read what may follow the leading digits of a number. -/
def readTail (negative : Bool) (significand : Nat) : Reader Number
  | '.' :: cs => readDecimals negative significand 0 cs
  | 'e' :: cs | 'E' :: cs => readExponent negative significand 0 cs
  | cs =>
    match integer? negative significand with
    | some n => .ok (.integer n, cs)
    | none => makeFloat negative significand 0 cs

/-- Read what may follow leading digits that do not fit into 64 bits, of which
    `dropped` are left out. -/
def readLongTail (negative : Bool) (significand dropped : Nat) : Reader Number
  | '.' :: cs => readDecimals negative significand dropped cs
  | cs => readScale negative significand dropped cs

/-- Read a number whose sign was seen. -/
def readUnsigned (negative : Bool) (cs : List Char) : Except Fault (Number × List Char) :=
  match spanDigits cs with
  | ([], rest) => .error (if rest.isEmpty then .truncated else .malformed)
  | (['0'], rest) => readTail negative 0 rest
  | ('0' :: _, _) => .error .malformed
  | (digits, rest) =>
    match appendDigits 0 digits with
    | (significand, []) => readTail negative significand rest
    | (significand, left) => readLongTail negative significand left.length rest

/-- Read a number. -/
def readNumber : Reader Number
  | '-' :: cs => readUnsigned true cs
  | cs => readUnsigned false cs

/-! ## Skipping -/

/-- Skip at least one digit. -/
def skipDigits (cs : List Char) : Except Fault (List Char) :=
  let (digits, rest) := spanDigits cs
  if digits.isEmpty then .error .malformed else .ok rest

/-- Skip an exponent, if there is one. -/
def skipExponent : List Char → Except Fault (List Char)
  | 'e' :: cs | 'E' :: cs => skipDigits (readSign cs).2
  | cs => .ok cs

/-- Skip decimals and an exponent, if they are there. -/
def skipTail : List Char → Except Fault (List Char)
  | '.' :: cs => skipDigits cs >>= skipExponent
  | cs => skipExponent cs

/-- Skip a number. -/
def skipNumber (cs : List Char) : Except Fault (List Char) :=
  let cs := match cs with
    | '-' :: cs => cs
    | cs => cs
  match spanDigits cs with
  | ([], _) => .error .malformed
  | (['0'], rest) => skipTail rest
  | ('0' :: _, _) => .error .malformed
  | (_, rest) => skipTail rest

end ServiceDiscovery.Json
