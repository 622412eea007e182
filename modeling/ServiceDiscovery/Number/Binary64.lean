import ServiceDiscovery.Number.Binary53

/-!
# Numbers in double precision

The non-negative numbers of double precision: a mantissa of at most 53 binary
digits times a power of two. The exponent is at least -1074, so that very small
numbers have fewer digits, and at most 971; beyond that a number is infinite,
which is none here.

`Binary64.ofRatio?` rounds a quotient of natural numbers to the nearest of
them, one with an even mantissa on ties. `Binary64.shortest` is the way back to
decimals: the fewest digits that still lead to the number.
-/

namespace ServiceDiscovery

/-- The number `mantissa * 2 ^ exponent`. -/
structure Binary64 where
  mantissa : Nat
  exponent : Int
  deriving DecidableEq, Repr, Inhabited

namespace Binary64

/-- The least exponent. -/
def minExponent : Int := -1074

/-- The largest exponent. -/
def maxExponent : Int := 971

/-- Zero. -/
def zero : Binary64 := ⟨0, minExponent⟩

/-- `base ^ k` as a quotient of natural numbers. -/
def power (base : Nat) (k : Int) : Nat × Nat :=
  if 0 ≤ k then (Nat.pow base k.toNat, 1) else (1, Nat.pow base (-k).toNat)

/-- The quotient `num / den`, divided by `2 ^ e`. -/
def scale (num den : Nat) (e : Int) : Nat × Nat :=
  let (up, down) := power 2 (-e)
  (num * up, den * down)

/-- The exponent with which `num / den` has a mantissa of 53 binary digits, or
    the least one. -/
def exponentOf (num den : Nat) : Int :=
  let guess : Int := (num.log2 : Int) - den.log2 - 52
  let (n, d) := scale num den guess
  max minExponent (if n < d * Nat.pow 2 52 then guess - 1 else guess)

/-- The number nearest to `num / den`, if that is not too large. -/
def ofRatio? (num den : Nat) : Option Binary64 :=
  if num = 0 then some zero
  else
    let e := exponentOf num den
    let (n, d) := scale num den e
    let m := Binary53.roundDiv n d
    let (m, e) := if m = Nat.pow 2 53 then (Nat.pow 2 52, e + 1) else (m, e)
    if e ≤ maxExponent then some ⟨m, e⟩ else none

/-- The number as a quotient of natural numbers. -/
def ratio (x : Binary64) : Nat × Nat :=
  let (up, down) := power 2 x.exponent
  (x.mantissa * up, down)

/-- The product, rounded, if it is not too large. -/
def mul? (x y : Binary64) : Option Binary64 :=
  let (a, b) := x.ratio
  let (c, d) := y.ratio
  ofRatio? (a * c) (b * d)

/-- The quotient, rounded, if it is not too large. The divisor is not zero. -/
def div? (x y : Binary64) : Option Binary64 :=
  let (a, b) := x.ratio
  let (c, d) := y.ratio
  ofRatio? (a * d) (b * c)

/-! ## Shortest decimals -/

/-- The number of decimal digits of a natural number, at least one. -/
def decimalLength (n : Nat) : Nat := (Nat.toDigits 10 n).length

/-- The `k` for which `num / den`, not zero, is at least `10 ^ (k - 1)` and
    less than `10 ^ k`. -/
def magnitude (num den : Nat) : Int :=
  if den ≤ num then decimalLength (num / den) else 1 - (decimalLength ((den - 1) / num) : Int)

/-- What to do when two decimals are equally near. -/
inductive Tie
  /-- Take the one with an even last digit. -/
  | even
  /-- Take the larger one. -/
  | up
  deriving DecidableEq, Repr

/-- The decimal of `n` digits nearest to a number, as a multiple of `10 ^ k`, if
    one of that length leads back to the number. The decimals that do lie no
    farther away than half the distance to the next number; those just at half
    the distance do if the mantissa is even. -/
def ofLength? (tie : Tie) (x : Binary64) (n : Nat) : Option (Nat × Int) :=
  let (num, den) := x.ratio
  let k := magnitude num den - n
  let (up, down) := power 2 (x.exponent - 2)
  let (unit, part) := power 10 k
  -- In units of `10 ^ k`, the number is `4 * mantissa * a / b`.
  let a := up * part
  let b := down * unit
  let here := 4 * x.mantissa * a
  let below := if x.mantissa = Nat.pow 2 52 ∧ x.exponent ≠ minExponent then 1 else 2
  let low := (4 * x.mantissa - below) * a
  let high := (4 * x.mantissa + 2) * a
  let even := x.mantissa % 2 = 0
  let leadsBack (c : Nat) : Bool :=
    if even then low ≤ c * b && c * b ≤ high else low < c * b && c * b < high
  let c := here / b
  let excess := 2 * (here - c * b)
  let preferUpper := b < excess || (b = excess && (tie = .up || c % 2 = 1))
  if leadsBack c && leadsBack (c + 1) then some (if preferUpper then c + 1 else c, k)
  else if leadsBack c then some (c, k)
  else if leadsBack (c + 1) then some (c + 1, k)
  else none

/-- `c * 10 ^ k` without zeros at the end of `c`, of which there are fewer than
    `fuel`. -/
def dropZeros : (fuel : Nat) → Nat → Int → Nat × Int
  | 0, c, k => (c, k)
  | fuel + 1, c, k => if c % 10 = 0 then dropZeros fuel (c / 10) (k + 1) else (c, k)

/-- The fewest decimal digits that lead back to a number: `c` and `k` for
    `c * 10 ^ k`. -/
def shortest (tie : Tie) (x : Binary64) : Nat × Int :=
  if x.mantissa = 0 then (0, 0)
  else
    let found := (List.range 17).findSome? fun n => ofLength? tie x (n + 1)
    let (c, k) := found.getD (0, 0)
    dropZeros 18 c k

end Binary64

end ServiceDiscovery
