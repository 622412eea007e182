import ServiceDiscovery.Number.Binary64

/-!
# Texts of floating-point numbers

Two ways to write a number in double precision, both with the fewest digits
that lead back to it. In positional notation there is always a decimal point
with a digit behind it, however many zeros this takes: `1.0`, `0.000001`. In
mixed notation very large and very small numbers have an exponent: `1e16`,
`1.5e-7`.
-/

namespace ServiceDiscovery

/-- A number in double precision, or one of its substitutes. -/
inductive FloatValue
  | finite (negative : Bool) (magnitude : Binary64)
  | infinite (negative : Bool)
  | notANumber
  deriving DecidableEq, Repr

namespace FloatValue

/-- The digits of `c * 10 ^ k` with a decimal point and at least one digit on
    both sides of it. -/
def pointed (c : Nat) (k : Int) : List Char :=
  let digits := Nat.toDigits 10 c
  if 0 ≤ k then digits ++ List.replicate k.toNat '0' ++ ['.', '0']
  else
    let places := (-k).toNat
    let padded := List.replicate (places + 1 - digits.length) '0' ++ digits
    padded.take (padded.length - places) ++ '.' :: padded.drop (padded.length - places)

/-- The digits of `c * 10 ^ k` with an exponent: one digit before the point, and
    no point if there is only one. -/
def withExponent (c : Nat) (k : Int) : List Char :=
  let digits := Nat.toDigits 10 c
  let exponent := k + digits.length - 1
  let mantissa :=
    match digits with
    | d :: rest => if rest.isEmpty then [d] else d :: '.' :: rest
    | [] => []
  mantissa ++ 'e' :: (toString exponent).toList

/-- A text with its sign. -/
def signed (negative : Bool) (text : List Char) : String :=
  String.ofList (if negative then '-' :: text else text)

/-- The text in positional notation. -/
def positional : FloatValue → String
  | finite negative x =>
    let (c, k) := x.shortest .up
    signed negative (pointed c k)
  | infinite negative => signed negative "inf".toList
  | notANumber => "NaN"

/-- The text in mixed notation: an exponent is written for numbers from
    `10 ^ 16` on and for those below `10 ^ -5`. -/
def mixed : FloatValue → String
  | finite negative x =>
    let (c, k) := x.shortest .even
    let point := k + (Nat.toDigits 10 c).length
    signed negative (if c = 0 || (-5 < point && point ≤ 16) then pointed c k else withExponent c k)
  | infinite negative => signed negative "inf".toList
  | notANumber => "NaN"

end FloatValue

end ServiceDiscovery
