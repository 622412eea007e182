/-!
# Numbers of 53 binary digits

The numbers that floating-point arithmetic in double precision works with, as
far as they are needed here: natural numbers, and quotients of them, rounded
to the nearest number with 53 significant binary digits. Halfway between two
of those the one with an even last digit is taken.
-/

namespace ServiceDiscovery.Binary53

/-- The nearest integer to `num / den`, an even one on ties. -/
def roundDiv (num den : Nat) : Nat :=
  let q := num / den
  let r := 2 * (num % den)
  if r < den || (r = den && q % 2 = 0) then q else q + 1

/-- The nearest number of 53 binary digits to a natural number. It is again
    natural. -/
def round (n : Nat) : Nat :=
  let extra := n.log2 - 52
  roundDiv n (Nat.pow 2 extra) * Nat.pow 2 extra

/-- The integer part of the number of 53 binary digits nearest to
    `num / den`. -/
def floorDiv (num den : Nat) : Nat :=
  let whole := (num / den).log2
  if num < den then if (den - num) * Nat.pow 2 54 ≤ den then 1 else 0
  else if whole ≤ 52 then
    let scale := Nat.pow 2 (52 - whole)
    roundDiv (num * scale) den / scale
  else
    let scale := Nat.pow 2 (whole - 52)
    roundDiv num (den * scale) * scale

end ServiceDiscovery.Binary53
