/-!
# Scanning texts

Readers of small things at the start of a list of characters. They return what
they leave unread, or nothing if the list does not start with such a thing.
-/

namespace ServiceDiscovery

/-- The value of a digit in a radix of at most sixteen. -/
def digitValue? (radix : Nat) (c : Char) : Option Nat :=
  let v :=
    if '0' ≤ c ∧ c ≤ '9' then c.toNat - '0'.toNat
    else if 'a' ≤ c ∧ c ≤ 'f' then c.toNat - 'a'.toNat + 10
    else if 'A' ≤ c ∧ c ≤ 'F' then c.toNat - 'A'.toNat + 10
    else radix
  if v < radix then some v else none

/-- The number that a list of digits stands for. -/
def digitsValue (radix : Nat) (cs : List Char) : Nat :=
  cs.foldl (fun n c => n * radix + (digitValue? radix c).getD 0) 0

/-- The number below `bound` that `cs` starts with, and the rest of `cs`. All
    digits are taken: with more of them than `maxDigits`, or with a leading
    zero where none is allowed, there is no number. -/
def scanNumber (radix : Nat) (maxDigits : Option Nat) (leadingZeros : Bool) (bound : Nat)
    (cs : List Char) : Option (Nat × List Char) :=
  let digits := cs.takeWhile fun c => (digitValue? radix c).isSome
  let tooLong := maxDigits.any (· < digits.length)
  let padded := digits.head? == some '0' && 1 < digits.length && !leadingZeros
  let n := digitsValue radix digits
  if digits.isEmpty || tooLong || padded || bound ≤ n then none
  else some (n, cs.drop digits.length)

/-- What follows the character `c` at the start of `cs`. -/
def scanChar (c : Char) : List Char → Option (List Char)
  | x :: cs => if x = c then some cs else none
  | [] => none

end ServiceDiscovery
