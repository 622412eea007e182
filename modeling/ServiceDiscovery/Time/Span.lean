/-!
# Time spans

Lengths of time, and moments on a clock that starts at zero, are natural
numbers: nanoseconds.

The text of a span gives it in the largest of the units s, ms, µs and ns of
which it holds at least one, with as many decimals as it needs: `3s`, `1.5s`,
`20ms`, and `0ns` for no time at all.
-/

namespace ServiceDiscovery

namespace Span

/-- The nanoseconds of a second. -/
def perSecond : Nat := 1000000000

/-- The nanoseconds of a millisecond. -/
def perMilli : Nat := 1000000

/-- A span of `n` milliseconds. -/
def millis (n : Nat) : Nat := n * perMilli

/-- The whole seconds of a span and the nanoseconds beyond them. -/
def split (d : Nat) : Nat × Nat := (d / perSecond, d % perSecond)

/-- `n` units of which one has `10 ^ digits` parts, in decimal notation
    without trailing zeros. -/
def renderIn (digits : Nat) (n : Nat) : String :=
  let parts := n % Nat.pow 10 digits
  let whole := toString (n / Nat.pow 10 digits)
  if parts = 0 then whole
  else
    let padded := Nat.toDigits 10 (Nat.pow 10 digits + parts)
    let shown := (padded.drop 1).reverse.dropWhile (· == '0') |>.reverse
    whole ++ "." ++ String.ofList shown

/-- The text of a span. -/
def render (d : Nat) : String :=
  if perSecond ≤ d then renderIn 9 d ++ "s"
  else if perMilli ≤ d then renderIn 6 d ++ "ms"
  else if 1000 ≤ d then renderIn 3 d ++ "µs"
  else renderIn 0 d ++ "ns"

end Span

end ServiceDiscovery
