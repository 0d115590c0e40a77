import SharedState.Text.Decimal
import SharedState.Time

/-!
# Written durations

A duration is written in the largest of the units s, ms, µs and ns of which
it holds at least one, with its exact fraction and no trailing zeros.
-/

namespace SharedState.Text.Elapsed

/-- A unit of time and how many decimal places of it a nanosecond is. -/
structure Scale where
  symbol : String
  /-- The unit is this power of ten nanoseconds. -/
  places : Nat
deriving DecidableEq

/-- The largest unit that fits into a duration. -/
def scale (duration : Duration) : Scale :=
  if 1000000000 ≤ duration then ⟨"s", 9⟩
  else if 1000000 ≤ duration then ⟨"ms", 6⟩
  else if 1000 ≤ duration then ⟨"µs", 3⟩
  else ⟨"ns", 0⟩

/-- The last `places` decimal digits of a number, most significant first. -/
def lastDigits (value : Nat) : Nat → List Char
  | 0 => []
  | places + 1 => lastDigits (value / 10) places ++ [Nat.digitChar (value % 10)]

/-- Drops the zeros at the end. -/
def dropTrailingZeros (digits : List Char) : List Char :=
  (digits.reverse.dropWhile (· = '0')).reverse

/-- A duration in its unit. -/
def render (duration : Duration) : String :=
  let unit := scale duration
  let whole := Decimal.ofNat (duration / Nat.pow 10 unit.places)
  match dropTrailingZeros (lastDigits duration unit.places) with
  | [] => whole ++ unit.symbol
  | fraction => whole ++ "." ++ String.ofList fraction ++ unit.symbol

end SharedState.Text.Elapsed
