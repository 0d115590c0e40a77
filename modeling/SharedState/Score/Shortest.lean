import SharedState.Score

/-!
# Shortest decimals of a score

The decimals that read back as a given score form an interval around it, with
its ends when the significand is even. The decimal chosen lies on the
coarsest grid of multiples of a power of ten that meets the interval; of two
neighbours on that grid the nearer is taken, and the even one of two equally
near.
-/

namespace SharedState.Score

/-- The finite positive number `significand * 2 ^ (shift - 1074)`. -/
structure Binary where
  /-- A whole number below `2 ^ 53`. -/
  significand : Nat
  /-- The power of two above the least. -/
  shift : Nat
deriving DecidableEq

/-- The number `digits * 10 ^ exponent`. -/
structure Shortest where
  /-- The significant digits, as a number. -/
  digits : Nat
  /-- The power of ten that they are multiplied by. -/
  exponent : Int
deriving DecidableEq

/-- The number that a finite magnitude stands for. -/
def binary (magnitude : Nat) : Binary :=
  let exponent := magnitude / hiddenBit
  let fraction := magnitude % hiddenBit
  if exponent = 0 then ⟨fraction, 0⟩ else ⟨hiddenBit + fraction, exponent - 1⟩

namespace Binary

/-- The number in units of `2 ^ -1076`. -/
def value (number : Binary) : Nat := 4 * number.significand <<< number.shift

/-- How far the interval reaches up, in the same units: half a step. -/
def above (number : Binary) : Nat := 2 <<< number.shift

/-- How far the interval reaches down: half a step, and half of that where
the steps below are half as long. -/
def below (number : Binary) : Nat :=
  if number.significand = hiddenBit ∧ 0 < number.shift then 1 <<< number.shift
  else 2 <<< number.shift

/-- Whether `point / scale` of the units lies in the interval. -/
def admits (number : Binary) (scale point : Nat) : Bool :=
  let low := (number.value - number.below) * scale
  let high := (number.value + number.above) * scale
  if number.significand % 2 = 0 then low ≤ point && point ≤ high
  else low < point && point < high

/-- The neighbours of the number on the grid of multiples of `10 ^ exponent`,
the nearer first; those that read back. -/
def onGrid? (number : Binary) (exponent : Int) : Option Shortest :=
  let scale := Nat.pow 10 (-exponent).toNat
  let unit := Nat.pow 10 exponent.toNat <<< 1076
  let lower := number.value * scale / unit
  let rest := number.value * scale % unit
  let upperFirst := unit < 2 * rest || (unit = 2 * rest && lower % 2 = 1)
  let neighbours := if upperFirst then [lower + 1, lower] else [lower, lower + 1]
  (neighbours.find? fun digits => number.admits scale (digits * unit)).map (⟨·, exponent⟩)

/-- The exponents of the grids tried, coarsest first. -/
def exponents : List Int := (List.range 634).map fun step : Nat => 309 - Int.ofNat step

/-- The decimal on the coarsest grid that has one. -/
def shortest (number : Binary) : Shortest :=
  (exponents.findSome? number.onGrid?).getD ⟨0, 0⟩

end Binary

end SharedState.Score
