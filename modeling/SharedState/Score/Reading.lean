import SharedState.Score
import SharedState.Text.Decimal

/-!
# Reading scores

A written score is an optional sign and either a word for infinity or for no
number, or decimal digits with an optional point and exponent. The value is
rounded once, exactly: to the nearest score, and to the even one of two that
are equally near.
-/

namespace SharedState.Score

open SharedState.Text

/-- The whole number nearest to a quotient; of two, the even one. -/
def roundedQuotient (numerator denominator : Nat) : Nat :=
  let quotient := numerator / denominator
  let rest := numerator % denominator
  if denominator < 2 * rest ∨ (denominator = 2 * rest ∧ quotient % 2 = 1) then quotient + 1
  else quotient

/-- The greatest power of two that is not above a positive quotient. -/
def binaryOrder (numerator denominator : Nat) : Int :=
  let guess : Int := (Nat.log2 numerator : Int) - Nat.log2 denominator
  if numerator <<< (-guess).toNat < denominator <<< guess.toNat then guess - 1 else guess

/-- The magnitude nearest to a quotient. A significand that is rounded up to
a power of two carries into the exponent field. -/
def nearest (numerator denominator : Nat) : Nat :=
  if numerator = 0 then 0
  else
    let step := max (-1074) (binaryOrder numerator denominator - 52)
    let significand :=
      roundedQuotient (numerator <<< (-step).toNat) (denominator <<< step.toNat)
    min infinity ((step + 1074).toNat * hiddenBit + significand)

/-- The magnitude nearest to `digits * 10 ^ exponent`. Beyond every finite
score and below every positive one the power of ten is not computed. -/
def nearestDecimal (digits : Nat) (exponent : Int) : Nat :=
  let size := (Nat.toDigits 10 digits).length + exponent
  if digits = 0 ∨ size < -330 then 0
  else if 310 < size then infinity
  else nearest (digits * Nat.pow 10 exponent.toNat) (Nat.pow 10 (-exponent).toNat)

/-- The score nearest to a whole number. -/
def ofInt (value : Int) : Score :=
  ofMagnitude (value < 0) (nearest value.natAbs 1)

/-- Splits the digits at the front off a text. -/
def spanDigits (letters : List Char) : List Char × List Char :=
  letters.span fun letter => (Decimal.digit? letter).isSome

/-- An exponent at the end of a number; none at all is zero. -/
def exponent? : List Char → Option Int
  | [] => some 0
  | mark :: letters => if mark = 'e' ∨ mark = 'E' then Decimal.signed? letters else none

/-- A magnitude written with digits: at least one digit, which may be on
either side of the point. -/
def decimal? (letters : List Char) : Option Nat := do
  let (whole, rest) := spanDigits letters
  let (fraction, rest) :=
    match rest with
    | '.' :: rest => spanDigits rest
    | _ => ([], rest)
  let digits ← Decimal.digits? (whole ++ fraction)
  let exponent ← exponent? rest
  some (nearestDecimal digits (exponent - fraction.length))

/-- A magnitude written as a word, in any case of letters. -/
def word? (letters : List Char) : Option Nat :=
  let lower := String.ofList (letters.map Char.toLower)
  if lower = "inf" ∨ lower = "infinity" then some infinity
  else if lower = "nan" then some 0x7FF8000000000000
  else none

/-- A magnitude without a sign. -/
def unsigned? (letters : List Char) : Option Nat :=
  (word? letters).or (decimal? letters)

/-- The score that a text stands for. -/
def read? (text : String) : Option Score :=
  match text.toList with
  | '-' :: rest => (unsigned? rest).map (ofMagnitude true)
  | '+' :: rest => (unsigned? rest).map (ofMagnitude false)
  | letters => (unsigned? letters).map (ofMagnitude false)

end SharedState.Score
