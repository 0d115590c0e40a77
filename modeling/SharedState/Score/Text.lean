import SharedState.Score.Shortest
import SharedState.Text.Decimal

/-!
# Written scores

A score is written with the fewest digits that read back as it. Zero and
numbers from `10 ^ -5` up to `10 ^ 16` are positional with at least one digit
after the point; others have an exponent.
-/

namespace SharedState.Score

open SharedState.Text

/-- Digits with a point after the first `whole` of them, or an exponent. -/
def layout (digits : List Char) (exponent : Int) : List Char :=
  let whole := digits.length + exponent
  if 0 ≤ exponent ∧ whole ≤ 16 then
    digits ++ List.replicate exponent.toNat '0' ++ ['.', '0']
  else if 0 < whole ∧ whole ≤ 16 then
    digits.take whole.toNat ++ '.' :: digits.drop whole.toNat
  else if -5 < whole ∧ whole ≤ 0 then
    '0' :: '.' :: List.replicate (-whole).toNat '0' ++ digits
  else
    let mantissa :=
      match digits with
      | first :: second :: rest => first :: '.' :: second :: rest
      | _ => digits
    mantissa ++ 'e' :: (Decimal.ofInt (whole - 1)).toList

/-- A score as text. -/
def render (score : Score) : String :=
  if score.isNaN then "NaN"
  else
    let unsigned :=
      if score.magnitude = infinity then ['i', 'n', 'f']
      else if score.magnitude = 0 then ['0', '.', '0']
      else
        let shortest := (binary score.magnitude).shortest
        layout (Nat.toDigits 10 shortest.digits) shortest.exponent
    String.ofList (if score.isNegative then '-' :: unsigned else unsigned)

end SharedState.Score
