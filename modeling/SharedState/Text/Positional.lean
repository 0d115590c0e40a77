/-!
# Positional numerals

In any base a numeral is read from the front: a further digit is added to the
base times what was read so far. The digits that a number is written with are
read as that number.
-/

namespace SharedState.Text

/-- A way to continue a number with further digits of a base. -/
structure Positional (base : Nat) (digit? : Char → Option Nat)
    (extend? : Nat → List Char → Option Nat) : Prop where
  nil : ∀ value, extend? value [] = some value
  cons : ∀ value letter rest, extend? value (letter :: rest) =
    (digit? letter).bind fun digit => extend? (base * value + digit) rest
  digitChar : ∀ digit < base, digit? (Nat.digitChar digit) = some digit

namespace Positional

variable {base : Nat} {digit? : Char → Option Nat} {extend? : Nat → List Char → Option Nat}

/-- Digits are read one part after the other. -/
theorem append (reads : Positional base digit? extend?) (value : Nat) (front back : List Char) :
    extend? value (front ++ back) = (extend? value front).bind fun read => extend? read back := by
  induction front generalizing value with
  | nil => rw [List.nil_append, reads.nil, Option.bind_some]
  | cons letter rest ih =>
      rw [List.cons_append, reads.cons, reads.cons]
      cases digit? letter with
      | none => rfl
      | some digit => exact ih _

/-- The digits of a number are read as that number. -/
theorem toDigits (reads : Positional base digit? extend?) (several : 1 < base) (value : Nat) :
    extend? 0 (Nat.toDigits base value) = some value := by
  have one : ∀ start, ∀ digit < base,
      extend? start [Nat.digitChar digit] = some (base * start + digit) := by
    intro start digit small
    rw [reads.cons, reads.digitChar digit small, Option.bind_some, reads.nil]
  induction value using Nat.strongRecOn with
  | ind value ih =>
      by_cases small : value < base
      · rw [Nat.toDigits_of_lt_base small, one 0 value small, Nat.mul_zero, Nat.zero_add]
      · have large := Nat.le_of_not_lt small
        have front := ih (value / base) (Nat.div_lt_self (by omega) several)
        rw [Nat.toDigits_of_base_le several large, reads.append, front, Option.bind_some,
          one _ _ (Nat.mod_lt value (by omega)), Nat.div_add_mod]

/-- There is nothing but digits in what is read. -/
theorem isSome_digit? (reads : Positional base digit? extend?) {value number : Nat}
    {letters : List Char} (read : extend? value letters = some number) :
    ∀ letter ∈ letters, (digit? letter).isSome = true := by
  induction letters generalizing value with
  | nil => simp
  | cons first rest ih =>
      rw [reads.cons] at read
      rcases Option.bind_eq_some_iff.mp read with ⟨digit, isDigit, further⟩
      intro letter member
      rcases List.mem_cons.mp member with rfl | later
      · rw [isDigit, Option.isSome_some]
      · exact ih further letter later

end Positional

end SharedState.Text
