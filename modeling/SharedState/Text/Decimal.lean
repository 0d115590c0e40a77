import SharedState.Text.Positional

/-!
# Decimal numerals

A numeral is a non-empty run of the digits `0` to `9`, with an optional sign
in front. Any number of leading zeros is allowed; spaces, separators and
digits of other scripts are not. A numeral out of range is no numeral.
-/

namespace SharedState.Text.Decimal

/-- The value of one digit. -/
def digit? (letter : Char) : Option Nat :=
  if '0' ≤ letter ∧ letter ≤ '9' then some (letter.toNat - '0'.toNat) else none

/-- Continues a number with further digits. -/
def extend? (value : Nat) : List Char → Option Nat
  | [] => some value
  | letter :: rest => (digit? letter).bind fun digit => extend? (10 * value + digit) rest

/-- The value of a non-empty run of digits. -/
def digits? : List Char → Option Nat
  | [] => none
  | letters => extend? 0 letters

/-- A number below `limit`, with an optional plus sign. A minus sign is
refused, also in front of zero. -/
def natural? (limit : Nat) (text : String) : Option Nat :=
  let magnitude :=
    match text.toList with
    | '+' :: rest => digits? rest
    | letters => digits? letters
  magnitude.filter (· < limit)

/-- The magnitude and the sign of a number with an optional sign. -/
def signed? : List Char → Option Int
  | '+' :: rest => (digits? rest).map Int.ofNat
  | '-' :: rest => (digits? rest).map fun magnitude => -Int.ofNat magnitude
  | letters => (digits? letters).map Int.ofNat

/-- A number that fits a signed 64-bit word. -/
def integer? (text : String) : Option Int :=
  (signed? text.toList).filter fun value =>
    -0x8000000000000000 ≤ value ∧ value < 0x8000000000000000

/-- The digits of a number, without leading zeros. -/
def ofNat (value : Nat) : String :=
  String.ofList (Nat.toDigits 10 value)

/-- The digits of a number, after a minus sign if it is negative. -/
def ofInt : Int → String
  | .ofNat value => ofNat value
  | .negSucc value => "-" ++ ofNat (value + 1)

theorem natural?_lt {limit : Nat} {text : String} {value : Nat}
    (read : natural? limit text = some value) : value < limit := by
  have passed := Option.filter_eq_some_iff.mp read
  simpa using passed.2

theorem positional : Positional 10 digit? extend? := ⟨fun _ => rfl, fun _ _ _ => rfl, by decide⟩

/-- Different numbers have different digits. -/
theorem ofNat_inj {left right : Nat} : ofNat left = ofNat right ↔ left = right := by
  refine ⟨fun same => ?_, congrArg ofNat⟩
  have digits := String.ofList_injective same
  have read := positional.toDigits (by decide) left
  rw [digits, positional.toDigits (by decide)] at read
  exact (Option.some.inj read).symm

theorem isDigit_of_mem_ofNat {value : Nat} {letter : Char}
    (member : letter ∈ (ofNat value).toList) : letter.isDigit = true := by
  rw [ofNat, String.toList_ofList] at member
  exact Nat.isDigit_of_mem_toDigits (by decide) (by decide) member

/-- The digits of a number are read as that number where it is small enough. -/
theorem natural?_ofNat {limit value : Nat} (small : value < limit) :
    natural? limit (ofNat value) = some value := by
  have digits := positional.toDigits (by decide) value
  have unsigned : ∀ letter ∈ (ofNat value).toList, letter.isDigit = true :=
    fun _ member => isDigit_of_mem_ofNat member
  simp only [natural?, ofNat, String.toList_ofList] at unsigned ⊢
  cases shape : Nat.toDigits 10 value with
  | nil => exact absurd shape Nat.toDigits_ne_nil
  | cons first rest =>
      have noSign : first ≠ '+' := by
        rintro rfl
        exact absurd (unsigned '+' (by simp [shape])) (by decide)
      rw [shape] at digits
      simp [digits?, digits, small, noSign]

end SharedState.Text.Decimal
