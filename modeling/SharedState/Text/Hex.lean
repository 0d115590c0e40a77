import SharedState.Text.Positional

/-!
# Hexadecimal digits

Lower-case hexadecimal text of bytes and code points, and the value of a
digit in either case.
-/

namespace SharedState.Text.Hex

/-- The value of a hexadecimal digit in either case. -/
def digit? (letter : Char) : Option Nat :=
  if '0' ≤ letter ∧ letter ≤ '9' then some (letter.toNat - '0'.toNat)
  else if 'a' ≤ letter ∧ letter ≤ 'f' then some (letter.toNat - 'a'.toNat + 10)
  else if 'A' ≤ letter ∧ letter ≤ 'F' then some (letter.toNat - 'A'.toNat + 10)
  else none

/-- The digits of a number, without leading zeros. -/
def ofNat (value : Nat) : List Char := Nat.toDigits 16 value

/-- The two digits of a byte. -/
def ofByte (byte : UInt8) : List Char :=
  [Nat.digitChar (byte.toNat / 16), Nat.digitChar (byte.toNat % 16)]

/-- The digits of a sequence of bytes. -/
def ofBytes (bytes : List UInt8) : String :=
  String.ofList (bytes.flatMap ofByte)

/-- The number that a non-empty run of digits stands for. -/
def toNat? : List Char → Option Nat
  | [] => none
  | letters => go 0 letters
where
  /-- Continues a number with further digits. -/
  go (value : Nat) : List Char → Option Nat
    | [] => some value
    | letter :: rest => (digit? letter).bind fun digit => go (16 * value + digit) rest

/-- The bytes that pairs of digits stand for. -/
def toBytes? : List Char → Option (List UInt8)
  | [] => some []
  | [_] => none
  | high :: low :: rest => do
      let upper ← digit? high
      let lower ← digit? low
      let bytes ← toBytes? rest
      pure (UInt8.ofNat (16 * upper + lower) :: bytes)

theorem positional : Positional 16 digit? toNat?.go :=
  ⟨fun _ => rfl, fun _ _ _ => rfl, by decide⟩

/-- A number is read from its digits. -/
theorem toNat?_ofNat (value : Nat) : toNat? (ofNat value) = some value := by
  have read : toNat?.go 0 (ofNat value) = some value := positional.toDigits (by decide) value
  cases shape : ofNat value with
  | nil => exact absurd shape Nat.toDigits_ne_nil
  | cons first rest => rwa [shape] at read

theorem isSome_digit?_of_mem_ofNat {value : Nat} {letter : Char} (member : letter ∈ ofNat value) :
    (digit? letter).isSome = true :=
  positional.isSome_digit? (positional.toDigits (by decide) value) letter member

end SharedState.Text.Hex
