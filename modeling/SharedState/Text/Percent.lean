import SharedState.Text.Hex
import SharedState.Text.Utf8

/-!
# Percent encoding

A byte may be written as a percent sign and two hexadecimal digits. A percent
sign that no two digits follow stands for itself.
-/

namespace SharedState.Text.Percent

/-- The byte of a percent sign. -/
def sign : UInt8 := 0x25

/-- The value of a byte that is a hexadecimal digit. -/
def digit? (byte : UInt8) : Option Nat := Hex.digit? (Char.ofNat byte.toNat)

/-- Replaces every escape by its byte. -/
def decode : List UInt8 → List UInt8
  | first :: high :: low :: rest =>
      if first = sign then
        match digit? high, digit? low with
        | some upper, some lower => UInt8.ofNat (16 * upper + lower) :: decode rest
        | _, _ => first :: decode (high :: low :: rest)
      else first :: decode (high :: low :: rest)
  | bytes => bytes

/-- Writes the bytes of the letters that fail a test as escapes, with capital digits. -/
def encode (plain : Char → Bool) (letters : List Char) : List Char :=
  letters.flatMap fun letter =>
    if plain letter then [letter]
    else (Utf8.encode (String.singleton letter)).flatMap fun byte =>
      '%' :: (Hex.ofByte byte).map Char.toUpper

end SharedState.Text.Percent
