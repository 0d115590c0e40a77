/-!
# Reading UTF-8

A decoder that goes through the bytes one at a time. A lead byte fixes how
many bytes follow it and the range of the first of them; every longest
beginning of a character that does not go on is replaced by one replacement
character, and so is every byte that begins no character.
-/

namespace SharedState.Text.Utf8

/-- A character of which some bytes have been read. -/
structure Unfinished where
  /-- How many bytes are still to come, less one. -/
  further : Nat
  /-- The bits read so far. -/
  bits : Nat
  /-- The least byte that may come next. -/
  least : Nat
  /-- The greatest byte that may come next. -/
  greatest : Nat
deriving DecidableEq

/-- What stands for bytes that are no character. -/
def replacement : Char := '\uFFFD'

/-- What a lead byte above ASCII announces, if it is one. -/
def lead? (byte : Nat) : Option Unfinished :=
  if 0xC2 ≤ byte ∧ byte ≤ 0xDF then some ⟨0, byte - 0xC0, 0x80, 0xBF⟩
  else if byte = 0xE0 then some ⟨1, 0, 0xA0, 0xBF⟩
  else if byte = 0xED then some ⟨1, 0xD, 0x80, 0x9F⟩
  else if 0xE1 ≤ byte ∧ byte ≤ 0xEF then some ⟨1, byte - 0xE0, 0x80, 0xBF⟩
  else if byte = 0xF0 then some ⟨2, 0, 0x90, 0xBF⟩
  else if 0xF1 ≤ byte ∧ byte ≤ 0xF3 then some ⟨2, byte - 0xF0, 0x80, 0xBF⟩
  else if byte = 0xF4 then some ⟨2, 4, 0x80, 0x8F⟩
  else none

/-- Reads a byte where a character begins. -/
def begin? (byte : Nat) : List Char × Option Unfinished :=
  if byte < 0x80 then ([Char.ofNat byte], none)
  else
    match lead? byte with
    | some unfinished => ([], some unfinished)
    | none => ([replacement], none)

/-- Reads the next byte: the characters that are now complete, and what has begun. -/
def advance (state : Option Unfinished) (byte : Nat) : List Char × Option Unfinished :=
  match state with
  | none => begin? byte
  | some unfinished =>
      if unfinished.least ≤ byte ∧ byte ≤ unfinished.greatest then
        let bits := 64 * unfinished.bits + (byte - 0x80)
        match unfinished.further with
        | 0 => ([Char.ofNat bits], none)
        | further + 1 => ([], some ⟨further, bits, 0x80, 0xBF⟩)
      else
        let fresh := begin? byte
        (replacement :: fresh.1, fresh.2)

/-- Reads the bytes that remain. -/
def read (state : Option Unfinished) : List UInt8 → List Char
  | [] => if state.isSome then [replacement] else []
  | byte :: rest =>
      let next := advance state byte.toNat
      next.1 ++ read next.2 rest

/-- The text of a sequence of bytes, with replacements where it is malformed. -/
def decodeLossy (bytes : List UInt8) : String :=
  String.ofList (read none bytes)

/-- The text of a sequence of bytes, if it is well formed throughout. -/
def decode? (bytes : List UInt8) : Option String :=
  String.fromUTF8? bytes.toByteArray

/-- The bytes of a text. -/
def encode (text : String) : List UInt8 :=
  text.toUTF8.data.toList

end SharedState.Text.Utf8
