import SharedState.Text.Hex
import SharedState.Text.Printable

/-!
# Quoted text

A text in double quotes on one line. The quote, the backslash and the usual
controls have escapes of two letters; whatever else has no shape is written
by its code point. A sequence of bytes is quoted likewise after a `b`, with
all bytes that are not printable ASCII in hexadecimal.
-/

namespace SharedState.Text.Quoted

/-- The letter that follows the backslash in an escape of two letters. -/
def short? (letter : Char) : Option Char :=
  if letter = '\x00' then some '0'
  else if letter = '\t' then some 't'
  else if letter = '\r' then some 'r'
  else if letter = '\n' then some 'n'
  else if letter = '"' then some '"'
  else if letter = '\\' then some '\\'
  else none

/-- How a letter is written between the quotes. -/
def escape (letter : Char) : List Char :=
  match short? letter with
  | some mark => ['\\', mark]
  | none =>
      if Printable.isPrintable letter then [letter]
      else ['\\', 'u', '\x7b'] ++ Hex.ofNat letter.toNat ++ ['\x7d']

/-- A text in quotes. -/
def quote (text : String) : String :=
  String.ofList ('"' :: text.toList.flatMap escape ++ ['"'])

/-- How a byte is written between the quotes. -/
def escapeByte (byte : UInt8) : List Char :=
  match short? (Char.ofNat byte.toNat) with
  | some mark => ['\\', mark]
  | none =>
      if 0x20 ≤ byte ∧ byte ≤ 0x7E then [Char.ofNat byte.toNat]
      else '\\' :: 'x' :: Hex.ofByte byte

/-- A sequence of bytes in quotes. -/
def quoteBytes (bytes : List UInt8) : String :=
  String.ofList ('b' :: '"' :: bytes.flatMap escapeByte ++ ['"'])

end SharedState.Text.Quoted
