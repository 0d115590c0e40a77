import SharedState.Text.Decimal
import SharedState.Text.Hex

/-!
# Addresses of the sixth version

Eight groups of sixteen bits. In text, one run of zero groups may be left out
and the last two groups may be four decimal numbers. The written form leaves
out the first of the longest runs of at least two zero groups, and spells a
mapped address of the fourth version with decimal numbers.
-/

namespace SharedState.Address.Ipv6

open SharedState.Text

/-- One group of at most four hexadecimal digits. -/
def group? (letters : List Char) : Option Nat :=
  if letters.length ≤ 4 then Hex.toNat? letters else none

/-- One of four decimal numbers: at most 255 and without leading zeros. -/
def octet? (letters : List Char) : Option Nat :=
  match letters with
  | '0' :: _ :: _ => none
  | _ => (Decimal.digits? letters).filter (· < 256)

/-- Four decimal numbers as two groups. -/
def dotted? (letters : List Char) : Option (List Nat) :=
  match letters.splitOn '.' with
  | [first, second, third, fourth] => do
      let first ← octet? first
      let second ← octet? second
      let third ← octet? third
      let fourth ← octet? fourth
      some [256 * first + second, 256 * third + fourth]
  | _ => none

/-- The groups of some parts; only the last part may be decimal numbers, and
only if `mixed` is set. -/
def groups? (mixed : Bool) : List (List Char) → Option (List Nat)
  | [] => some []
  | [last] => if mixed && last.contains '.' then dotted? last else (group? last).map ([·])
  | part :: rest => do
      let first ← group? part
      let others ← groups? mixed rest
      some (first :: others)

/-- The groups between two ends of a text, which may be empty. -/
def side? (mixed : Bool) (letters : List Char) : Option (List Nat) :=
  if letters.isEmpty then some [] else groups? mixed (letters.splitOn ':')

/-- Splits a text where groups were left out. -/
def splitGap : List Char → Option (List Char × List Char)
  | ':' :: ':' :: rest => some ([], rest)
  | letter :: rest => (splitGap rest).map fun parts => (letter :: parts.1, parts.2)
  | [] => none

/-- The eight groups of a written address. A gap stands for at least one group. -/
def parse? (letters : List Char) : Option (List Nat) :=
  match splitGap letters with
  | none => (groups? true (letters.splitOn ':')).filter (·.length = 8)
  | some (left, right) => do
      let front ← side? false left
      let back ← side? true right
      let present := front.length + back.length
      if present < 8 then some (front ++ List.replicate (8 - present) 0 ++ back) else none

/-- A run of groups: where it begins and how long it is. -/
structure Span where
  start : Nat
  length : Nat
deriving DecidableEq

/-- The first of the longest runs of zero groups, counting from an index;
`current` is the run that is under way, `best` the longest so far. -/
def longestZeros (index : Nat) (current best : Span) : List Nat → Span
  | [] => best
  | group :: rest =>
      if group = 0 then
        let grown : Span :=
          if current.length = 0 then ⟨index, 1⟩ else ⟨current.start, current.length + 1⟩
        longestZeros (index + 1) grown (if best.length < grown.length then grown else best) rest
      else longestZeros (index + 1) ⟨0, 0⟩ best rest

/-- Groups in hexadecimal with colons between them. -/
def joined (groups : List Nat) : String :=
  ":".intercalate (groups.map fun group => String.ofList (Hex.ofNat group))

/-- The two halves of a group in decimal. -/
def halves (group : Nat) : String :=
  Decimal.ofNat (group / 256) ++ "." ++ Decimal.ofNat (group % 256)

/-- The written form of eight groups. -/
def render (groups : List Nat) : String :=
  match groups with
  | [0, 0, 0, 0, 0, 0xFFFF, high, low] => "::ffff:" ++ halves high ++ "." ++ halves low
  | _ =>
      let zeros := longestZeros 0 ⟨0, 0⟩ ⟨0, 0⟩ groups
      if 1 < zeros.length then
        joined (groups.take zeros.start) ++ "::" ++
          joined (groups.drop (zeros.start + zeros.length))
      else joined groups

end SharedState.Address.Ipv6
