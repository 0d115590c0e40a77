import SharedState.Endpoint
import SharedState.Fault
import SharedState.Text.Decimal

/-!
# Addresses

An address is a host with an optional port after the last colon. A host with
colons of its own stands in square brackets; a colon inside of the brackets
begins no port.
-/

namespace SharedState.Address

open SharedState.Text

/-- Splits a text at the last occurrence of a letter. -/
def splitLast (mark : Char) : List Char → Option (List Char × List Char)
  | [] => none
  | letter :: rest =>
      match splitLast mark rest with
      | some (front, back) => some (letter :: front, back)
      | none => if letter = mark then some ([], rest) else none

/-- Splits a text at the first occurrence of a letter. -/
def splitFirst (mark : Char) : List Char → Option (List Char × List Char)
  | [] => none
  | letter :: rest =>
      if letter = mark then some ([], rest)
      else (splitFirst mark rest).map fun parts => (letter :: parts.1, parts.2)

/-- A port number. -/
def port? (letters : List Char) : Option Nat :=
  Decimal.natural? 0x10000 (String.ofList letters)

/-- Drops opening brackets in front and closing brackets behind. -/
def dropBrackets (letters : List Char) : List Char :=
  ((letters.dropWhile (· = '[')).reverse.dropWhile (· = ']')).reverse

/-- The host and the port as they are written. -/
def divide (letters : List Char) : List Char × Option (List Char) :=
  match splitLast ':' letters with
  | some (host, port) => if ']' ∈ port then (letters, none) else (host, some port)
  | none => (letters, none)

/-- The host and the port of an address. -/
def parse? (address : String) : Option (String × Nat) := do
  let (host, port) := divide address.toList
  let number ←
    match port with
    | none => some Endpoint.defaultPort
    | some letters => port? letters
  match dropBrackets host with
  | [] => none
  | letters => some (String.ofList letters, number)

/-- A configuration that cannot be used. -/
def refuse (reason : String) : RemoteError :=
  .described .invalidClientConfig reason none

/-- The error of a text that is no address. -/
def invalid : RemoteError := refuse "Invalid address"

theorem splitLast_eq_none_iff {mark : Char} {letters : List Char} :
    splitLast mark letters = none ↔ mark ∉ letters := by
  induction letters with
  | nil => simp [splitLast]
  | cons letter rest ih =>
      cases found : splitLast mark rest with
      | some parts => simp_all [splitLast]
      | none =>
          by_cases same : letter = mark
          · simp [splitLast, found, same]
          · have absent := ih.mp found
            simp [splitLast, found, same, absent, Ne.symm same]

/-- What lies behind the last occurrence holds no further one, and the parts
make up the text. -/
theorem splitLast_eq_some_iff {mark : Char} {letters front back : List Char} :
    splitLast mark letters = some (front, back) ↔
      letters = front ++ mark :: back ∧ mark ∉ back := by
  induction letters generalizing front back with
  | nil => simp [splitLast]
  | cons letter rest ih =>
      cases found : splitLast mark rest with
      | some parts =>
          obtain ⟨first, second⟩ := parts
          have shape := ih.mp found
          simp only [splitLast, found, Option.some.injEq, Prod.mk.injEq]
          constructor
          · rintro ⟨rfl, rfl⟩
            exact ⟨by rw [shape.1]; rfl, shape.2⟩
          · rintro ⟨whole, absent⟩
            cases front with
            | nil =>
                obtain ⟨rfl, rfl⟩ := List.cons_eq_cons.mp whole
                exact absurd (by rw [shape.1]; simp) absent
            | cons head tail =>
                obtain ⟨rfl, rest_eq⟩ := List.cons_eq_cons.mp whole
                have same := (@ih tail back).mpr ⟨rest_eq, absent⟩
                rw [found] at same
                cases same
                exact ⟨rfl, rfl⟩
      | none =>
          have absent := splitLast_eq_none_iff.mp found
          by_cases same : letter = mark
          · subst same
            simp only [splitLast, found, if_pos, Option.some.injEq, Prod.mk.injEq]
            constructor
            · rintro ⟨rfl, rfl⟩
              exact ⟨rfl, absent⟩
            · rintro ⟨whole, -⟩
              cases front with
              | nil => exact ⟨rfl, (List.cons_eq_cons.mp whole).2⟩
              | cons head tail =>
                  have rest_eq := (List.cons_eq_cons.mp whole).2
                  exact absurd (by rw [rest_eq]; simp) absent
          · simp only [splitLast, found, if_neg same, reduceCtorEq, false_iff, not_and]
            intro whole
            cases front with
            | nil => exact absurd (List.cons_eq_cons.mp whole).1 same
            | cons head tail =>
                have rest_eq := (List.cons_eq_cons.mp whole).2
                exact absurd (by rw [rest_eq]; simp) absent

end SharedState.Address
