import Mathlib.Data.List.DropRight
import SharedState.Settings

/-!
# Spellings of addresses

The rule for an address is a host, alone or in a pair of square brackets, and
a port behind a colon if there is one; only a host in brackets may have colons
of its own. The reading is looser than the rule. It takes a port off at the
last colon and drops brackets at both ends without counting them. Every text
that follows the rule is read as it is meant, but a host with colons and no
brackets loses its last part to the port.
-/

namespace SharedState

open SharedState.Text

/-! ## Letters of a number -/

namespace Text.Decimal

/-- A numeral has no other letters than digits and a plus sign. -/
theorem letter_of_natural? {limit number : Nat} {text : String}
    (read : natural? limit text = some number) :
    ∀ letter ∈ text.toList, letter = '+' ∨ (digit? letter).isSome = true := by
  have digits : ∀ {letters}, digits? letters = some number →
      ∀ letter ∈ letters, (digit? letter).isSome = true := by
    intro letters found
    cases letters with
    | nil => cases found
    | cons first rest => exact positional.isSome_digit? found
  have magnitude := (Option.filter_eq_some_iff.mp read).1
  intro letter member
  split at magnitude
  · next rest shape =>
      rw [shape] at member
      exact (List.mem_cons.mp member).imp_right (digits magnitude letter)
  · exact Or.inr (digits magnitude letter member)

end Text.Decimal

namespace Address

/-- A port has no colons and no brackets. -/
theorem notMem_of_port? {letters : List Char} {number : Nat} (read : port? letters = some number)
    {mark : Char} (sign : mark ≠ '+') (other : Decimal.digit? mark = none) : mark ∉ letters := by
  intro member
  have known := Decimal.letter_of_natural? read mark (by rwa [String.toList_ofList])
  simp [sign, other] at known

/-! ## Brackets -/

/-- A host as it stands when the brackets at its ends are gone. -/
structure Bare (host : List Char) : Prop where
  named : host ≠ []
  front : host.head? ≠ some '['
  back : host.getLast? ≠ some ']'

/-- A host between brackets, as many as there are on each side. -/
def enclose (opening closing : Nat) (host : List Char) : List Char :=
  List.replicate opening '[' ++ host ++ List.replicate closing ']'

theorem dropBrackets_enclose {host : List Char} (bare : Bare host) (opening closing : Nat) :
    dropBrackets (enclose opening closing host) = host := by
  have front : (host ++ List.replicate closing ']').dropWhile (· = '[') =
      host ++ List.replicate closing ']' := by
    cases host with
    | nil => exact absurd rfl bare.named
    | cons first rest =>
        have plain : first ≠ '[' := fun same => bare.front (congrArg some same)
        simp [plain]
  have back : (host ++ List.replicate closing ']').rdropWhile (· = ']') = host := by
    have closes : ∀ letter ∈ List.replicate closing ']', decide (letter = ']') = true := by
      simp +contextual
    rw [List.rdropWhile, List.reverse_append, List.reverse_replicate,
      List.dropWhile_append_of_pos closes, ← List.rdropWhile, List.rdropWhile_eq_self_iff]
    intro nonempty
    have last := bare.back
    rw [List.getLast?_eq_some_getLast nonempty] at last
    simpa using last
  rw [enclose, List.append_assoc, dropBrackets, List.dropWhile_append_of_pos (by simp +contextual),
    front]
  exact back

/-- What is left without brackets stood between brackets. -/
theorem enclose_of_dropBrackets {letters host : List Char} (dropped : dropBrackets letters = host)
    (named : host ≠ []) :
    Bare host ∧ ∃ opening closing, letters = enclose opening closing host := by
  let inner := letters.dropWhile (· = '[')
  have left : inner.rdropWhile (· = ']') = host := dropped
  have opens : letters.takeWhile (· = '[') =
      List.replicate (letters.takeWhile (· = '[')).length '[' :=
    List.eq_replicate_of_mem fun letter member => by simpa using List.mem_takeWhile_imp member
  have closes : inner.rtakeWhile (· = ']') =
      List.replicate (inner.rtakeWhile (· = ']')).length ']' :=
    List.eq_replicate_of_mem fun letter member => by simpa using List.mem_rtakeWhile_imp member
  have whole : inner = host ++ inner.rtakeWhile (· = ']') := by
    rw [← left, List.rdropWhile_append_rtakeWhile]
  refine ⟨⟨named, ?_, ?_⟩, (letters.takeWhile (· = '[')).length,
    (inner.rtakeWhile (· = ']')).length, ?_⟩
  · intro first
    have kept := List.head?_dropWhile_not (· = '[') letters
    have same : (letters.dropWhile (· = '[')).head? = some '[' := by
      rw [← first, ← List.head?_append_of_ne_nil _ named, ← whole]
    simp [same] at kept
  · rw [List.getLast?_eq_some_getLast named]
    have last := List.rdropWhile_last_not (· = ']') inner (left ▸ named)
    simpa [left] using last
  · rw [enclose, ← opens, ← closes, List.append_assoc, ← whole, List.takeWhile_append_dropWhile]

/-! ## Spellings -/

/-- An address taken apart. -/
structure Spelling where
  /-- How many opening brackets stand in front. -/
  opening : Nat
  host : List Char
  /-- How many closing brackets stand behind the host. -/
  closing : Nat
  /-- What stands behind the colon, if there is one. -/
  port : Option (List Char)

namespace Spelling

/-- The host with its brackets. -/
def name (spelling : Spelling) : List Char :=
  enclose spelling.opening spelling.closing spelling.host

/-- The address put together. -/
def text (spelling : Spelling) : List Char :=
  spelling.name ++ spelling.port.elim [] (':' :: ·)

/-- The number of the port, if it is one. -/
def number? (spelling : Spelling) : Option Nat :=
  spelling.port.elim (some Endpoint.defaultPort) port?

/-- What the rule for addresses says. Only a host in brackets may have colons,
and none has brackets of its own. -/
structure Regular (spelling : Spelling) : Prop where
  named : spelling.host ≠ []
  plain : '[' ∉ spelling.host ∧ ']' ∉ spelling.host
  paired : spelling.opening = 0 ∧ spelling.closing = 0 ∧ ':' ∉ spelling.host ∨
    spelling.opening = 1 ∧ spelling.closing = 1

/-- What is read as an address. Any number of brackets may stand on either side
of the host, and a host may have brackets and colons wherever they are not taken
for the ends of it. -/
structure Readable (spelling : Spelling) : Prop where
  bare : Bare spelling.host
  /-- Without a port there is a closing bracket behind every colon. -/
  portless : spelling.port = none → ∀ front back, spelling.name = front ++ ':' :: back → ']' ∈ back

/-- A spelling that stands for a host and a port. -/
structure Spells (spelling : Spelling) (address host : String) (port : Nat) : Prop where
  text : spelling.text = address.toList
  host : spelling.host = host.toList
  number : spelling.number? = some port

/-- Behind a colon in front of a closing bracket there is that bracket. -/
theorem mem_of_enclose_eq {opening closing : Nat} {host front back : List Char}
    (split : enclose opening (closing + 1) host = front ++ ':' :: back) : ']' ∈ back := by
  have last : (front ++ ':' :: back).getLast? = some ']' := by
    rw [← split, enclose, List.replicate_succ', ← List.append_assoc, List.getLast?_concat]
  rw [List.getLast?_append, List.getLast?_cons] at last
  cases ends : back.getLast? with
  | none => simp [ends] at last
  | some letter =>
      obtain rfl : letter = ']' := by simpa [ends] using last
      exact List.mem_of_getLast? ends

theorem Regular.readable {spelling : Spelling} (regular : spelling.Regular) :
    spelling.Readable where
  bare :=
    { named := regular.named
      front := fun first => regular.plain.1 (List.mem_of_head? first)
      back := fun last => regular.plain.2 (List.mem_of_getLast? last) }
  portless := by
    intro _ front back split
    rcases regular.paired with ⟨opening, closing, colonless⟩ | ⟨-, closing⟩
    · have inside : ':' ∈ spelling.name := by simp [split]
      rw [name, opening, closing] at inside
      exact absurd (by simpa [enclose] using inside) colonless
    · rw [name, closing] at split
      exact mem_of_enclose_eq split

theorem regular_iff {spelling : Spelling} (readable : spelling.Readable) :
    spelling.Regular ↔ spelling.opening = spelling.closing ∧ spelling.opening ≤ 1 ∧
      '[' ∉ spelling.host ∧ ']' ∉ spelling.host ∧
      (spelling.opening = 0 → ':' ∉ spelling.host) := by
  constructor
  · rintro ⟨-, ⟨front, back⟩, ⟨opening, closing, colonless⟩ | ⟨opening, closing⟩⟩
    · exact ⟨by omega, by omega, front, back, fun _ => colonless⟩
    · exact ⟨by omega, by omega, front, back, by omega⟩
  · rintro ⟨paired, single, front, back, colonless⟩
    refine ⟨readable.bare.named, ⟨front, back⟩, ?_⟩
    by_cases alone : spelling.opening = 0
    · exact Or.inl ⟨alone, by omega, colonless alone⟩
    · exact Or.inr ⟨by omega, by omega⟩

/-! ## Reading -/

theorem divide_text {spelling : Spelling} {number : Nat} (readable : spelling.Readable)
    (read : spelling.number? = some number) :
    divide spelling.text = (spelling.name, spelling.port) := by
  obtain ⟨opening, host, closing, port⟩ := spelling
  cases port with
  | none =>
      rw [text, Option.elim_none, List.append_nil, divide]
      cases found : splitLast ':' (name ⟨opening, host, closing, none⟩) with
      | none => rfl
      | some parts =>
          have shape := splitLast_eq_some_iff.mp found
          exact if_pos (readable.portless rfl _ _ shape.1)
  | some digits =>
      have number : port? digits = some number := read
      have found : splitLast ':' (name ⟨opening, host, closing, some digits⟩ ++ ':' :: digits) =
          some (name ⟨opening, host, closing, some digits⟩, digits) :=
        splitLast_eq_some_iff.mpr ⟨rfl, notMem_of_port? number (by decide) (by decide)⟩
      rw [text, Option.elim_some, divide, found]
      exact if_neg (notMem_of_port? number (by decide) (by decide))

/-- A text is a name without a port, or one with a port behind it. -/
theorem divide_cases (letters : List Char) :
    divide letters = (letters, none) ∧
        (∀ front back, letters = front ++ ':' :: back → ']' ∈ back) ∨
      ∃ name digits, divide letters = (name, some digits) ∧ letters = name ++ ':' :: digits := by
  unfold divide
  cases found : splitLast ':' letters with
  | none =>
      refine Or.inl ⟨rfl, fun front back whole => ?_⟩
      exact absurd (by simp [whole]) (splitLast_eq_none_iff.mp found)
  | some parts =>
      obtain ⟨front, back⟩ := parts
      have shape := splitLast_eq_some_iff.mp found
      by_cases bracketed : ']' ∈ back
      · refine Or.inl ⟨if_pos bracketed, ?_⟩
        intro first second whole
        rcases List.append_eq_append_iff.mp (shape.1.symm.trans whole) with
          ⟨between, -, rest⟩ | ⟨between, -, rest⟩
        · cases between with
          | nil =>
              obtain ⟨-, rfl⟩ := List.cons_eq_cons.mp rest
              exact bracketed
          | cons letter further =>
              obtain ⟨-, later⟩ := List.cons_eq_cons.mp rest
              exact absurd (by simp [later]) shape.2
        · cases between with
          | nil =>
              obtain ⟨-, rfl⟩ := List.cons_eq_cons.mp rest
              exact bracketed
          | cons letter further =>
              obtain ⟨-, rfl⟩ := List.cons_eq_cons.mp rest
              simp [bracketed]
      · exact Or.inr ⟨front, back, if_neg bracketed, shape.1⟩

/-- What reading does with the two parts. -/
theorem parse?_eq (address : String) :
    parse? address =
      ((divide address.toList).2.elim (some Endpoint.defaultPort) port?).bind fun number =>
        if dropBrackets (divide address.toList).1 = [] then none
        else some (String.ofList (dropBrackets (divide address.toList).1), number) := by
  unfold parse?
  generalize divide address.toList = parts
  obtain ⟨name, digits⟩ := parts
  dsimp only
  cases dropBrackets name <;> cases digits <;> rfl

theorem parse?_eq_some_iff {address host : String} {port : Nat} :
    parse? address = some (host, port) ↔
      (divide address.toList).2.elim (some Endpoint.defaultPort) port? = some port ∧
        dropBrackets (divide address.toList).1 = host.toList ∧ host.toList ≠ [] := by
  rw [parse?_eq, Option.bind_eq_some_iff]
  constructor
  · rintro ⟨number, read, named⟩
    rw [Option.ite_none_left_eq_some] at named
    obtain ⟨nonempty, same⟩ := named
    cases same
    rw [String.toList_ofList]
    exact ⟨read, rfl, nonempty⟩
  · rintro ⟨read, inner, named⟩
    exact ⟨port, read, by rw [inner, if_neg named, String.ofList_toList]⟩

/-- An address is read as a host and a port exactly if it can be spelled so. -/
theorem parse?_eq_some_iff_readable {address host : String} {port : Nat} :
    parse? address = some (host, port) ↔
      ∃ spelling : Spelling, spelling.Spells address host port ∧ spelling.Readable := by
  rw [parse?_eq_some_iff]
  constructor
  · rintro ⟨number, inner, named⟩
    obtain ⟨bare, opening, closing, whole⟩ := enclose_of_dropBrackets inner named
    rcases divide_cases address.toList with ⟨divided, portless⟩ | ⟨front, digits, divided, shape⟩
    · rw [divided] at number whole
      refine ⟨⟨opening, host.toList, closing, none⟩, ⟨?_, rfl, number⟩, ⟨bare, ?_⟩⟩
      · exact (List.append_nil _).trans whole.symm
      · exact fun _ front back split => portless front back (whole.trans split)
    · rw [divided] at number whole
      refine ⟨⟨opening, host.toList, closing, some digits⟩, ⟨?_, rfl, number⟩, ⟨bare, nofun⟩⟩
      exact (congrArg (· ++ ':' :: digits) whole.symm).trans shape.symm
  · rintro ⟨spelling, spells, readable⟩
    rw [← spells.text, divide_text readable spells.number, ← spells.host]
    exact ⟨spells.number, dropBrackets_enclose readable.bare _ _, readable.bare.named⟩

/-- The number of brackets can be told from a name. -/
theorem enclose_inj {host : List Char} (bare : Bare host) {opening closing opening' closing' : Nat}
    (same : enclose opening closing host = enclose opening' closing' host) :
    opening = opening' ∧ closing = closing' := by
  have front : ∀ opening closing,
      ((enclose opening closing host).takeWhile (· = '[')).length = opening := by
    intro opening closing
    cases host with
    | nil => exact absurd rfl bare.named
    | cons first rest =>
        have plain : first ≠ '[' := fun same => bare.front (congrArg some same)
        rw [enclose, List.append_assoc, List.takeWhile_append_of_pos (by simp +contextual)]
        simp [plain]
  have opens : opening = opening' := by rw [← front opening closing, same, front]
  have lengths := congrArg List.length same
  simp only [enclose, List.length_append, List.length_replicate] at lengths
  exact ⟨opens, by omega⟩

/-- There is one way to take an address apart. -/
theorem eq_of_readable {spelling other : Spelling} {address host : String} {port : Nat}
    (spells : spelling.Spells address host port) (readable : spelling.Readable)
    (spells' : other.Spells address host port) (readable' : other.Readable) : spelling = other := by
  have parts := divide_text readable spells.number
  rw [spells.text, ← spells'.text, divide_text readable' spells'.number, Prod.mk.injEq] at parts
  obtain ⟨opening, letters, closing, digits⟩ := spelling
  obtain ⟨opening', letters', closing', digits'⟩ := other
  obtain ⟨names, rfl : digits' = digits⟩ := parts
  obtain rfl : letters = host.toList := spells.host
  obtain rfl : letters' = host.toList := spells'.host
  obtain ⟨rfl, rfl⟩ := enclose_inj readable.bare names
  rfl

end Spelling

end Address

namespace ServerSettings

open Address

variable {server : ServerSettings}

/-- The endpoint at an address that is no URL. -/
theorem endpoint_of_plain (plain : Url.looksLike server.address = false) :
    server.endpoint =
      (parse? server.address).elim (.error invalid) fun parts =>
        .ok ⟨parts.1, parts.2, server.db, none, server.password, .resp2⟩ := by
  rw [endpoint, plain]
  cases parse? server.address <;> rfl

theorem endpoint_eq_ok_iff (plain : Url.looksLike server.address = false) {found : Endpoint} :
    server.endpoint = .ok found ↔ ∃ host port, parse? server.address = some (host, port) ∧
      found = ⟨host, port, server.db, none, server.password, .resp2⟩ := by
  rw [endpoint_of_plain plain]
  cases parse? server.address with
  | none => simp
  | some parts =>
      obtain ⟨host, port⟩ := parts
      simp [eq_comm]

/-- What an address that is no URL is read as. A text that follows the rule is
read as the host and the port that it names, with the default for a port that it
does not name. All that is refused is refused as no address. But more than what
follows the rule is read: a host may have any brackets around it, and brackets
within, and colons without any brackets. There is one way to read a text. If it
is not by the rule, the brackets around are neither none nor one pair, or there
is a bracket within, or no bracket around and a colon within. -/
theorem accepted_iff_readable (plain : Url.looksLike server.address = false) :
    ((∀ endpoint, server.endpoint ≠ .ok endpoint) → server.endpoint = .error invalid) ∧
      ∀ host port,
        let accepted := ∃ endpoint, server.endpoint = .ok endpoint ∧
          endpoint.host = host ∧ endpoint.port = port
        let regular := ∃ spelling : Spelling,
          spelling.Spells server.address host port ∧ spelling.Regular
        (regular → accepted) ∧
          (accepted ↔ ∃ spelling : Spelling,
            spelling.Spells server.address host port ∧ spelling.Readable) ∧
          ∀ spelling : Spelling, spelling.Spells server.address host port → spelling.Readable →
            (regular ↔ spelling.opening = spelling.closing ∧ spelling.opening ≤ 1 ∧
              '[' ∉ spelling.host ∧ ']' ∉ spelling.host ∧
              (spelling.opening = 0 → ':' ∉ spelling.host)) := by
  constructor
  · intro refused
    rw [endpoint_of_plain plain]
    cases read : parse? server.address with
    | none => rfl
    | some parts =>
        exact absurd ((endpoint_eq_ok_iff plain).mpr ⟨parts.1, parts.2, read, rfl⟩) (refused _)
  · intro host port accepted regular
    have iff : accepted ↔ ∃ spelling : Spelling,
        spelling.Spells server.address host port ∧ spelling.Readable := by
      rw [← Spelling.parse?_eq_some_iff_readable]
      constructor
      · rintro ⟨endpoint, ok, rfl, rfl⟩
        obtain ⟨host, port, read, rfl⟩ := (endpoint_eq_ok_iff plain).mp ok
        exact read
      · intro read
        exact ⟨_, (endpoint_eq_ok_iff plain).mpr ⟨host, port, read, rfl⟩, rfl, rfl⟩
    refine ⟨?_, iff, ?_⟩
    · rintro ⟨spelling, spells, byRule⟩
      exact iff.mpr ⟨spelling, spells, byRule.readable⟩
    · intro spelling spells readable
      have same : regular ↔ spelling.Regular := by
        constructor
        · rintro ⟨other, spells', byRule⟩
          rw [Spelling.eq_of_readable spells readable spells' byRule.readable]
          exact byRule
        · exact fun byRule => ⟨spelling, spells, byRule⟩
      rw [same]
      exact Spelling.regular_iff readable

/-- A bracket that is never closed. -/
theorem accepted_iff_readable_unclosed :
    (∃ endpoint, (ofAddress "[a:7").endpoint = .ok endpoint ∧
        endpoint.host = "a" ∧ endpoint.port = 7) ∧
      ¬∃ spelling : Spelling, spelling.Spells "[a:7" "a" 7 ∧ spelling.Regular := by
  have spells : Spelling.Spells ⟨1, ['a'], 0, some ['7']⟩ "[a:7" "a" 7 :=
    ⟨by decide, by decide, by decide⟩
  have readable : Spelling.Readable ⟨1, ['a'], 0, some ['7']⟩ :=
    ⟨⟨by decide, by decide, by decide⟩, nofun⟩
  have plain : Url.looksLike (ofAddress "[a:7").address = false := by decide
  obtain ⟨-, accepted, rule⟩ := (accepted_iff_readable plain).2 "a" 7
  exact ⟨accepted.mpr ⟨_, spells, readable⟩, mt (rule _ spells readable).mp (by decide)⟩

/-- An address of the sixth version without brackets is not refused: the last
group of it is taken for the port, and what is left of the rest for the host. -/
theorem unbracketed_misread :
    Url.looksLike "::1" = false ∧
      (ofAddress "::1").endpoint = .ok ⟨":", 1, 0, none, none, .resp2⟩ ∧
      ¬∃ (spelling : Spelling) (host : String) (port : Nat),
        spelling.Spells "::1" host port ∧ spelling.Regular := by
  refine ⟨by decide, by decide, ?_⟩
  rintro ⟨⟨opening, letters, closing, digits⟩, host, port, ⟨whole, -, -⟩, named, -, paired⟩
  rcases paired with ⟨rfl, -, colonless⟩ | ⟨rfl, -⟩
  · cases letters with
    | nil => exact named rfl
    | cons first rest =>
        obtain ⟨rfl, -⟩ := List.cons_eq_cons.mp whole
        exact colonless List.mem_cons_self
  · cases whole

end ServerSettings

end SharedState
