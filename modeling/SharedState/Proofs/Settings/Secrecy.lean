import SharedState.Settings

/-!
# What the text of the settings shows

The text of the settings says whether a password is given beside the address,
but not which. The address itself it shows in full: a text in quotes can be read
back letter by letter. The password of a URL is a part of the address, so two
passwords within URLs that are otherwise the same can be told from each other.
-/

namespace SharedState

open SharedState.Text

namespace Text

/-! ## Quotations -/

namespace Quoted

/-- The letter that a mark behind a backslash stands for. -/
def long (mark : Char) : Char :=
  if mark = '0' then '\x00'
  else if mark = 't' then '\t'
  else if mark = 'r' then '\r'
  else if mark = 'n' then '\n'
  else mark

theorem long_of_short? {letter mark : Char} (found : short? letter = some mark) :
    long mark = letter ∧ mark ≠ 'u' := by
  grind [short?, long]

/-- A letter is written with a mark, as it is, or by its code point. -/
theorem escape_cases (letter : Char) :
    (∃ mark, short? letter = some mark ∧ escape letter = ['\\', mark]) ∨
      (letter ≠ '\\' ∧ escape letter = [letter]) ∨
      escape letter = '\\' :: 'u' :: '\x7b' :: (Hex.ofNat letter.toNat ++ ['\x7d']) := by
  unfold escape
  cases known : short? letter with
  | some mark => exact Or.inl ⟨mark, rfl, rfl⟩
  | none =>
      have other : letter ≠ '\\' := by
        rintro rfl
        cases known
      dsimp only
      split
      · exact Or.inr (Or.inl ⟨other, rfl⟩)
      · exact Or.inr (Or.inr rfl)

/-- Reads one letter between the quotes: the letter, and what is behind it. -/
def next? : List Char → Option (Char × List Char)
  | '\\' :: 'u' :: '\x7b' :: rest =>
      (Hex.toNat? (rest.takeWhile (· ≠ '\x7d'))).map fun value =>
        (Char.ofNat value, (rest.dropWhile (· ≠ '\x7d')).tail)
  | '\\' :: mark :: rest => some (long mark, rest)
  | letter :: rest => some (letter, rest)
  | [] => none

/-- A letter that was written is read again, whatever follows. -/
theorem next?_escape (letter : Char) (rest : List Char) :
    next? (escape letter ++ rest) = some (letter, rest) := by
  rcases escape_cases letter with ⟨mark, found, shape⟩ | ⟨other, shape⟩ | shape
  · obtain ⟨same, plain⟩ := long_of_short? found
    simp [shape, next?, same, plain]
  · simp [shape, next?, other]
  · -- No digit is the brace that ends them.
    have digits : ∀ digit ∈ Hex.ofNat letter.toNat, decide (digit ≠ '\x7d') = true := by
      intro digit member
      have known := Hex.isSome_digit?_of_mem_ofNat member
      refine decide_eq_true fun same => ?_
      rw [same] at known
      cases known
    have closed : decide ('\x7d' ≠ '\x7d') = false := by decide
    rw [shape, List.cons_append, List.cons_append, List.cons_append, List.append_assoc, next?,
      List.takeWhile_append_of_pos digits, List.dropWhile_append_of_pos digits]
    simp [Hex.toNat?_ofNat]

/-- Different texts are quoted differently. -/
theorem flatMap_escape_inj {left right : List Char}
    (same : left.flatMap escape = right.flatMap escape) : left = right := by
  have nonempty : ∀ letter rest, escape letter ++ rest ≠ [] := by
    intro letter rest none
    have read := next?_escape letter rest
    rw [none] at read
    cases read
  induction left generalizing right with
  | nil =>
      cases right with
      | nil => rfl
      | cons first rest => exact absurd same.symm (nonempty first _)
  | cons first rest ih =>
      cases right with
      | nil => exact absurd same (nonempty first _)
      | cons second others =>
          have read := next?_escape first (rest.flatMap escape)
          rw [← List.flatMap_cons, same, List.flatMap_cons, next?_escape, Option.some.injEq,
            Prod.mk.injEq] at read
          rw [read.1, ih read.2.symm]

/-- A text can be told from its quotation. -/
theorem quote_inj {left right : String} : quote left = quote right ↔ left = right := by
  refine ⟨fun same => ?_, congrArg quote⟩
  have letters := String.ofList_injective same
  rw [List.cons_append, List.cons_append, List.cons.injEq, List.append_left_inj] at letters
  exact String.toList_injective (flatMap_escape_inj letters.2)

end Quoted

/-! ## Records -/

namespace Record

/-- The value of the first field can be told from a record. -/
theorem render_first_inj {name first left right : String} {rest : List (String × String)} :
    render name ((first, left) :: rest) = render name ((first, right) :: rest) ↔
      left = right := by
  simp only [render, String.append_left_inj, String.append_right_inj]
  cases rest with
  | nil => simp [field, String.intercalate_singleton]
  | cons second others => simp [field, String.intercalate_cons_cons]

theorem optional_inj {left right : String} :
    optional (some left) = optional (some right) ↔ left = right := by
  simp only [optional, String.append_left_inj, String.append_right_inj]

end Record

end Text

/-! ## Passwords -/

namespace ServerSettings

open Address

/-- Two servers that are the same but for the text of the password that a
connection uses. -/
inductive DifferInPassword : ServerSettings → ServerSettings → Prop
  /-- With an address that is no URL, it is the password beside the address. -/
  | beside (server : ServerSettings) (left right : String)
      (plain : Url.looksLike server.address = false) :
      DifferInPassword { server with password := some left }
        { server with password := some right }
  /-- With a URL, it is the password within. -/
  | within (server : ServerSettings) (left right : String)
      (urls : Url.looksLike left = true ∧ Url.looksLike right = true)
      (parts : Url.Parts) (first second : List Char)
      (readLeft : Url.parts? left = some { parts with password := some first })
      (readRight : Url.parts? right = some { parts with password := some second }) :
      DifferInPassword { server with address := left } { server with address := right }

/-- The text of a server does not depend on the password beside the address. -/
theorem describe_password (server : ServerSettings) (left right : String) :
    describe { server with password := some left } =
      describe { server with password := some right } :=
  rfl

/-- The address can be told from the text of a server. -/
theorem describe_address_inj (server : ServerSettings) {left right : String} :
    describe { server with address := left } = describe { server with address := right } ↔
      left = right := by
  rw [describe, describe, Record.render_first_inj, Quoted.quote_inj]

end ServerSettings

namespace Settings

/-- The text of the server can be told from the text of the settings. -/
theorem describe_server_inj (settings : Settings) {left right : ServerSettings} :
    describe { settings with server := some left } =
        describe { settings with server := some right } ↔
      left.describe = right.describe := by
  rw [describe, describe, Record.render_first_inj, Option.map_some, Option.map_some,
    Record.optional_inj]

end Settings

namespace ServerSettings

open Address

/-- Whether the text of a server, alone or in any settings, tells two passwords
from each other. It never does where the password is given beside the address,
and always where it is a part of the address. -/
theorem hidden_iff_beside {left right : ServerSettings} (differ : DifferInPassword left right) :
    let hidden := Url.looksLike left.address = false ∨ left = right
    (left.describe = right.describe ↔ hidden) ∧
      ∀ settings : Settings,
        Settings.describe { settings with server := some left } =
            Settings.describe { settings with server := some right } ↔ hidden := by
  intro hidden
  have alone : left.describe = right.describe ↔ hidden := by
    cases differ with
    | beside server first second plain =>
        exact iff_of_true (describe_password server first second) (Or.inl plain)
    | within server first second urls =>
        rw [describe_address_inj]
        constructor
        · rintro rfl
          exact Or.inr rfl
        · rintro (plain | same)
          · exact absurd (plain.symm.trans urls.1) Bool.false_ne_true
          · exact congrArg ServerSettings.address same
  exact ⟨alone, fun settings => (Settings.describe_server_inj settings).trans alone⟩

/-- A password beside an address, and one within a URL. -/
theorem hidden_iff_beside_each :
    (describe { ofAddress "db" with password := some "one" } =
        describe { ofAddress "db" with password := some "two" }) ∧
      describe (ofAddress "redis://:one@db") ≠ describe (ofAddress "redis://:two@db") := by
  have beside : DifferInPassword { ofAddress "db" with password := some "one" }
      { ofAddress "db" with password := some "two" } :=
    .beside (ofAddress "db") "one" "two" (by decide)
  have within : DifferInPassword (ofAddress "redis://:one@db") (ofAddress "redis://:two@db") :=
    .within (ofAddress "") "redis://:one@db" "redis://:two@db" (by decide)
      ⟨false, [], none, "db", none, [], []⟩ ['o', 'n', 'e'] ['t', 'w', 'o']
      (by decide +kernel) (by decide +kernel)
  refine ⟨(hidden_iff_beside beside).1.mpr (Or.inl (by decide)), fun same => ?_⟩
  exact absurd ((hidden_iff_beside within).1.mp same) (by decide)

/-- Two URLs that differ in nothing but the password, which the connection uses,
have different texts. -/
theorem url_password_shown :
    (ofAddress "redis://:one@db").endpoint = .ok ⟨"db", 6379, 0, none, some "one", .resp2⟩ ∧
      (ofAddress "redis://:two@db").endpoint = .ok ⟨"db", 6379, 0, none, some "two", .resp2⟩ ∧
        describe (ofAddress "redis://:one@db") ≠ describe (ofAddress "redis://:two@db") := by
  refine ⟨rfl, rfl, ?_⟩
  exact mt (describe_address_inj (ofAddress "")).mp (by decide)

end ServerSettings

end SharedState
