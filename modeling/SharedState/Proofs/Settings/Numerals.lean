import Mathlib.Data.List.DropRight
import Mathlib.Data.Nat.Digits.Defs
import SharedState.Text.Blank
import SharedState.Text.Decimal

/-!
# Numerals between white space

What a decimal numeral is, apart from how it is read: digits, of which the last
one counts the ones, the one before it the tens, and so on, with a sign in front if
one may stand there. The readers accept exactly such numerals, as long as they are
in range. White space at both ends of a text is dropped, and as there is none in a
numeral, a text holds at most one.
-/

namespace SharedState.Text

/-- A run of digits and its value. -/
structure Digits (letters : List Char) (value : Nat) : Prop where
  nonempty : letters ≠ []
  digits : ∀ letter ∈ letters, letter.isDigit = true
  value : value = Nat.ofDigits 10 (letters.reverse.map fun letter => letter.toNat - '0'.toNat)

/-- A numeral and its value. A minus sign may stand in front only where negative
numbers are known. -/
inductive Numeral (negative : Bool) : List Char → Int → Prop where
  | plain {letters : List Char} {value : Nat} : Digits letters value →
      Numeral negative letters value
  | plus {letters : List Char} {value : Nat} : Digits letters value →
      Numeral negative ('+' :: letters) value
  | minus {letters : List Char} {value : Nat} : negative = true → Digits letters value →
      Numeral negative ('-' :: letters) (-value)

/-- A text that holds a number: white space around a numeral. -/
def Holds (negative : Bool) (text : String) (value : Int) : Prop :=
  ∃ front letters back, text.toList = front ++ letters ++ back ∧
    (∀ letter ∈ front, Blank.isBlank letter = true) ∧
    (∀ letter ∈ back, Blank.isBlank letter = true) ∧
    Numeral negative letters value

/-! ## The readers -/

namespace Decimal

theorem digit?_eq_some_iff {letter : Char} {value : Nat} :
    digit? letter = some value ↔ letter.isDigit = true ∧ value = letter.toNat - '0'.toNat := by
  have range : ('0' ≤ letter ∧ letter ≤ '9') ↔ letter.isDigit = true :=
    (Bool.and_eq_true_iff.trans (and_congr decide_eq_true_iff decide_eq_true_iff)).symm
  rw [digit?, ← range, Option.ite_none_right_eq_some, Option.some.injEq, eq_comm]

/-- What was read before counts ten times as much for each further digit. -/
theorem extend?_eq_some_iff {start value : Nat} {letters : List Char} :
    extend? start letters = some value ↔
      (∀ letter ∈ letters, letter.isDigit = true) ∧
        value = Nat.ofDigits 10 (letters.reverse.map fun letter => letter.toNat - '0'.toNat) +
          10 ^ letters.length * start := by
  induction letters generalizing start with
  | nil =>
      rw [extend?, Option.some.injEq, eq_comm]
      simp
  | cons letter rest ih =>
      rw [extend?, Option.bind_eq_some_iff, List.forall_mem_cons, List.reverse_cons,
        List.map_append, Nat.ofDigits_append, List.length_map, List.length_reverse,
        List.length_cons, pow_succ]
      constructor
      · rintro ⟨digit, first, others⟩
        obtain ⟨isDigit, rfl⟩ := digit?_eq_some_iff.mp first
        obtain ⟨digits, rfl⟩ := ih.mp others
        refine ⟨⟨isDigit, digits⟩, ?_⟩
        rw [List.map_singleton, Nat.ofDigits_singleton]
        ring
      · rintro ⟨⟨isDigit, digits⟩, rfl⟩
        refine ⟨_, digit?_eq_some_iff.mpr ⟨isDigit, rfl⟩, ih.mpr ⟨digits, ?_⟩⟩
        rw [List.map_singleton, Nat.ofDigits_singleton]
        ring

theorem digits?_eq_some_iff {letters : List Char} {value : Nat} :
    digits? letters = some value ↔ Digits letters value := by
  cases letters with
  | nil =>
      constructor
      · intro read
        cases read
      · exact fun run => absurd rfl run.nonempty
  | cons letter rest =>
      have nonempty : letter :: rest ≠ [] := List.cons_ne_nil letter rest
      rw [digits?, extend?_eq_some_iff, Nat.mul_zero, Nat.add_zero]
      · constructor
        · rintro ⟨digits, value⟩
          exact ⟨nonempty, digits, value⟩
        · exact fun run => ⟨run.digits, run.value⟩
      · exact nonempty

/-- A run of digits does not begin with a sign. -/
theorem not_digits_of_sign {sign : Char} (noDigit : sign.isDigit = false) {letters : List Char}
    {value : Nat} : ¬Digits (sign :: letters) value := by
  intro run
  have isDigit := run.digits sign List.mem_cons_self
  rw [noDigit] at isDigit
  cases isDigit

theorem signed?_eq_some_iff {letters : List Char} {value : Int} :
    signed? letters = some value ↔ Numeral true letters value := by
  constructor
  · intro read
    unfold signed? at read
    split at read
    · obtain ⟨magnitude, run, rfl⟩ := Option.map_eq_some_iff.mp read
      exact .plus (digits?_eq_some_iff.mp run)
    · obtain ⟨magnitude, run, rfl⟩ := Option.map_eq_some_iff.mp read
      exact .minus rfl (digits?_eq_some_iff.mp run)
    · obtain ⟨magnitude, run, rfl⟩ := Option.map_eq_some_iff.mp read
      exact .plain (digits?_eq_some_iff.mp run)
  · intro numeral
    cases numeral with
    | plus run => rw [signed?, digits?_eq_some_iff.mpr run]; rfl
    | minus _ run => rw [signed?, digits?_eq_some_iff.mpr run]; rfl
    | plain run =>
        unfold signed?
        split
        · exact absurd run (not_digits_of_sign rfl)
        · exact absurd run (not_digits_of_sign rfl)
        · rw [digits?_eq_some_iff.mpr run]; rfl

/-- Exactly the numerals in range are read as signed words. -/
theorem integer?_eq_some_iff {text : String} {value : Int} :
    integer? text = some value ↔ Numeral true text.toList value ∧
      -0x8000000000000000 ≤ value ∧ value < 0x8000000000000000 := by
  rw [integer?, Option.filter_eq_some_iff, signed?_eq_some_iff, decide_eq_true_iff]

/-- Exactly the numerals below the limit that have no minus sign are read. -/
theorem natural?_eq_some_iff {limit : Nat} {text : String} {value : Nat} :
    natural? limit text = some value ↔ Numeral false text.toList value ∧ value < limit := by
  rw [natural?, Option.filter_eq_some_iff, decide_eq_true_iff]
  apply and_congr_left'
  constructor
  · intro read
    split at read
    case h_1 letters sign =>
      rw [sign]
      exact .plus (digits?_eq_some_iff.mp read)
    case h_2 => exact .plain (digits?_eq_some_iff.mp read)
  · intro numeral
    generalize text.toList = letters at numeral ⊢
    generalize same : (value : Int) = number at numeral
    cases numeral with
    | plus run =>
        rw [Int.ofNat_inj.mp same]
        exact digits?_eq_some_iff.mpr run
    | minus negative => cases negative
    | plain run =>
        rw [Int.ofNat_inj.mp same]
        split
        · exact absurd run (not_digits_of_sign rfl)
        · exact digits?_eq_some_iff.mpr run

end Decimal

/-! ## White space at both ends -/

namespace Blank

/-- Nothing is left only where every letter is dropped. -/
theorem strip_eq_nil_iff {drop : Char → Bool} {letters : List Char} :
    strip drop letters = [] ↔ ∀ letter ∈ letters, drop letter = true := by
  have twoEnds : strip drop letters = (letters.dropWhile drop).rdropWhile drop := rfl
  rw [twoEnds, List.rdropWhile_eq_nil_iff]
  constructor
  · intro behind letter member
    rw [← List.takeWhile_append_dropWhile (p := drop) (l := letters), List.mem_append] at member
    rcases member with front | back
    · exact List.mem_takeWhile_imp front
    · exact behind letter back
  · intro all letter member
    exact all letter ((List.dropWhile_sublist drop).subset member)

theorem trim_eq_empty_iff (text : String) :
    trim text = "" ↔ ∀ letter ∈ text.toList, isBlank letter = true := by
  rw [trim, String.ofList_eq_empty_iff, strip_eq_nil_iff]

/-- What is dropped stands at both ends. -/
theorem exists_strip (drop : Char → Bool) (letters : List Char) :
    ∃ front back, letters = front ++ strip drop letters ++ back ∧
      (∀ letter ∈ front, drop letter = true) ∧ (∀ letter ∈ back, drop letter = true) := by
  have front := List.takeWhile_append_dropWhile (p := drop) (l := letters)
  have back := List.takeWhile_append_dropWhile (p := drop) (l := (letters.dropWhile drop).reverse)
  refine ⟨letters.takeWhile drop, ((letters.dropWhile drop).reverse.takeWhile drop).reverse,
    ?_, fun _ member => List.mem_takeWhile_imp member,
    fun _ member => List.mem_takeWhile_imp (List.mem_reverse.mp member)⟩
  rw [strip, List.append_assoc, ← List.reverse_append, back, List.reverse_reverse, front]

theorem dropWhile_of_kept {drop : Char → Bool} {letters : List Char}
    (kept : ∀ letter ∈ letters, drop letter = false) : letters.dropWhile drop = letters := by
  cases letters with
  | nil => rfl
  | cons first rest =>
      rw [List.dropWhile_cons, kept first List.mem_cons_self, if_neg Bool.false_ne_true]

/-- Nothing is dropped between letters that stay. -/
theorem strip_append {drop : Char → Bool} {front letters back : List Char}
    (before : ∀ letter ∈ front, drop letter = true)
    (kept : ∀ letter ∈ letters, drop letter = false)
    (after : ∀ letter ∈ back, drop letter = true) :
    strip drop (front ++ letters ++ back) = letters := by
  cases letters with
  | nil =>
      rw [List.append_nil, strip_eq_nil_iff]
      intro letter member
      exact (List.mem_append.mp member).elim (before letter) (after letter)
  | cons first rest =>
      have opened : (front ++ (first :: rest) ++ back).dropWhile drop = (first :: rest) ++ back := by
        rw [List.append_assoc, List.dropWhile_append_of_pos before, List.cons_append,
          List.dropWhile_cons, kept first List.mem_cons_self, if_neg Bool.false_ne_true]
      have behind : ∀ letter ∈ back.reverse, drop letter = true :=
        fun letter member => after letter (List.mem_reverse.mp member)
      have stays : ∀ letter ∈ (first :: rest).reverse, drop letter = false :=
        fun letter member => kept letter (List.mem_reverse.mp member)
      rw [strip, opened, List.reverse_append, List.dropWhile_append_of_pos behind,
        dropWhile_of_kept stays, List.reverse_reverse]

end Blank

/-! ## Texts that hold a number -/

theorem isBlank_of_isDigit {letter : Char} (digit : letter.isDigit = true) :
    Blank.isBlank letter = false := by
  obtain ⟨low, high⟩ := Bool.and_eq_true_iff.mp digit
  have atLeast : 48 ≤ letter.toNat := of_decide_eq_true low
  have atMost : letter.toNat ≤ 57 := of_decide_eq_true high
  simp only [Blank.isBlank, Blank.ranges, List.any_cons, List.any_nil, Bool.or_false,
    Bool.or_eq_false_iff, Bool.and_eq_false_iff, decide_eq_false_iff_not, Nat.not_le]
  omega

theorem isBlank_of_mem_numeral {negative : Bool} {letters : List Char} {value : Int}
    (numeral : Numeral negative letters value) :
    ∀ letter ∈ letters, Blank.isBlank letter = false := by
  cases numeral with
  | plain run => exact fun letter member => isBlank_of_isDigit (run.digits letter member)
  | plus run =>
      exact List.forall_mem_cons.mpr
        ⟨by decide, fun letter member => isBlank_of_isDigit (run.digits letter member)⟩
  | minus _ run =>
      exact List.forall_mem_cons.mpr
        ⟨by decide, fun letter member => isBlank_of_isDigit (run.digits letter member)⟩

/-- A text holds the number that is left of it between white space. -/
theorem holds_iff {negative : Bool} {text : String} {value : Int} :
    Holds negative text value ↔ Numeral negative (Blank.trim text).toList value := by
  rw [Blank.trim, String.toList_ofList]
  constructor
  · rintro ⟨front, letters, back, whole, before, after, numeral⟩
    rw [whole, Blank.strip_append before (isBlank_of_mem_numeral numeral) after]
    exact numeral
  · intro numeral
    obtain ⟨front, back, whole, before, after⟩ := Blank.exists_strip Blank.isBlank text.toList
    exact ⟨front, _, back, whole, before, after, numeral⟩

end SharedState.Text
