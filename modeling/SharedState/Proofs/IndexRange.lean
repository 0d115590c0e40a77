import Mathlib.Data.Set.Basic
import SharedState.IndexRange

/-!
# Positions between two indices

What a range selects is what stands at the positions from one index to the
other, counted in unbounded numbers; where there are none, no range resolves. A
machine counts in signed words of 64 bits, where a sum that no word has is an
error, and so is a position behind the end of a sequence. Neither happens: for
every length that a sequence in memory can have and any two words as indices,
copying a range gives these elements, and cutting off the others leaves them.
-/

namespace SharedState

/-- Signed words of 64 bits. -/
def IsWord (number : Int) : Prop :=
  -0x8000000000000000 ≤ number ∧ number ≤ 0x7FFFFFFFFFFFFFFF

instance (number : Int) : Decidable (IsWord number) := inferInstanceAs (Decidable (_ ∧ _))

/-- The word that is a number, if there is one. -/
def word? (number : Int) : Option Int := if IsWord number then some number else none

theorem word?_of_isWord {number : Int} (isWord : IsWord number) : word? number = some number :=
  if_pos isWord

namespace IndexRange

variable {Element : Type} {elements : List Element} {length : Nat} {start stop index : Int}
  {range : IndexRange}

/-- The elements at the positions that lie between two indices. -/
def between (elements : List Element) (start stop : Int) : List Element :=
  let low := if start < 0 then elements.length + start else start
  let high := if stop < 0 then elements.length + stop else stop
  (elements.zipIdx.filter fun placed => low ≤ placed.2 ∧ placed.2 ≤ high).map Prod.fst

/-- The positions of a range. -/
def places (range : IndexRange) : Set Int := {place | range.first ≤ place ∧ place ≤ range.last}

/-- The positions of a sequence that lie between two indices. -/
def span (length : Nat) (start stop : Int) : Set Int :=
  let low := if start < 0 then length + start else start
  let high := if stop < 0 then length + stop else stop
  {place | 0 ≤ place ∧ place < length ∧ low ≤ place ∧ place ≤ high}

/-! ## Positions -/

/-- The positions between two indices are those of the resolved range. -/
theorem between_iff_resolve? {place : Nat} (inside : place < length) :
    position length start ≤ place ∧ place ≤ position length stop ↔
      ∃ range, resolve? length start stop = some range ∧
        range.first ≤ place ∧ place ≤ range.last := by
  constructor
  · rintro ⟨lower, upper⟩
    obtain ⟨first, firstEq⟩ := Int.eq_ofNat_of_zero_le (Int.le_max_left 0 (position length start))
    obtain ⟨last, lastEq⟩ := Int.eq_ofNat_of_zero_le
      (a := min ((length : Int) - 1) (position length stop)) (by omega)
    have ordered : first ≤ last := by omega
    have existing : last < length := by omega
    have resolved : resolve? length start stop = some ⟨first, last⟩ :=
      resolve?_eq_some_iff.mpr ⟨firstEq.symm, lastEq.symm, ordered, existing⟩
    have lowerToo : first ≤ place := by omega
    have upperToo : place ≤ last := by omega
    exact ⟨⟨first, last⟩, resolved, lowerToo, upperToo⟩
  · rintro ⟨range, resolved, lower, upper⟩
    obtain ⟨first, last, -, -⟩ := resolve?_eq_some_iff.mp resolved
    omega

/-- What lies between two indices lies in the resolved range, if there is one. -/
theorem mem_span_iff {place : Int} :
    place ∈ span length start stop ↔
      ∃ range, resolve? length start stop = some range ∧ place ∈ range.places := by
  constructor
  · rintro ⟨notBefore, inside, between⟩
    obtain ⟨place, rfl⟩ := Int.eq_ofNat_of_zero_le notBefore
    obtain ⟨range, resolved, lower, upper⟩ :=
      (between_iff_resolve? (Int.ofNat_lt.mp inside)).mp between
    exact ⟨range, resolved, Int.ofNat_le.mpr lower, Int.ofNat_le.mpr upper⟩
  · rintro ⟨range, resolved, lower, upper⟩
    obtain ⟨first, last, -, inside⟩ := resolve?_eq_some_iff.mp resolved
    have notBefore : 0 ≤ place := by omega
    have existing : place < length := by omega
    have low : position length start ≤ place := by omega
    have high : place ≤ position length stop := by omega
    exact ⟨notBefore, existing, low, high⟩

/-- A resolved range has the positions between the indices. -/
theorem places_eq_span (resolved : resolve? length start stop = some range) :
    range.places = span length start stop := by
  ext place
  rw [mem_span_iff, resolved]
  simp

/-- No range is resolved exactly if there is nothing between the indices. -/
theorem resolve?_eq_none_iff :
    resolve? length start stop = none ↔ span length start stop = ∅ := by
  constructor
  · intro unresolved
    rw [Set.eq_empty_iff_forall_notMem]
    intro place inside
    obtain ⟨range, resolved, -⟩ := mem_span_iff.mp inside
    rw [unresolved] at resolved
    cases resolved
  · intro nothing
    cases resolved : resolve? length start stop with
    | none => rfl
    | some range =>
        obtain ⟨-, -, ordered, -⟩ := resolve?_eq_some_iff.mp resolved
        have inside : (range.first : Int) ∈ range.places :=
          ⟨Int.le_refl _, Int.ofNat_le.mpr ordered⟩
        rw [places_eq_span resolved, nothing] at inside
        cases inside

/-- Keeping the elements at some positions in a row is cutting off what is behind
them and what is before them. -/
theorem filter_zipIdx (elements : List Element) (first behind offset : Nat) :
    ((elements.zipIdx offset).filter fun placed =>
        first ≤ placed.2 ∧ placed.2 < behind).map Prod.fst =
      (elements.take (behind - offset)).drop (first - offset) := by
  induction elements generalizing offset with
  | nil => simp
  | cons head rest ih =>
      have later := ih (offset + 1)
      rw [List.zipIdx_cons]
      cases counted : behind - offset with
      | zero =>
          have outside : ¬(first ≤ offset ∧ offset < behind) := by omega
          have none : behind - (offset + 1) = 0 := by omega
          rw [List.filter_cons_of_neg (by simpa using outside), later, none, List.take_zero,
            List.take_zero]
          simp
      | succ count =>
          have countedLater : behind - (offset + 1) = count := by omega
          rw [List.take_succ_cons]
          cases skipped : first - offset with
          | zero =>
              have inside : first ≤ offset ∧ offset < behind := by omega
              have skippedLater : first - (offset + 1) = 0 := by omega
              rw [List.filter_cons_of_pos (by simpa using inside), List.map_cons, later,
                countedLater, skippedLater, List.drop_zero, List.drop_zero]
          | succ skip =>
              have outside : ¬(first ≤ offset ∧ offset < behind) := by omega
              have skippedLater : first - (offset + 1) = skip := by omega
              rw [List.filter_cons_of_neg (by simpa using outside), later, countedLater,
                skippedLater, List.drop_succ_cons]

/-- Of nothing, nothing is selected. -/
@[simp]
theorem select_nil (start stop : Int) : select ([] : List Element) start stop = [] :=
  List.sublist_nil.mp (select_sublist ..)

/-- What a range selects is what stands between its indices. -/
theorem select_eq_between (elements : List Element) (start stop : Int) :
    select elements start stop = between elements start stop := by
  have places : ∀ placed ∈ elements.zipIdx, placed.2 < elements.length := by
    intro placed member
    simpa using List.snd_lt_of_mem_zipIdx member
  unfold select
  cases resolved : resolve? elements.length start stop with
  | none =>
      refine Eq.symm (List.map_eq_nil_iff.mpr (List.filter_eq_nil_iff.mpr fun placed member inside => ?_))
      have found := (between_iff_resolve? (places placed member)).mp (of_decide_eq_true inside)
      simp [resolved] at found
  | some range =>
      calc range.slice elements
          = (elements.take (range.last + 1)).drop range.first := (cut_eq_slice ..).symm
        _ = (elements.zipIdx.filter fun placed =>
              range.first ≤ placed.2 ∧ placed.2 < range.last + 1).map Prod.fst :=
            (filter_zipIdx elements range.first (range.last + 1) 0).symm
        _ = between elements start stop := by
            refine congrArg (List.map Prod.fst) (List.filter_congr fun placed member => ?_)
            have same := @between_iff_resolve? _ start stop _ (places placed member)
            rw [resolved] at same
            rw [decide_eq_decide, Nat.lt_succ_iff]
            simpa [position] using same.symm

/-- From a position on are as many elements as a width, or all that are left. -/
theorem select_window (elements : List Element) (first : Nat) {width : Nat}
    (positive : 1 ≤ width) :
    select elements first ((first : Int) + width - 1) = (elements.drop first).take width := by
  rcases Nat.lt_or_ge first elements.length with inside | behind
  · let last := min (elements.length - 1) (first + width - 1)
    have resolved : resolve? elements.length first ((first : Int) + width - 1) =
        some ⟨first, last⟩ := by
      rw [resolve?_eq_some_iff]
      simp only [position, last]
      omega
    have counted : last + 1 - first = min width (elements.drop first).length := by
      rw [List.length_drop]
      omega
    calc select elements first ((first : Int) + width - 1)
        = slice ⟨first, last⟩ elements := by rw [select, resolved]
      _ = (elements.drop first).take (last + 1 - first) := rfl
      _ = (elements.drop first).take width := by rw [counted, ← List.take_take, List.take_length]
  · have unresolved : resolve? elements.length first ((first : Int) + width - 1) = none := by
      rw [resolve?, if_neg]
      simp only [position]
      omega
    rw [select, unresolved, List.drop_eq_nil_of_le behind, List.take_nil]

/-- Windows of one width, each where the one before it ends, are one after the
other what lies in front of the last one's end. -/
theorem flatten_windows (elements : List Element) {width : Nat} (positive : 1 ≤ width)
    (count : Nat) :
    ((List.range count).map fun window : Nat =>
        select elements (window * width) (window * width + width - 1)).flatten =
      elements.take (count * width) := by
  induction count with
  | zero => simp
  | succ count ih =>
      have next := select_window elements (count * width) positive
      rw [Int.natCast_mul] at next
      rw [List.range_succ, List.map_append, List.flatten_append, ih, List.map_singleton,
        List.flatten_singleton, next, Nat.succ_mul, List.take_add]

/-! ## Words -/

/-- The greatest length of a sequence in memory. -/
def longest : Nat := 0x7FFFFFFFFFFFFFFF

/-- The position that an index names, in words. -/
def positionWord? (length : Nat) (index : Int) : Option Int :=
  if index < 0 then word? (length + index) else word? index

/-- Resolves a range in words. Nothing is given if some number on the way is no
word. -/
def resolveWords? (length : Nat) (start stop : Int) : Option (Option IndexRange) := do
  let behind ← word? length
  let start ← positionWord? length start
  let stop ← positionWord? length stop
  let first := if start < 0 then 0 else start
  let last ← (if behind ≤ stop then word? (behind - 1) else some stop)
  return if last < first ∨ behind ≤ first then none else some ⟨first.toNat, last.toNat⟩

/-- Copies the elements of a range, in words. Nothing is given unless the range
is within the sequence. -/
def sliceWords? (range : IndexRange) (elements : List Element) : Option (List Element) := do
  let behind ← word? (range.last + 1)
  if range.first ≤ behind.toNat ∧ behind.toNat ≤ elements.length then
    some ((elements.drop range.first).take (behind.toNat - range.first))
  else none

/-- Copies the elements between two indices, in words. -/
def selectWords? (elements : List Element) (start stop : Int) : Option (List Element) := do
  match ← resolveWords? elements.length start stop with
  | none => return []
  | some range => range.sliceWords? elements

/-- Cuts off what lies behind a range, then what lies before it, in words.
Nothing is given if what is left first ends before the range. -/
def cutWords? (range : IndexRange) (elements : List Element) : Option (List Element) := do
  let behind ← word? (range.last + 1)
  let front := elements.take behind.toNat
  if range.first ≤ front.length then some (front.drop range.first) else none

theorem positionWord?_eq (fits : length ≤ longest) (isWord : IsWord index) :
    positionWord? length index = some (position length index) := by
  have inside : IsWord (position length index) := by
    simp only [IsWord, position, longest] at *
    split <;> omega
  rw [← word?_of_isWord inside, positionWord?, position]
  split <;> rfl

/-- No number on the way to the positions leaves the words. -/
theorem resolveWords?_eq (fits : length ≤ longest) (startWord : IsWord start)
    (stopWord : IsWord stop) :
    resolveWords? length start stop = some (resolve? length start stop) := by
  have behind : word? length = some (length : Int) := by
    apply word?_of_isWord
    simp only [IsWord, longest] at *
    omega
  have before : word? (length - 1) = some ((length : Int) - 1) := by
    apply word?_of_isWord
    simp only [IsWord, longest] at *
    omega
  have clamped : (if (length : Int) ≤ position length stop then some ((length : Int) - 1)
      else some (position length stop)) = some (min ((length : Int) - 1) (position length stop)) := by
    split <;> exact congrArg some (by omega)
  have raised : (if position length start < 0 then 0 else position length start) =
      max 0 (position length start) := by
    split <;> omega
  simp only [resolveWords?, behind, before, positionWord?_eq fits startWord,
    positionWord?_eq fits stopWord, Option.bind_eq_bind, Option.bind_some, Option.pure_def,
    clamped, raised, resolve?]
  congr 1
  split <;> split <;> first | rfl | omega

/-- The position behind a range within a sequence is a word. -/
theorem word?_behind (fits : elements.length ≤ longest) (inside : range.last < elements.length) :
    word? (range.last + 1) = some ((range.last + 1 : Nat) : Int) := by
  apply word?_of_isWord
  simp only [IsWord, longest] at *
  omega

theorem sliceWords?_eq (fits : elements.length ≤ longest) (ordered : range.first ≤ range.last)
    (inside : range.last < elements.length) :
    range.sliceWords? elements = some (range.slice elements) := by
  rw [sliceWords?, word?_behind fits inside]
  exact if_pos ⟨Nat.le_succ_of_le ordered, inside⟩

/-- To read between two words, words suffice. -/
theorem selectWords?_eq (fits : elements.length ≤ longest) (startWord : IsWord start)
    (stopWord : IsWord stop) :
    selectWords? elements start stop = some (select elements start stop) := by
  rw [selectWords?, resolveWords?_eq fits startWord stopWord, Option.bind_eq_bind,
    Option.bind_some, select]
  cases resolved : resolve? elements.length start stop with
  | none => rfl
  | some range =>
      obtain ⟨-, -, ordered, inside⟩ := resolve?_eq_some_iff.mp resolved
      exact sliceWords?_eq fits ordered inside

theorem cutWords?_eq (fits : elements.length ≤ longest) (ordered : range.first ≤ range.last)
    (inside : range.last < elements.length) :
    range.cutWords? elements = some (range.cut elements) := by
  have front : range.first ≤ (elements.take (range.last + 1)).length := by
    rw [List.length_take]
    omega
  rw [cutWords?, word?_behind fits inside]
  exact if_pos front

end IndexRange

end SharedState
