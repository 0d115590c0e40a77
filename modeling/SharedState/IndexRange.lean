/-!
# Index ranges

A range of positions of a sequence is given by two indices, both included.
A negative index counts from the end, so `-1` is the last position. Resolving
a range against a length cuts it down to the positions that exist.
-/

namespace SharedState

/-- A non-empty run of positions, both ends included. -/
structure IndexRange where
  first : Nat
  last : Nat
deriving DecidableEq

namespace IndexRange

/-- The position that an index names; it may lie outside of the sequence. -/
def position (length : Nat) (index : Int) : Int :=
  if index < 0 then length + index else index

/-- The positions of a sequence between two indices, if there are any. -/
def resolve? (length : Nat) (start stop : Int) : Option IndexRange :=
  let first := max 0 (position length start)
  let last := min ((length : Int) - 1) (position length stop)
  if first ≤ last ∧ first < length then some ⟨first.toNat, last.toNat⟩ else none

/-- Copies the elements at the positions of a range. -/
def slice {Element : Type} (range : IndexRange) (elements : List Element) : List Element :=
  (elements.drop range.first).take (range.last + 1 - range.first)

/-- Cuts off what lies behind a range, then what lies before it. -/
def cut {Element : Type} (range : IndexRange) (elements : List Element) : List Element :=
  (elements.take (range.last + 1)).drop range.first

theorem cut_eq_slice {Element : Type} (range : IndexRange) (elements : List Element) :
    range.cut elements = range.slice elements := by
  rw [cut, slice, List.drop_take]

/-- A position is in the resolved range exactly if it exists and lies between
the two positions that the indices name. -/
theorem resolve?_eq_some_iff {length : Nat} {start stop : Int} {range : IndexRange} :
    resolve? length start stop = some range ↔
      (range.first : Int) = max 0 (position length start) ∧
        (range.last : Int) = min ((length : Int) - 1) (position length stop) ∧
          range.first ≤ range.last ∧ range.last < length := by
  obtain ⟨first, last⟩ := range
  simp only [resolve?]
  split
  · rename_i inside
    simp only [Option.some.injEq, mk.injEq]
    omega
  · rename_i outside
    simp only [reduceCtorEq, false_iff]
    omega

/-- The elements of a sequence between two indices. -/
def select {Element : Type} (elements : List Element) (start stop : Int) : List Element :=
  match resolve? elements.length start stop with
  | some range => range.slice elements
  | none => []

/-- From the first position to the last is everything. -/
theorem select_all {Element : Type} (elements : List Element) :
    select elements 0 (-1) = elements := by
  cases elements with
  | nil => rfl
  | cons head rest =>
      have whole : resolve? (head :: rest).length 0 (-1) = some ⟨0, rest.length⟩ := by
        rw [resolve?_eq_some_iff, List.length_cons]
        simp only [position]
        omega
      rw [select, whole]
      simp [slice]

/-- A range leaves the elements in their order. -/
theorem select_sublist {Element : Type} (elements : List Element) (start stop : Int) :
    (select elements start stop).Sublist elements := by
  unfold select
  split
  · exact (List.take_sublist ..).trans (List.drop_sublist ..)
  · exact List.nil_sublist elements

end IndexRange

end SharedState
