import Mathlib.Data.List.FinRange
import Mathlib.Data.List.Perm.Basic

/-!
# Interleavings

Several sequences are interleaved by taking, again and again, the head of any
of them that is not used up. No order is kept between different sequences. An
interleaving rearranges what the sequences contain, and contains each of them
in its order.
-/

namespace SharedState

variable {Element : Type} {sequences : List (List Element)} {merged : List Element}

/-- A list is made up of sequences whose elements it takes in their order. -/
inductive Interleaves : List (List Element) → List Element → Prop where
  /-- All sequences are used up. -/
  | done {sequences : List (List Element)} (usedUp : ∀ sequence ∈ sequences, sequence = []) :
      Interleaves sequences []
  /-- The next element is the head of one of the sequences. -/
  | take {front back : List (List Element)} {head : Element} {rest merged : List Element}
      (later : Interleaves (front ++ rest :: back) merged) :
      Interleaves (front ++ (head :: rest) :: back) (head :: merged)

namespace Interleaves

theorem perm (interleaves : Interleaves sequences merged) : merged.Perm sequences.flatten := by
  induction interleaves with
  | done usedUp => rw [List.flatten_eq_nil_iff.mpr usedUp]
  | take later ih =>
      simp only [List.flatten_append, List.flatten_cons, List.cons_append] at ih ⊢
      exact (ih.cons _).trans List.perm_middle.symm

theorem sublist (interleaves : Interleaves sequences merged) {sequence : List Element}
    (member : sequence ∈ sequences) : sequence.Sublist merged := by
  induction interleaves generalizing sequence with
  | done usedUp =>
      rw [usedUp sequence member]
  | @take front back head rest merged later ih =>
      rcases List.mem_append.mp member with before | here
      · exact (ih (List.mem_append_left _ before)).cons head
      · rcases List.mem_cons.mp here with rfl | behind
        · exact (ih (List.mem_append_right _ List.mem_cons_self)).cons_cons head
        · exact (ih (List.mem_append_right _ (List.mem_cons_of_mem _ behind))).cons head

/-- Sequences that come after used up ones may be taken one after the other. -/
theorem append_flatten {front : List (List Element)} (usedUp : ∀ sequence ∈ front, sequence = [])
    (sequences : List (List Element)) : Interleaves (front ++ sequences) sequences.flatten := by
  induction sequences generalizing front with
  | nil => exact done (by simpa using usedUp)
  | cons sequence rest ih =>
      induction sequence with
      | nil =>
          have longer : ∀ sequence ∈ front ++ [[]], sequence = [] := by
            simpa [or_imp, forall_and] using usedUp
          simpa using ih longer
      | cons head tail ihTail => exact take ihTail

/-- One sequence after the other. -/
theorem flatten (sequences : List (List Element)) : Interleaves sequences sequences.flatten := by
  have none : ∀ sequence ∈ ([] : List (List Element)), sequence = [] := List.forall_mem_nil _
  exact append_flatten none sequences

end Interleaves

end SharedState
