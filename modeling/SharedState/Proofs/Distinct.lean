import Mathlib.Data.List.Dedup

/-!
# Counting distinct elements

A list may name an element more than once. What takes elements out one after
the other counts an element the first time it is named, which amounts to
counting among the distinct elements. Of two lists that name the same elements
once, it does not matter in which one is counted.
-/

namespace SharedState

variable {Element : Type}

/-- Counting elements is counting what stands for them. -/
theorem countP_eq_countP {Name : Type} {elements : List Element} {names : List Name}
    {named : Name → Element} {counts : Element → Bool} {namesCounted : Name → Bool}
    (distinct : elements.Nodup) (namedDistinct : (names.map named).Nodup)
    (same : ∀ element, element ∈ elements ∧ counts element = true ↔
      ∃ name ∈ names, namesCounted name = true ∧ named name = element) :
    elements.countP counts = names.countP namesCounted := by
  have rearranged : (elements.filter counts).Perm ((names.filter namesCounted).map named) := by
    rw [List.perm_ext_iff_of_nodup (distinct.filter counts)
      (namedDistinct.sublist (List.filter_sublist.map named))]
    intro element
    rw [List.mem_filter, same, List.mem_map]
    simp only [List.mem_filter, and_assoc]
  rw [List.countP_eq_length_filter, rearranged.length_eq, List.length_map,
    ← List.countP_eq_length_filter]

/-- Where names are distinct, one element bears the name of an element. -/
theorem perm_cons_filter_ne {Name : Type} [DecidableEq Name] {elements : List Element}
    {name : Element → Name} (distinct : (elements.map name).Nodup) {element : Element}
    (member : element ∈ elements) :
    elements.Perm (element :: elements.filter fun other => name other ≠ name element) := by
  have others : (elements.filter fun other => name other ≠ name element).Nodup :=
    distinct.of_map.filter _
  have apart : element ∉ elements.filter fun other => name other ≠ name element := by simp
  rw [List.perm_ext_iff_of_nodup distinct.of_map (List.nodup_cons.mpr ⟨apart, others⟩)]
  intro other
  rw [List.mem_cons, List.mem_filter, decide_eq_true_eq]
  constructor
  · intro there
    by_cases same : name other = name element
    · exact Or.inl (List.inj_on_of_nodup_map distinct there member same)
    · exact Or.inr ⟨there, same⟩
  · rintro (rfl | ⟨there, -⟩)
    · exact member
    · exact there

variable [DecidableEq Element]

/-- The head of a list counts once, and then no more. -/
theorem countP_dedup_cons (counts : Element → Bool) (head : Element) (rest : List Element) :
    (head :: rest).dedup.countP counts =
      (counts head).toNat +
        rest.dedup.countP fun element => decide (element ≠ head) && counts element := by
  by_cases member : head ∈ rest
  · have split := (List.perm_cons_erase (List.mem_dedup.mpr member)).countP_eq counts
    rw [List.dedup_cons_of_mem member, split, (List.nodup_dedup rest).erase_eq_filter,
      List.countP_cons, List.countP_filter, Nat.add_comm]
    congr 1
    · cases counts head <;> rfl
    · apply List.countP_congr
      intro element _
      simp [and_comm]
  · have others : rest.dedup.countP counts =
        rest.dedup.countP fun element => decide (element ≠ head) && counts element := by
      apply List.countP_congr
      intro element inside
      have different : element ≠ head := fun same => member (same ▸ List.mem_dedup.mp inside)
      simp [different]
    rw [List.dedup_cons_of_notMem member, List.countP_cons, others, Nat.add_comm]
    cases counts head <;> rfl

end SharedState
