/-!
# Stable sorting

Insertion sort by a Boolean order. It rearranges its input, leaves an ordered
list as it is, and keeps entries that the order does not tell apart in the
order in which they came.
-/

namespace SharedState.Sorted

variable {Element : Type}

/-- Places an element in front of the first element that it may precede. -/
def insert (precedes : Element → Element → Bool) (element : Element) :
    List Element → List Element
  | [] => [element]
  | head :: rest =>
      if precedes element head then element :: head :: rest
      else head :: insert precedes element rest

/-- The elements in the given order. -/
def sort (precedes : Element → Element → Bool) : List Element → List Element
  | [] => []
  | head :: rest => insert precedes head (sort precedes rest)

/-- Every element precedes all later ones. -/
abbrev Ordered (precedes : Element → Element → Bool) (elements : List Element) : Prop :=
  elements.Pairwise fun earlier later => precedes earlier later = true

theorem perm_insert (precedes : Element → Element → Bool) (element : Element)
    (elements : List Element) : (insert precedes element elements).Perm (element :: elements) := by
  induction elements with
  | nil => exact List.Perm.refl _
  | cons head rest ih =>
      by_cases first : precedes element head = true
      · simp [insert, first]
      · simp only [insert, if_neg first]
        exact (ih.cons head).trans (List.Perm.swap element head rest)

theorem perm_sort (precedes : Element → Element → Bool) (elements : List Element) :
    (sort precedes elements).Perm elements := by
  induction elements with
  | nil => exact List.Perm.refl _
  | cons head rest ih => exact (perm_insert ..).trans (ih.cons head)

@[simp]
theorem mem_sort {precedes : Element → Element → Bool} {elements : List Element}
    {element : Element} : element ∈ sort precedes elements ↔ element ∈ elements :=
  (perm_sort precedes elements).mem_iff

theorem ordered_insert {precedes : Element → Element → Bool}
    (total : ∀ left right, precedes left right = true ∨ precedes right left = true)
    (transitive : ∀ {left middle right}, precedes left middle = true →
      precedes middle right = true → precedes left right = true)
    (element : Element) {elements : List Element} (ordered : Ordered precedes elements) :
    Ordered precedes (insert precedes element elements) := by
  induction elements with
  | nil => simp [insert]
  | cons head rest ih =>
      have parts := List.pairwise_cons.mp ordered
      by_cases first : precedes element head = true
      · simp only [insert, if_pos first]
        refine List.pairwise_cons.mpr ⟨fun other member => ?_, ordered⟩
        rcases List.mem_cons.mp member with rfl | member
        · exact first
        · exact transitive first (parts.1 other member)
      · simp only [insert, if_neg first]
        refine List.pairwise_cons.mpr ⟨fun other member => ?_, ih parts.2⟩
        rcases List.mem_cons.mp ((perm_insert ..).mem_iff.mp member) with rfl | member
        · exact (total head other).resolve_right first
        · exact parts.1 other member

theorem ordered_sort {precedes : Element → Element → Bool}
    (total : ∀ left right, precedes left right = true ∨ precedes right left = true)
    (transitive : ∀ {left middle right}, precedes left middle = true →
      precedes middle right = true → precedes left right = true)
    (elements : List Element) : Ordered precedes (sort precedes elements) := by
  induction elements with
  | nil => exact List.Pairwise.nil
  | cons head rest ih => exact ordered_insert total transitive head ih

theorem sort_eq_self {precedes : Element → Element → Bool} {elements : List Element}
    (ordered : Ordered precedes elements) : sort precedes elements = elements := by
  induction elements with
  | nil => rfl
  | cons head rest ih =>
      have parts := List.pairwise_cons.mp ordered
      rw [sort, ih parts.2]
      cases rest with
      | nil => rfl
      | cons next rest => simp [insert, parts.1 next List.mem_cons_self]

theorem sublist_insert (precedes : Element → Element → Bool) (element : Element)
    (elements : List Element) : elements.Sublist (insert precedes element elements) := by
  induction elements with
  | nil => exact List.nil_sublist _
  | cons head rest ih =>
      by_cases first : precedes element head = true
      · simp [insert, first]
      · simp [insert, first, ih]

/-- An element is placed in front of all that it may precede. -/
theorem pair_sublist_insert {precedes : Element → Element → Bool} {earlier later : Element}
    {elements : List Element} (member : later ∈ elements)
    (may : precedes earlier later = true) :
    [earlier, later].Sublist (insert precedes earlier elements) := by
  induction elements with
  | nil => cases member
  | cons head rest ih =>
      by_cases first : precedes earlier head = true
      · rw [insert, if_pos first]
        exact (List.singleton_sublist.mpr member).cons_cons earlier
      · rw [insert, if_neg first]
        rcases List.mem_cons.mp member with rfl | member
        · exact absurd may first
        · exact (ih member).cons head

/-- Sorting is stable: an element stays in front of a later one that it may precede. -/
theorem pair_sublist_sort {precedes : Element → Element → Bool} {earlier later : Element}
    {elements : List Element} (before : [earlier, later].Sublist elements)
    (may : precedes earlier later = true) :
    [earlier, later].Sublist (sort precedes elements) := by
  induction elements with
  | nil => cases before
  | cons head rest ih =>
      cases before with
      | cons _ inside => exact (ih inside).trans (sublist_insert ..)
      | cons_cons _ behind =>
          have member : later ∈ sort precedes rest := mem_sort.mpr (List.singleton_sublist.mp behind)
          exact pair_sublist_insert member may

/-- An element that may precede all others is placed in front of them. -/
theorem insert_eq_cons {precedes : Element → Element → Bool} {element : Element}
    {elements : List Element} (first : ∀ other ∈ elements, precedes element other = true) :
    insert precedes element elements = element :: elements := by
  cases elements with
  | nil => rfl
  | cons head rest => simp [insert, first head List.mem_cons_self]

/-- An element is placed among the others as it is placed among some of them. -/
theorem filter_insert {precedes : Element → Element → Bool}
    (transitive : ∀ {left middle right}, precedes left middle = true →
      precedes middle right = true → precedes left right = true)
    (keep : Element → Bool) (element : Element) {elements : List Element}
    (ordered : Ordered precedes elements) :
    (insert precedes element elements).filter keep =
      if keep element then insert precedes element (elements.filter keep)
      else elements.filter keep := by
  induction elements with
  | nil => simp [insert, List.filter_cons]
  | cons head rest ih =>
      have parts := List.pairwise_cons.mp ordered
      by_cases first : precedes element head = true
      · have all : ∀ other ∈ (head :: rest).filter keep, precedes element other = true := by
          intro other member
          rcases List.mem_cons.mp (List.mem_filter.mp member).1 with rfl | member
          · exact first
          · exact transitive first (parts.1 other member)
        rw [insert_eq_cons all, insert, if_pos first, List.filter_cons]
      · rw [insert, if_neg first, List.filter_cons, List.filter_cons, ih parts.2]
        by_cases kept : keep head = true
        · simp only [kept, if_true, insert, if_neg first]
          split <;> rfl
        · simp only [kept, Bool.false_eq_true, if_false]

/-- The order in which some elements are put does not depend on the others. -/
theorem filter_sort {precedes : Element → Element → Bool}
    (total : ∀ left right, precedes left right = true ∨ precedes right left = true)
    (transitive : ∀ {left middle right}, precedes left middle = true →
      precedes middle right = true → precedes left right = true)
    (keep : Element → Bool) (elements : List Element) :
    (sort precedes elements).filter keep = sort precedes (elements.filter keep) := by
  induction elements with
  | nil => rfl
  | cons head rest ih =>
      have placed : (insert precedes head (sort precedes rest)).filter keep = _ :=
        filter_insert @transitive keep head (ordered_sort total transitive rest)
      rw [sort, placed, ih, List.filter_cons]
      split <;> rfl

end SharedState.Sorted
