import SharedState.Lists
import SharedState.Proofs.IndexRange
import SharedState.Proofs.Refinement

/-!
# Lists are sequences

The reference for lists is a family of sequences, one under every key, of which
a key that is not in use has the empty one. Pushing puts the elements in front
in reverse, and both reading and trimming go by the positions between two
indices. Lists under keys answer every run of calls as the sequences do. They do
so in machine words as well: no sum overflows, and no position is outside of a
list.
-/

namespace SharedState

/-- Sequences under keys. -/
abbrev Sequences := String → List String

namespace Sequences

/-- The empty sequence under every key. -/
def empty : Sequences := fun _ => []

/-- Replaces the sequence under a key. -/
def put (sequences : Sequences) (key : String) (sequence : List String) : Sequences :=
  fun other => if other = key then sequence else sequences other

/-- Takes one step. -/
def step (sequences : Sequences) : Upkeep Lists.Command → Answer × Sequences
  | .call (.push key values) =>
      let pushed := values.reverse ++ sequences key
      (.count pushed.length, sequences.put key pushed)
  | .call (.range key start stop) =>
      (.members (IndexRange.between (sequences key) start stop), sequences)
  | .call (.trim key start stop) =>
      (.done, sequences.put key (IndexRange.between (sequences key) start stop))
  | .call (.length key) => (.count (sequences key).length, sequences)
  | .clear => (.done, empty)

/-- To replace a sequence by itself changes nothing. -/
theorem put_self (sequences : Sequences) (key : String) :
    sequences.put key (sequences key) = sequences := by
  funext other
  rw [put]
  split
  · next same => rw [same]
  · rfl

end Sequences

namespace Lists

/-- The indices of a call are words. -/
def Command.InWords : Command → Prop
  | .range _ start stop => IsWord start ∧ IsWord stop
  | .trim _ start stop => IsWord start ∧ IsWord stop
  | .push .. => True
  | .length _ => True

/-- Carries out a call in words. Nothing is given if a sum overflows or a
position is outside of the list. -/
def applyWords? (lists : Lists) : Command → Option (Answer × Lists)
  | .range key start stop =>
      match lists.tables.get? key with
      | none => some (.members [], lists)
      | some elements => do
          match ← IndexRange.resolveWords? elements.length start stop with
          | none => return (.members [], lists)
          | some range => return (.members (← range.sliceWords? elements), lists)
  | .trim key start stop =>
      match lists.tables.get? key with
      | none => some (.done, lists)
      | some elements => do
          match ← IndexRange.resolveWords? elements.length start stop with
          | none => return (.done, ⟨lists.tables.erase key⟩)
          | some range => return (.done, ⟨lists.tables.put key (← range.cutWords? elements)⟩)
  | .push key values => some (lists.push key values)
  | .length key => some (lists.length key, lists)

variable {lists : Lists} {key : String} {start stop : Int}

/-! ## Each step is a step of sequences -/

theorem elements_put (lists : Lists) (key : String) (kept : List String) :
    elements ⟨lists.tables.put key kept⟩ = Sequences.put lists.elements key kept := by
  funext other
  by_cases same : other = key <;> simp [elements, Sequences.put, same]

theorem elements_erase (lists : Lists) (key : String) :
    elements ⟨lists.tables.erase key⟩ = Sequences.put lists.elements key [] := by
  funext other
  by_cases same : other = key <;> simp [elements, Sequences.put, same]

theorem push_eq (key : String) (values : List String) (lists : Lists) :
    ((lists.push key values).1, (lists.push key values).2.elements) =
      Sequences.step lists.elements (.call (.push key values)) := by
  rw [push]
  cases values with
  | nil => simp [Sequences.step, Sequences.put_self]
  | cons value rest => simp [Sequences.step, pushAll_eq, elements_put]

theorem trim_fst (key : String) (start stop : Int) (lists : Lists) :
    (lists.trim key start stop).1 = .done := by
  unfold trim
  split
  · rfl
  · split <;> rfl

theorem elements_of_none (absent : lists.tables.get? key = none) : lists.elements key = [] := by
  simp [elements, absent]

theorem elements_of_some {kept : List String} (found : lists.tables.get? key = some kept) :
    lists.elements key = kept := by
  simp [elements, found]

/-- What is left of a list is what a reader would have been given of it. -/
theorem elements_trim (key : String) (start stop : Int) (lists : Lists) :
    (lists.trim key start stop).2.elements =
      Sequences.put lists.elements key
        (IndexRange.select (lists.elements key) start stop) := by
  unfold trim
  cases found : lists.tables.get? key with
  | none =>
      have nothing := elements_of_none found
      rw [nothing, IndexRange.select_nil, ← nothing, Sequences.put_self]
  | some kept =>
      simp only [elements_of_some found, IndexRange.select]
      cases IndexRange.resolve? kept.length start stop with
      | none => exact elements_erase lists key
      | some range =>
          simp only [← range.cut_eq_slice kept]
          exact elements_put lists key (range.cut kept)

theorem step_eq (lists : Lists) (event : Upkeep Command) :
    ((step lists event).1, (step lists event).2.elements) =
      Sequences.step lists.elements event := by
  cases event with
  | clear => rfl
  | call command =>
      cases command with
      | push key values => exact push_eq key values lists
      | range key start stop =>
          simp only [step, apply, range, Sequences.step, IndexRange.select_eq_between]
      | trim key start stop =>
          simp only [step, apply, Sequences.step, trim_fst, elements_trim,
            IndexRange.select_eq_between]
      | length key => rfl

/-! ## Words suffice -/

/-- In words a call does what it does in unbounded numbers. -/
theorem applyWords?_eq {command : Command} (inWords : command.InWords)
    (fits : ∀ key, (lists.elements key).length ≤ IndexRange.longest) :
    lists.applyWords? command = some (lists.apply command) := by
  cases command with
  | push key values => rfl
  | length key => rfl
  | range key start stop =>
      rw [applyWords?, apply, range]
      cases found : lists.tables.get? key with
      | none => rw [elements_of_none found, IndexRange.select_nil]
      | some kept =>
          have there := elements_of_some found
          have keptFits := there ▸ fits key
          simp only [there]
          rw [IndexRange.resolveWords?_eq keptFits inWords.1 inWords.2, IndexRange.select]
          cases resolved : IndexRange.resolve? kept.length start stop with
          | none => rfl
          | some range =>
              obtain ⟨-, -, ordered, inside⟩ := IndexRange.resolve?_eq_some_iff.mp resolved
              rw [Option.bind_eq_bind, Option.bind_some]
              simp only
              rw [IndexRange.sliceWords?_eq keptFits ordered inside]
              rfl
  | trim key start stop =>
      rw [applyWords?, apply, trim]
      cases found : lists.tables.get? key with
      | none => rfl
      | some kept =>
          have keptFits := elements_of_some found ▸ fits key
          simp only
          rw [IndexRange.resolveWords?_eq keptFits inWords.1 inWords.2]
          cases resolved : IndexRange.resolve? kept.length start stop with
          | none => rfl
          | some range =>
              obtain ⟨-, -, ordered, inside⟩ := IndexRange.resolve?_eq_some_iff.mp resolved
              rw [Option.bind_eq_bind, Option.bind_some]
              simp only
              rw [IndexRange.cutWords?_eq keptFits ordered inside]
              rfl

/-- Every run of calls on lists under any keys is answered as by sequences, for
which pushing prepends in reverse, reading gives what is at the positions between
two indices, and trimming leaves just that. Wherever a run leads, a call whose
indices are words is carried out in words, provided that the lists fit into
memory. -/
theorem lists_eq_sequences (steps : List (Upkeep Command)) :
    (run step empty steps).1 = (run Sequences.step Sequences.empty steps).1 ∧
      ∀ command : Command, command.InWords →
        (∀ key, ((run step empty steps).2.elements key).length ≤ IndexRange.longest) →
          (run step empty steps).2.applyWords? command =
            some ((run step empty steps).2.apply command) := by
  constructor
  · exact congrArg Prod.fst (run_eq_of_step step_eq empty steps)
  · exact fun command inWords fits => applyWords?_eq inWords fits

/-- A list is trimmed and read between the least and the greatest words. -/
theorem lists_eq_sequences_extreme :
    let least : Int := -0x8000000000000000
    let greatest : Int := 0x7FFFFFFFFFFFFFFF
    let steps : List (Upkeep Command) :=
      [.call (.push "k" ["a", "b", "c"]), .call (.trim "k" 1 greatest), .call (.push "k" []),
        .call (.range "k" least (-2)), .call (.range "k" (-1) greatest)]
    let reached := (run step empty steps).2
    (run step empty steps).1 =
        [.count 3, .done, .count 2, .members ["b"], .members ["a"]] ∧
      (Command.trim "k" least (-2)).InWords ∧
      (∀ key, (reached.elements key).length ≤ IndexRange.longest) ∧
      reached.applyWords? (.trim "k" least (-2)) =
        some (.done, ⟨Table.empty.put "k" ["b"]⟩) := by
  intro least greatest steps reached
  have kept : reached = ⟨Table.empty.put "k" ["b", "a"]⟩ := by decide
  have inWords : (Command.trim "k" least (-2)).InWords := ⟨by decide, by decide⟩
  have fits : ∀ key, (reached.elements key).length ≤ IndexRange.longest := by
    intro key
    rw [kept, elements_put, Sequences.put]
    split
    · decide
    · exact Nat.zero_le _
  obtain ⟨answers, words⟩ := lists_eq_sequences steps
  refine ⟨answers.trans (by decide), inWords, fits, ?_⟩
  rw [words _ inWords fits]
  decide

end Lists

end SharedState
