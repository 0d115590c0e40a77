import SharedState.Proofs.Lists.Sequences

/-!
# Capped histories

Whoever keeps the latest entries of a history pushes every batch of them to a
list and then trims the list to a limit. An entry that is trimmed away stands
behind as many later ones as the limit, and more are yet to come in front of
it, so no later trim would have kept it: after each trim the list holds the
latest of all entries, and trimming once at the end comes to the same.
-/

namespace SharedState

namespace IndexRange

variable {Element : Type}

/-- From the first position to the last one below a limit is as much as the
limit allows. -/
theorem select_below (elements : List Element) {limit : Nat} (positive : 1 ≤ limit) :
    select elements 0 ((limit : Int) - 1) = elements.take limit := by
  simpa using select_window elements 0 positive

end IndexRange

namespace Sequences

/-- The later of two sequences under a key counts. -/
theorem put_put (sequences : Sequences) (key : String) (earlier later : List String) :
    (sequences.put key earlier).put key later = sequences.put key later := by
  funext other
  simp only [put]
  split <;> rfl

theorem put_same (sequences : Sequences) (key : String) (sequence : List String) :
    sequences.put key sequence key = sequence :=
  if_pos rfl

end Sequences

namespace Lists

variable {key : String} {limit : Nat}

/-- Cuts a list down to a limit. -/
def cap (key : String) (limit : Nat) : Upkeep Command := .call (.trim key 0 ((limit : Int) - 1))

/-- Pushes batches to a list, and cuts it down to a limit after each. -/
def history (key : String) (limit : Nat) (batches : List (List String)) : List (Upkeep Command) :=
  batches.flatMap fun batch => [.call (.push key batch), cap key limit]

/-! ## One step -/

theorem elements_step_push (lists : Lists) (key : String) (values : List String) :
    (step lists (.call (.push key values))).2.elements =
      Sequences.put lists.elements key (values.reverse ++ lists.elements key) :=
  congrArg Prod.snd (push_eq key values lists)

theorem elements_step_cap (lists : Lists) (key : String) (positive : 1 ≤ limit) :
    (step lists (cap key limit)).2.elements =
      Sequences.put lists.elements key ((lists.elements key).take limit) := by
  rw [← IndexRange.select_below _ positive]
  exact elements_trim key 0 ((limit : Int) - 1) lists

/-! ## Whole histories -/

/-- What is pushed in several batches stands in front of what was there. -/
theorem elements_run_push (lists : Lists) (key : String) (batches : List (List String)) :
    (run step lists (batches.map fun batch => .call (.push key batch))).2.elements =
      Sequences.put lists.elements key (batches.flatten.reverse ++ lists.elements key) := by
  induction batches generalizing lists with
  | nil => exact (Sequences.put_self ..).symm
  | cons batch rest ih =>
      rw [List.map_cons, run_cons, ih, elements_step_push, Sequences.put_put, Sequences.put_same,
        List.flatten_cons, List.reverse_append, List.append_assoc]

/-- Cutting off early what a limit will cut off does not change what it leaves. -/
theorem take_append_take {Element : Type} (limit : Nat) (front back : List Element) :
    (front ++ back.take limit).take limit = (front ++ back).take limit := by
  rw [List.take_append, List.take_append, List.take_take, Nat.min_eq_left (Nat.sub_le ..)]

/-- After a history the list holds the latest of all entries. -/
theorem elements_run_history (lists : Lists) (key : String) (positive : 1 ≤ limit)
    {batches : List (List String)} (any : batches ≠ []) :
    (run step lists (history key limit batches)).2.elements =
      Sequences.put lists.elements key
        ((batches.flatten.reverse ++ lists.elements key).take limit) := by
  induction batches generalizing lists with
  | nil => exact absurd rfl any
  | cons batch rest ih =>
      let pushed := (step lists (.call (.push key batch))).2
      let capped := (step pushed (cap key limit)).2
      have first : capped.elements =
          Sequences.put lists.elements key ((batch.reverse ++ lists.elements key).take limit) := by
        rw [elements_step_cap pushed key positive, elements_step_push, Sequences.put_put,
          Sequences.put_same]
      change (run step capped (history key limit rest)).2.elements = _
      cases rest with
      | nil => simpa [history] using first
      | cons next others =>
          rw [ih capped (List.cons_ne_nil next others), first, Sequences.put_put,
            Sequences.put_same, take_append_take, List.flatten_cons (l := batch),
            List.reverse_append, List.append_assoc]

/-- A history takes two steps for each batch. -/
theorem take_history (key : String) (limit : Nat) (batches : List (List String)) (count : Nat) :
    (history key limit batches).take (2 * count) = history key limit (batches.take count) := by
  induction batches generalizing count with
  | nil => simp [history]
  | cons batch rest ih =>
      cases count with
      | zero => rfl
      | succ count =>
          have later : (history key limit rest).take (2 * count) = _ := ih count
          rw [Nat.mul_succ, List.take_succ_cons]
          exact congrArg (.call (.push key batch) :: cap key limit :: ·) later

/-- After each trim of a history the list holds the latest of all entries that
were pushed so far and of those that were there before, as many as the limit
allows, and no other list has changed. It ends as if everything had been pushed
first and trimmed once. Every trim to a limit that is in reach of the indices is
carried out in words. -/
theorem history_keeps_latest (lists : Lists) (key : String) (positive : 1 ≤ limit)
    (batches : List (List String)) :
    (∀ count, 1 ≤ count → count ≤ batches.length →
      let reached := (run step lists ((history key limit batches).take (2 * count))).2
      reached.elements =
          Sequences.put lists.elements key
            (((batches.take count).flatten.reverse ++ lists.elements key).take limit) ∧
        (reached.elements key).length ≤ limit) ∧
      (batches ≠ [] →
        (run step lists (history key limit batches)).2.elements =
          (run step lists
            ((batches.map fun batch => .call (.push key batch)) ++ [cap key limit])).2.elements) ∧
      (IsWord ((limit : Int) - 1) → ∀ reached : Lists,
        (∀ other, (reached.elements other).length ≤ IndexRange.longest) →
          reached.applyWords? (.trim key 0 ((limit : Int) - 1)) =
            some (step reached (cap key limit))) := by
  refine ⟨?_, ?_, ?_⟩
  · intro count trimmed inside reached
    have any : batches.take count ≠ [] := by
      apply List.ne_nil_of_length_pos
      rw [List.length_take]
      omega
    have latest : reached.elements = Sequences.put lists.elements key
        (((batches.take count).flatten.reverse ++ lists.elements key).take limit) := by
      rw [← elements_run_history lists key positive any, ← take_history]
    refine ⟨latest, ?_⟩
    rw [latest, Sequences.put_same]
    exact List.length_take_le limit _
  · intro any
    rw [run_append, run_cons, run_nil, elements_step_cap _ key positive, elements_run_push,
      Sequences.put_put, Sequences.put_same, elements_run_history lists key positive any]
  · intro inWords reached fits
    have both : (Command.trim key 0 ((limit : Int) - 1)).InWords := ⟨by decide, inWords⟩
    exact applyWords?_eq both fits

/-- A batch that fills what is left, one that is longer than the limit and one
that is shorter; and a trim to the greatest limit that the indices reach. -/
theorem history_keeps_latest_straddling :
    let lists : Lists := ⟨Table.empty.put "k" ["z"]⟩
    let batches := [["a"], ["b", "c", "d"], ["e"]]
    (1 ≤ 2 ∧ batches ≠ [] ∧ 1 ≤ batches.length ∧
        (run step lists ((history "k" 2 batches).take 2)).2.elements "k" = ["a", "z"] ∧
        (run step lists (history "k" 2 batches)).2.elements "k" = ["e", "d"]) ∧
      1 ≤ 0x8000000000000000 ∧ IsWord (((0x8000000000000000 : Nat) : Int) - 1) ∧
        (∀ other, (lists.elements other).length ≤ IndexRange.longest) ∧
        lists.applyWords? (.trim "k" 0 (((0x8000000000000000 : Nat) : Int) - 1)) =
          some (.done, lists) := by
  intro lists batches
  have any : batches ≠ [] := by decide
  have inside : 1 ≤ batches.length := by decide
  have inWords : IsWord (((0x8000000000000000 : Nat) : Int) - 1) := by decide
  have fits : ∀ other, (lists.elements other).length ≤ IndexRange.longest := by
    intro other
    rw [elements_put, Sequences.put]
    split
    · decide
    · exact Nat.zero_le _
  have two : 1 ≤ 2 := by decide
  have greatest : 1 ≤ 0x8000000000000000 := by decide
  obtain ⟨latest, once, -⟩ := history_keeps_latest lists "k" two batches
  obtain ⟨-, -, words⟩ := history_keeps_latest lists "k" greatest batches
  have early := congrFun (latest 1 (Nat.le_refl 1) inside).1 "k"
  have late := congrFun (once any) "k"
  refine ⟨⟨two, any, inside, early.trans (by decide), late.trans (by decide)⟩, greatest, inWords,
    fits, ?_⟩
  rw [words inWords lists fits]
  decide

end Lists

end SharedState
