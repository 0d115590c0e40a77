import SharedState.Proofs.Tables
import SharedState.Proofs.Totals
import SharedState.Sets

/-!
# Moves on a set of names

What calls do to one place of a store often comes down to a set of names: the
keys, fields or members that are there. A call brings names in and counts
those that are new, or brings in a name and counts nothing, or takes names out
and counts those that were there. Each count is what the set grows or shrinks
by. So whatever the order of the moves, what they count together is told by
the sets at both ends.
-/

namespace SharedState.Workload

/-- What a call does to a set of names. -/
inductive Move where
  /-- Brings in names: how many are new. -/
  | gather (names : Finset String)
  /-- Brings in a name, and says nothing. -/
  | keep (name : String)
  /-- Takes names out: how many were there. -/
  | withdraw (names : Finset String)

namespace Move

/-- Carries out a move. -/
def step (present : Finset String) : Move → Nat × Finset String
  | gather names => ((names \ present).card, present ∪ names)
  | keep name => (0, insert name present)
  | withdraw names => ((present ∩ names).card, present \ names)

/-- The names that a move brings in. -/
def brought : Move → Finset String
  | gather names => names
  | keep name => {name}
  | withdraw _ => ∅

/-- The name that is brought in without a count. -/
def kept? : Move → Option String
  | keep name => some name
  | _ => none

/-- Whether a move brings in names that it counts. -/
def gathers : Move → Bool
  | gather _ => true
  | _ => false

variable {present : Finset String} {move : Move} {moves : List Move} {name : String}

theorem mem_step (there : name ∈ (step present move).2) : name ∈ present ∨ name ∈ move.brought := by
  cases move with
  | gather names => exact Finset.mem_union.mp there
  | keep other => exact (Finset.mem_insert.mp there).symm.imp_right Finset.mem_singleton.mpr
  | withdraw names => exact Or.inl (Finset.mem_sdiff.mp there).1

/-- What is there in the end was there or was brought in. -/
theorem mem_run (there : name ∈ (run step present moves).2) :
    name ∈ present ∨ ∃ move ∈ moves, name ∈ move.brought := by
  induction moves generalizing present with
  | nil => exact Or.inl there
  | cons first rest ih =>
      rcases ih there with soon | ⟨move, later, brings⟩
      · exact (mem_step soon).imp_right fun brings => ⟨first, List.mem_cons_self, brings⟩
      · exact Or.inr ⟨move, List.mem_cons_of_mem _ later, brings⟩

/-! ## Gathering -/

/-- Gathering counts what the set grows by. -/
theorem step_gather_add_card (present names : Finset String) :
    (step present (gather names)).1 + present.card = (present ∪ names).card := by
  rw [Finset.union_comm]
  exact Finset.card_sdiff_add_card names present

/-- A single name is new or not. -/
theorem step_gather_singleton {there : Bool} (same : name ∈ present ↔ there = true) :
    step present (gather {name}) = ((!there).toNat, insert name present) := by
  rw [step, Finset.union_singleton]
  cases there with
  | true => simp [same.mpr rfl]
  | false =>
      have absent : name ∉ present := fun there => nomatch same.mp there
      have apart : Disjoint {name} present := Finset.disjoint_singleton_left.mpr absent
      simp [Finset.sdiff_eq_self_of_disjoint apart]

/-- Names may be gathered one after the other. -/
theorem step_gather_insert {there : Bool} (same : name ∈ present ↔ there = true)
    (names : Finset String) :
    step present (gather (insert name names)) =
      ((!there).toNat + (step (insert name present) (gather names)).1,
        (step (insert name present) (gather names)).2) := by
  have joined : present ∪ insert name names = insert name present ∪ names := by
    rw [Finset.union_insert, Finset.insert_union]
  have all := step_gather_add_card present (insert name names)
  have first := step_gather_add_card present {name}
  have rest := step_gather_add_card (insert name present) names
  rw [step_gather_singleton same, Finset.union_singleton] at first
  rw [joined] at all
  exact Prod.ext (by omega) joined

/-- Withdrawing counts what the set shrinks by. -/
theorem step_withdraw_add_card (present names : Finset String) :
    (step present (withdraw names)).1 + (step present (withdraw names)).2.card = present.card :=
  Finset.card_inter_add_card_sdiff present names

/-- Names may be withdrawn one after the other. -/
theorem step_withdraw_insert {there : Bool} (same : name ∈ present ↔ there = true)
    (names : Finset String) :
    step present (withdraw (insert name names)) =
      ((step (present.erase name) (withdraw names)).1 + (if there then 1 else 0),
        (step (present.erase name) (withdraw names)).2) := by
  have first : (present.erase name).card + (if there then 1 else 0) = present.card := by
    cases there with
    | true => exact Finset.card_erase_add_one (same.mpr rfl)
    | false =>
        have absent : name ∉ present := fun there => nomatch same.mp there
        rw [Finset.erase_eq_of_notMem absent]
        rfl
  have left : present \ insert name names = present.erase name \ names := by
    rw [Finset.sdiff_insert, Finset.erase_sdiff_comm]
  have all := step_withdraw_add_card present (insert name names)
  have rest := step_withdraw_add_card (present.erase name) names
  have cards : (present \ insert name names).card = (present.erase name \ names).card :=
    congrArg Finset.card left
  exact Prod.ext (by simp only [step] at *; omega) left

/-- Where names are only gathered, what was there or is brought in is there in the end. -/
theorem mem_run_of_gathers (gathering : ∀ move ∈ moves, move.gathers = true) :
    name ∈ (run step present moves).2 ↔ name ∈ present ∨ ∃ move ∈ moves, name ∈ move.brought := by
  refine ⟨mem_run, ?_⟩
  induction moves generalizing present with
  | nil =>
      rintro (there | ⟨move, ⟨⟩, -⟩)
      exact there
  | cons first rest ih =>
      obtain ⟨gathersFirst, gatheringRest⟩ := List.forall_mem_cons.mp gathering
      cases first with
      | gather names =>
          intro given
          apply ih gatheringRest
          rcases given with there | ⟨move, member, brings⟩
          · exact Or.inl (Finset.mem_union_left _ there)
          · rcases List.mem_cons.mp member with rfl | later
            · exact Or.inl (Finset.mem_union_right _ brings)
            · exact Or.inr ⟨move, later, brings⟩
      | keep other => cases gathersFirst
      | withdraw names => cases gathersFirst

theorem gather_balanced :
    Balanced step (fun move => move.gathers = true) (fun _ => True) Finset.card
      (fun present move => (step present move).1) (fun _ _ => 0) where
  kept _ _ := trivial
  balance {present move} gathering _ := by
    cases move with
    | gather names => exact (step_gather_add_card present names).symm.trans (Nat.add_comm _ _)
    | keep name => cases gathering
    | withdraw names => cases gathering

theorem sum_run_of_gathers (gathering : ∀ move ∈ moves, move.gathers = true) :
    (run step present moves).1.sum + present.card = (run step present moves).2.card := by
  have balance := gather_balanced.run_balance present trivial gathering
  have summed := total_eq_sum_map step id present moves
  rw [List.map_id] at summed
  simp only [total_zero] at balance
  exact (Nat.add_comm _ _).trans ((congrArg _ summed.symm).trans balance.symm)

/-! ## Keeping and withdrawing -/

/-- Where names are kept once each and withdrawn, what is withdrawn and what is
left in the end is what was there and what is kept. -/
theorem sum_run_of_kept (silent : ∀ move ∈ moves, move.gathers = false)
    (once : (moves.filterMap kept?).Nodup) (fresh : ∀ name ∈ moves.filterMap kept?, name ∉ present) :
    (run step present moves).1.sum + (run step present moves).2.card =
      present.card + (moves.filterMap kept?).length := by
  induction moves generalizing present with
  | nil => simp
  | cons first rest ih =>
      obtain ⟨silentFirst, silentRest⟩ := List.forall_mem_cons.mp silent
      cases first with
      | gather names => cases silentFirst
      | keep name =>
          simp only [List.filterMap_cons, kept?, List.nodup_cons] at once fresh
          obtain ⟨freshFirst, freshRest⟩ := List.forall_mem_cons.mp fresh
          have apart : ∀ other ∈ rest.filterMap kept?, other ∉ insert name present := by
            intro other later
            rw [Finset.mem_insert, not_or]
            exact ⟨fun same => once.1 (same ▸ later), freshRest other later⟩
          have later := ih silentRest once.2 apart
          rw [Finset.card_insert_of_notMem freshFirst] at later
          simp only [run_cons, step, kept?, List.filterMap_cons, List.sum_cons, List.length_cons]
          omega
      | withdraw names =>
          simp only [List.filterMap_cons, kept?] at once fresh
          have apart : ∀ name ∈ rest.filterMap kept?, name ∉ present \ names :=
            fun name member there => fresh name member (Finset.mem_sdiff.mp there).1
          have later := ih silentRest once apart
          have split := Finset.card_inter_add_card_sdiff present names
          simp only [run_cons, step, kept?, List.filterMap_cons, List.sum_cons]
          omega

theorem kept?_of_brought (silent : move.gathers = false) (brings : name ∈ move.brought) :
    move.kept? = some name := by
  cases move with
  | gather names => cases silent
  | keep other => exact congrArg some (Finset.mem_singleton.mp brings).symm
  | withdraw names => simp [brought] at brings

/-- Of what was there nothing can be found in the end but what is kept. -/
theorem mem_kept_of_mem_run (silent : ∀ move ∈ moves, move.gathers = false)
    (there : name ∈ (run step present moves).2) (absent : name ∉ present) :
    name ∈ moves.filterMap kept? := by
  obtain ⟨move, member, brings⟩ := (mem_run there).resolve_left absent
  exact List.mem_filterMap.mpr ⟨move, member, kept?_of_brought (silent move member) brings⟩

/-- If each name that is kept is kept once and withdrawn later on, nothing is left. -/
theorem run_of_withdrawn (silent : ∀ move ∈ moves, move.gathers = false)
    (once : (moves.filterMap kept?).Nodup)
    (withdrawn : ∀ name ∈ moves.filterMap kept?,
      ∃ names, name ∈ names ∧ [keep name, withdraw names].Sublist moves) :
    (run step ∅ moves).2 = ∅ := by
  rw [Finset.eq_empty_iff_forall_notMem]
  intro name there
  have kept := mem_kept_of_mem_run silent there (Finset.notMem_empty name)
  obtain ⟨names, own, ordered⟩ := withdrawn name kept
  obtain ⟨front, rest, rfl, first, second⟩ := List.cons_sublist_iff.mp ordered
  obtain ⟨middle, back, rfl⟩ := List.append_of_mem (List.singleton_sublist.mp second)
  -- After it is withdrawn the name would have to be kept a second time.
  rw [run_append, run_append, run_cons] at there
  have again : name ∈ back.filterMap kept? := by
    refine mem_kept_of_mem_run (fun move member => silent move (by simp [member])) there ?_
    simp [step, own]
  have before : name ∈ front.filterMap kept? := List.mem_filterMap.mpr ⟨_, first, rfl⟩
  rw [List.filterMap_append, List.filterMap_append, List.nodup_append] at once
  exact once.2.2 name before name (List.mem_append_right _ again) rfl

end Move

end SharedState.Workload

namespace SharedState

open SharedState.Workload

/-! ## Moves on tables -/

/-- Names are added as they are gathered. -/
theorem NameSet.insertAll_moves (present : NameSet) (added : List String) :
    ((present.insertAll added).1, (present.insertAll added).2.names) =
      Move.step present.names (.gather added.toFinset) := by
  induction added generalizing present with
  | nil => simp [insertAll, Move.step]
  | cons name rest ih =>
      have later := ih (present.put name ())
      rw [Table.names_put] at later
      rw [List.toFinset_cons, Move.step_gather_insert Table.mem_names_iff_contains, ← later]
      rfl

/-- Keys are unbound as names are withdrawn. -/
theorem Table.eraseAll_moves {Value : Type} (table : Table String Value) (keys : List String) :
    ((table.eraseAll keys).1, (table.eraseAll keys).2.names) =
      Move.step table.names (.withdraw keys.toFinset) := by
  induction keys generalizing table with
  | nil => simp [eraseAll, Move.step]
  | cons key rest ih =>
      have later := ih (table.erase key)
      rw [Table.names_erase] at later
      rw [List.toFinset_cons, Move.step_withdraw_insert Table.mem_names_iff_contains, ← later]
      rfl

end SharedState
