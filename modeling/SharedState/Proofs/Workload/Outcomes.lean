import SharedState.Proofs.Workload.Calls
import SharedState.Proofs.Workload.Schedules

/-!
# What workloads come to

What a single action gives depends on those before it. What all actions of a
schedule come to does not: it is told by the task, the number of clients and
turns, and the capacity of the mailbox. Where names are gathered, every name is
new once, whoever comes first. What is deleted was written before and is there
once. A list grows by every push, and a mailbox fills up.
-/

namespace SharedState.Workload

open SharedState.Text

/-! ## Tasks and what they come to -/

/-- How much is in the containers that the tasks fill. -/
structure Extent where
  fields : Nat
  members : Nat
  ranked : Nat
  elements : Nat
deriving DecidableEq

/-- What a store has in these containers. -/
def extent (store : Store) : Extent where
  fields := (store.hashes.fields "h").size
  members := (store.sets.members "s").size
  ranked := (store.rankings.ranking "z").placings.length
  elements := (store.lists.elements "l").length

/-- A workload of which nothing is seen. -/
def Outcome.nothing : Outcome := ⟨0, Store.empty.counts, 0, 0, 0⟩

/-- Containers without content. -/
def Extent.nothing : Extent := ⟨0, 0, 0, 0⟩

/-- What a task comes to. -/
def Task.outcome (task : Task) (clients turns capacity : Nat) : Outcome :=
  let counts := Store.empty.counts
  let taken := min (clients * turns) (max capacity 1)
  match task with
  | .claimOne => { Outcome.nothing with total := 1, counts := { counts with values := 1 } }
  | .claim => { Outcome.nothing with total := turns, counts := { counts with values := turns } }
  | .delete => { Outcome.nothing with total := clients * turns }
  | .field => { Outcome.nothing with total := turns, counts := { counts with hashes := 1 } }
  | .member => { Outcome.nothing with total := turns + 1, counts := { counts with sets := 1 } }
  | .rank => { Outcome.nothing with total := turns, counts := { counts with rankings := 1 } }
  | .push =>
      { Outcome.nothing with
        total := 2 * (clients * turns)
        counts := { counts with lists := 1 } }
  | .publish =>
      { Outcome.nothing with
        total := taken
        received := taken
        delivered := taken
        dropped := clients * turns - taken }

/-- What a task leaves in the containers. -/
def Task.extent (task : Task) (clients turns : Nat) : Extent :=
  match task with
  | .field => { Extent.nothing with fields := turns }
  | .member => { Extent.nothing with members := turns + 1 }
  | .rank => { Extent.nothing with ranked := turns }
  | .push => { Extent.nothing with elements := 2 * (clients * turns) }
  | _ => Extent.nothing

/-! ## Tasks that gather names -/

/-- Whether all that is done in a task is to gather names. -/
def Task.gathers : Task → Bool
  | .delete | .push | .publish => false
  | _ => true

/-- The names that every client gathers in a turn. -/
def Task.names (task : Task) (turn : Nat) : Finset String :=
  match task with
  | .claimOne => {"k"}
  | .claim => {"k" ++ Decimal.ofNat turn}
  | .field | .rank => {Decimal.ofNat turn}
  | .member => {Decimal.ofNat turn, "same"}
  | _ => ∅

/-- Where a task holds names. -/
def Task.Holds (task : Task) (bus : Bus) : Finset String → Ground → Prop :=
  match task with
  | .field => Fields bus "h"
  | .member => Members bus "s"
  | .rank => Ranked bus "z"
  | _ => Keys bus

/-- The names that are gathered in so many turns. -/
def Task.allNames (task : Task) (turns : Nat) : Finset String :=
  (Finset.range turns).biUnion task.names

variable {clients turns : Nat} {choices : Choices clients turns} {task : Task}
  {schedule : List Action}

theorem Task.holds_empty (task : Task) (bus : Bus) : task.Holds bus ∅ ⟨Store.empty, bus⟩ := by
  cases task with
  | field => exact ⟨none, rfl, rfl⟩
  | member => exact ⟨none, rfl, rfl⟩
  | rank => exact ⟨none, Ranking.proper_empty, rfl, rfl⟩
  | _ => exact ⟨KeyValue.empty, KeyValue.fresh_empty, rfl, rfl⟩

/-- A turn of such a task is a single action, which gathers the names of that turn. -/
theorem Choices.turn_of_gathers (choices : Choices clients turns) (gathers : task.gathers = true)
    (bus : Bus) (client : Fin clients) (turn : Fin turns) :
    ∃ action, choices.turn task client turn = [action] ∧
      action.move? = some (.gather (task.names turn)) ∧ action.MovesIn (task.Holds bus) := by
  cases task with
  | claimOne => exact ⟨_, rfl, rfl, movesIn_keys bus rfl⟩
  | claim => exact ⟨_, rfl, rfl, movesIn_keys bus rfl⟩
  | field => exact ⟨_, rfl, rfl, movesIn_fields bus "h" _ _⟩
  | member => exact ⟨_, rfl, by simp [Action.move?, Task.names], movesIn_members bus "s" rfl⟩
  | rank => exact ⟨_, rfl, rfl, movesIn_ranked bus "z" _ (choices.isNumber client turn)⟩
  | _ => cases gathers

theorem Choices.Schedules.mem_moves_iff (schedules : choices.Schedules task schedule)
    (any : 0 < clients) (gathers : task.gathers = true) {move : Move} :
    move ∈ schedule.filterMap Action.move? ↔ ∃ turn < turns, move = .gather (task.names turn) := by
  have single := choices.turn_of_gathers gathers (listening 0 [] 0)
  rw [List.mem_filterMap]
  constructor
  · rintro ⟨action, member, means⟩
    obtain ⟨client, turn, taken⟩ := schedules.mem_iff.mp member
    obtain ⟨other, only, names, -⟩ := single client turn
    rw [only, List.mem_singleton] at taken
    subst taken
    exact ⟨turn, turn.isLt, Option.some.inj (means.symm.trans names)⟩
  · rintro ⟨turn, early, rfl⟩
    obtain ⟨action, only, names, -⟩ := single ⟨0, any⟩ ⟨turn, early⟩
    have taken : action ∈ choices.turn task ⟨0, any⟩ ⟨turn, early⟩ := by simp [only]
    exact ⟨action, schedules.mem_iff.mpr ⟨_, _, taken⟩, names⟩

/-- Whatever the schedule, each name that is gathered is new once. -/
theorem run_of_gathers (bus : Bus) (any : 0 < clients) (gathers : task.gathers = true)
    (schedules : choices.Schedules task schedule) :
    total (run step ⟨Store.empty, bus⟩ schedule).1 = (task.allNames turns).card ∧
      task.Holds bus (task.allNames turns) (run step ⟨Store.empty, bus⟩ schedule).2 := by
  have moving : ∀ action ∈ schedule, action.MovesIn (task.Holds bus) := by
    intro action member
    obtain ⟨client, turn, taken⟩ := schedules.mem_iff.mp member
    obtain ⟨other, only, -, moves⟩ := choices.turn_of_gathers gathers bus client turn
    rw [only, List.mem_singleton] at taken
    exact taken ▸ moves
  have gathering : ∀ move ∈ schedule.filterMap Action.move?, move.gathers = true := by
    intro move member
    obtain ⟨turn, -, rfl⟩ := (schedules.mem_moves_iff any gathers).mp member
    rfl
  have reached : (run Move.step ∅ (schedule.filterMap Action.move?)).2 = task.allNames turns := by
    ext name
    simp only [Move.mem_run_of_gathers gathering, schedules.mem_moves_iff any gathers,
      Task.allNames, Finset.mem_biUnion, Finset.mem_range]
    constructor
    · rintro (⟨⟨⟩⟩ | ⟨_, ⟨turn, early, rfl⟩, brings⟩)
      exact ⟨turn, early, brings⟩
    · rintro ⟨turn, early, brings⟩
      exact Or.inr ⟨_, ⟨turn, early, rfl⟩, brings⟩
  obtain ⟨same, holds⟩ := run_moves moving (task.holds_empty bus)
  have added : (run Move.step ∅ (schedule.filterMap Action.move?)).1.sum + 0 =
      (task.allNames turns).card := by
    rw [← reached]
    exact Move.sum_run_of_gathers gathering
  rw [same]
  exact ⟨added, reached ▸ holds⟩

/-! ### How many names there are -/

theorem injective_ofNat : Function.Injective Decimal.ofNat :=
  fun _ _ same => Decimal.ofNat_inj.mp same

theorem injective_append_ofNat (front : String) :
    Function.Injective fun turn => front ++ Decimal.ofNat turn := by
  intro left right same
  exact injective_ofNat (by simpa [String.append_right_inj] using same)

/-- Where a turn has one name, there are as many as turns. -/
theorem card_allNames_of_injective {name : Nat → String} (distinct : Function.Injective name)
    (names : task.names = fun turn => {name turn}) (turns : Nat) :
    (task.allNames turns).card = turns := by
  rw [Task.allNames, names, Finset.biUnion_singleton, Finset.card_image_of_injective _ distinct,
    Finset.card_range]

theorem card_allNames_claimOne (busy : 0 < turns) : (Task.claimOne.allNames turns).card = 1 := by
  have same : Task.claimOne.allNames turns = {"k"} := by
    ext name
    simp only [Task.allNames, Task.names, Finset.mem_biUnion, Finset.mem_range]
    exact ⟨fun ⟨_, _, named⟩ => named, fun named => ⟨0, busy, named⟩⟩
  rw [same, Finset.card_singleton]

theorem card_allNames_member (busy : 0 < turns) :
    (Task.member.allNames turns).card = turns + 1 := by
  have same : Task.member.allNames turns =
      insert "same" ((Finset.range turns).image Decimal.ofNat) := by
    ext name
    simp only [Task.allNames, Task.names, Finset.mem_biUnion, Finset.mem_range, Finset.mem_insert,
      Finset.mem_singleton, Finset.mem_image]
    constructor
    · rintro ⟨turn, early, rfl | rfl⟩
      · exact Or.inr ⟨turn, early, rfl⟩
      · exact Or.inl rfl
    · rintro (rfl | ⟨turn, early, rfl⟩)
      · exact ⟨0, busy, Or.inr rfl⟩
      · exact ⟨turn, early, Or.inl rfl⟩
  have apart : "same" ∉ (Finset.range turns).image Decimal.ofNat := by
    rw [Finset.mem_image]
    rintro ⟨turn, -, named⟩
    have member : 's' ∈ (Decimal.ofNat turn).toList := by
      rw [named]
      decide
    have digit : 's'.isDigit = true := Decimal.isDigit_of_mem_ofNat member
    cases digit
  rw [same, Finset.card_insert_of_notMem apart, Finset.card_image_of_injective _ injective_ofNat,
    Finset.card_range]

/-- How many names are gathered in so many turns. -/
def Task.gathered (task : Task) (turns : Nat) : Nat :=
  match task with
  | .claimOne => 1
  | .member => turns + 1
  | _ => turns

theorem Task.card_allNames (gathers : task.gathers = true) (busy : 0 < turns) :
    (task.allNames turns).card = task.gathered turns := by
  cases task with
  | claimOne => exact card_allNames_claimOne busy
  | claim => exact card_allNames_of_injective (injective_append_ofNat "k") rfl turns
  | field => exact card_allNames_of_injective injective_ofNat rfl turns
  | member => exact card_allNames_member busy
  | rank => exact card_allNames_of_injective injective_ofNat rfl turns
  | _ => cases gathers

theorem Task.gathered_pos (task : Task) (busy : 0 < turns) : 0 < task.gathered turns := by
  cases task with
  | claimOne => exact Nat.one_pos
  | member => exact Nat.succ_pos turns
  | _ => exact busy

/-! ## Values that are deleted again -/

/-- The keys that are written, one turn after the other. -/
def Choices.keys (choices : Choices clients turns) : List String :=
  (List.finRange clients).flatMap fun client => (List.finRange turns).map (choices.own client)

theorem Choices.mem_keys {key : String} :
    key ∈ choices.keys ↔ ∃ client turn, choices.own client turn = key := by
  simp [keys]

theorem Choices.nodup_keys (choices : Choices clients turns) : choices.keys.Nodup := by
  rw [keys, List.nodup_flatMap]
  constructor
  · intro client _
    exact (List.nodup_finRange turns).map fun _ _ same => (choices.own_inj same).2
  · refine (List.nodup_finRange clients).imp fun {client other} apart => ?_
    intro key left right
    obtain ⟨turn, -, rfl⟩ := List.mem_map.mp left
    obtain ⟨later, -, same⟩ := List.mem_map.mp right
    exact apart (choices.own_inj same).1.symm

theorem Choices.length_keys (choices : Choices clients turns) :
    choices.keys.length = clients * turns := by
  simp [keys, List.length_flatMap]

theorem Choices.Schedules.perm_keys (schedules : choices.Schedules .delete schedule) :
    ((schedule.filterMap Action.move?).filterMap Move.kept?).Perm choices.keys := by
  have moved := (schedules.perm.filterMap Action.move?).filterMap Move.kept?
  have same : ((((List.finRange clients).flatMap fun client =>
      (List.finRange turns).flatMap (choices.turn .delete client)).filterMap
        Action.move?).filterMap Move.kept?) = choices.keys := by
    simp only [List.filterMap_flatMap, Choices.keys, List.map_eq_flatMap]
    rfl
  exact same ▸ moved

/-- Each value is deleted once, and nothing else is. -/
theorem run_of_delete (bus : Bus) (schedules : choices.Schedules .delete schedule) :
    total (run step ⟨Store.empty, bus⟩ schedule).1 = clients * turns ∧
      Keys bus ∅ (run step ⟨Store.empty, bus⟩ schedule).2 := by
  have written := schedules.perm_keys
  have once : ((schedule.filterMap Action.move?).filterMap Move.kept?).Nodup :=
    written.nodup_iff.mpr choices.nodup_keys
  have taken {action : Action} (member : action ∈ schedule) :
      ∃ client turn, action ∈ choices.turn .delete client turn := schedules.mem_iff.mp member
  have moving : ∀ action ∈ schedule, action.MovesIn (Keys bus) := by
    intro action member
    obtain ⟨client, turn, member⟩ := taken member
    rcases List.mem_pair.mp member with rfl | rfl
    · exact movesIn_keys bus rfl
    · exact movesIn_keys bus rfl
  have silent : ∀ move ∈ schedule.filterMap Action.move?, move.gathers = false := by
    intro move member
    obtain ⟨action, member, means⟩ := List.mem_filterMap.mp member
    obtain ⟨client, turn, member⟩ := taken member
    rcases List.mem_pair.mp member with rfl | rfl
    · cases means
      rfl
    · cases means
      rfl
  have withdrawn : ∀ name ∈ (schedule.filterMap Action.move?).filterMap Move.kept?,
      ∃ names, name ∈ names ∧
        [Move.keep name, Move.withdraw names].Sublist (schedule.filterMap Action.move?) := by
    intro name kept
    obtain ⟨client, turn, rfl⟩ := Choices.mem_keys.mp (written.mem_iff.mp kept)
    refine ⟨[choices.own client turn, "k"].toFinset, by simp, ?_⟩
    exact (schedules.sublist client turn).filterMap Action.move?
  obtain ⟨same, holds⟩ := run_moves moving (Task.delete.holds_empty bus)
  have reached := Move.run_of_withdrawn silent once withdrawn
  have sum := Move.sum_run_of_kept silent once fun name _ => Finset.notMem_empty name
  rw [reached, written.length_eq, choices.length_keys, Finset.card_empty, Nat.zero_add] at sum
  rw [reached] at holds
  rw [same]
  exact ⟨sum, holds⟩

/-! ## What is left in the end -/

/-- What is counted and what is in the containers on a ground on which no
message was published. -/
structure Leaves (capacity : Nat) (counts : Store.Counts) (filled : Extent) (ground : Ground) :
    Prop where
  counts : ground.store.counts = counts
  extent : extent ground.store = filled
  bus : ground.bus = listening capacity [] 0

/-- The counts where a task gathered so many names. -/
def Task.counts (task : Task) (names : Nat) : Store.Counts :=
  match task with
  | .field => { Store.empty.counts with hashes := 1 }
  | .member => { Store.empty.counts with sets := 1 }
  | .rank => { Store.empty.counts with rankings := 1 }
  | _ => { Store.empty.counts with values := names }

/-- What is in the containers where a task gathered so many names. -/
def Task.filled (task : Task) (names : Nat) : Extent :=
  match task with
  | .field => { Extent.nothing with fields := names }
  | .member => { Extent.nothing with members := names }
  | .rank => { Extent.nothing with ranked := names }
  | _ => Extent.nothing

variable {capacity number : Nat} {counts : Store.Counts} {filled : Extent} {ground : Ground}
  {names : Finset String}

theorem Leaves.outcome_eq (leaves : Leaves capacity counts filled (run step ground schedule).2)
    (summed : total (run step ground schedule).1 = number) :
    outcome ground schedule = { Outcome.nothing with total := number, counts } := by
  simp only [outcome, summed, leaves.counts, leaves.bus]
  rfl

theorem Keys.leaves (holds : Keys (listening capacity [] 0) names ground) :
    Leaves capacity { Store.empty.counts with values := names.card } .nothing ground := by
  obtain ⟨values, fresh, rfl, rfl⟩ := holds
  refine ⟨?_, rfl, rfl⟩
  rw [Table.card_names]
  simp only [Ground.ofValues, Store.counts, fresh.discarded]
  rfl

/-- A container is there once it holds a name. -/
theorem Task.leaves (holds : task.Holds (listening capacity [] 0) names ground)
    (any : 0 < names.card) :
    Leaves capacity (task.counts names.card) (task.filled names.card) ground := by
  cases task with
  | field =>
      obtain ⟨_ | table, rfl, rfl⟩ := holds
      · cases any
      · rw [Option.getD_some, Table.card_names]
        exact ⟨rfl, rfl, rfl⟩
  | member =>
      obtain ⟨_ | members, rfl, rfl⟩ := holds
      · cases any
      · rw [Option.getD_some, Table.card_names]
        exact ⟨rfl, rfl, rfl⟩
  | rank =>
      obtain ⟨_ | ranking, proper, rfl, rfl⟩ := holds
      · cases any
      · rw [proper.card_names]
        exact ⟨rfl, rfl, rfl⟩
  | _ => exact Keys.leaves holds

/-- New ground with a mailbox of a given capacity. -/
def fresh (capacity : Nat) : Ground := ⟨Store.empty, listening capacity [] 0⟩

theorem outcome_of_gathers (any : 0 < clients) (busy : 0 < turns) (gathers : task.gathers = true)
    (schedules : choices.Schedules task schedule) :
    outcome (fresh capacity) schedule = task.outcome clients turns capacity ∧
      extent (run step (fresh capacity) schedule).2.store = task.extent clients turns := by
  obtain ⟨summed, holds⟩ := run_of_gathers (listening capacity [] 0) any gathers schedules
  have number := Task.card_allNames gathers busy
  have leaves := Task.leaves holds (number ▸ task.gathered_pos busy)
  rw [number] at summed leaves
  have same := leaves.outcome_eq summed
  have filled := leaves.extent
  cases task with
  | delete | push | publish => cases gathers
  | _ => exact ⟨same, filled⟩

theorem outcome_of_delete (schedules : choices.Schedules .delete schedule) :
    outcome (fresh capacity) schedule = Task.delete.outcome clients turns capacity ∧
      extent (run step (fresh capacity) schedule).2.store = Task.delete.extent clients turns := by
  obtain ⟨summed, holds⟩ := run_of_delete (listening capacity [] 0) schedules
  have leaves := Keys.leaves holds
  exact ⟨leaves.outcome_eq summed, leaves.extent⟩

theorem outcome_of_push (any : 0 < clients) (busy : 0 < turns)
    (schedules : choices.Schedules .push schedule) :
    outcome (fresh capacity) schedule = Task.push.outcome clients turns capacity ∧
      extent (run step (fresh capacity) schedule).2.store = Task.push.extent clients turns := by
  have pushes : ∀ action ∈ schedule,
      ∃ first second, action = .call (.list (.push "l" [first, second])) := by
    intro action member
    obtain ⟨client, turn, member⟩ := schedules.mem_iff.mp member
    exact ⟨_, _, List.mem_singleton.mp member⟩
  have all : schedule.length = clients * turns := schedules.length_eq fun _ _ => rfl
  obtain ⟨held, reached, long, added⟩ := run_push (listening capacity [] 0) pushes none
  rw [all, Option.getD_none, List.length_nil, Nat.zero_add] at long
  rw [all] at added
  cases held with
  | none =>
      have pushed : 0 < clients * turns := Nat.mul_pos any busy
      rw [Option.getD_none, List.length_nil] at long
      omega
  | some elements =>
      have final : (run step (fresh capacity) schedule).2 =
          .ofLists (listening capacity [] 0) ⟨Table.only "l" (some elements)⟩ := reached
      have leaves : Leaves capacity { Store.empty.counts with lists := 1 }
          { Extent.nothing with elements := elements.length }
          (run step (fresh capacity) schedule).2 := by
        rw [final]
        exact ⟨rfl, rfl, rfl⟩
      refine ⟨leaves.outcome_eq added, leaves.extent.trans ?_⟩
      exact congrArg (fun number => { Extent.nothing with elements := number }) long

theorem outcome_of_publish (schedules : choices.Schedules .publish schedule) :
    outcome (fresh capacity) schedule = Task.publish.outcome clients turns capacity ∧
      extent (run step (fresh capacity) schedule).2.store =
        Task.publish.extent clients turns := by
  have publishes : ∀ action ∈ schedule, ∃ payload, action = .publish ⟨channel, payload⟩ := by
    intro action member
    obtain ⟨client, turn, member⟩ := schedules.mem_iff.mp member
    exact ⟨_, List.mem_singleton.mp member⟩
  have all : schedule.length = clients * turns := schedules.length_eq fun _ _ => rfl
  obtain ⟨messages, lost, reached, long, split, added⟩ :=
    run_publish Store.empty capacity publishes [] 0 (Nat.zero_le _)
  rw [all, List.length_nil, Nat.zero_add, Nat.max_comm] at long
  rw [all, List.length_nil, Nat.zero_add] at split
  rw [List.length_nil, Nat.add_zero] at added
  have dropped : lost = clients * turns - messages.length := by omega
  rw [fresh, reached]
  refine ⟨?_, rfl⟩
  simp only [outcome, Task.outcome, reached, added, ← long, ← dropped]
  rfl

/-- Whatever the clients choose and however they are scheduled, a workload comes
to what its task comes to. -/
theorem outcome_of_schedules (any : 0 < clients) (busy : 0 < turns)
    (schedules : choices.Schedules task schedule) :
    outcome (fresh capacity) schedule = task.outcome clients turns capacity ∧
      extent (run step (fresh capacity) schedule).2.store = task.extent clients turns := by
  cases task with
  | delete => exact outcome_of_delete schedules
  | push => exact outcome_of_push any busy schedules
  | publish => exact outcome_of_publish schedules
  | _ => exact outcome_of_gathers any busy rfl schedules

/-! ## Totals do not depend on the schedule -/

/-- What a workload comes to does not depend on its schedule. Take any task, any
numbers of clients and of turns, not zero, and a capacity that a mailbox can
have. Whatever the clients choose to write, and however their actions are
interleaved on new ground, the results add up to what the task comes to, the
counts are those of the task, and so is how much the containers have and how
many messages are received, delivered and dropped. -/
theorem totals_independent {clients turns capacity : Nat} (any : 0 < clients) (busy : 0 < turns)
    (fits : capacity ≤ Bus.greatestCapacity) (task : Task) (choices : Choices clients turns)
    {schedule : List Action} (schedules : choices.Schedules task schedule) :
    ∃ ground, start? capacity = some ground ∧
      outcome ground schedule = task.outcome clients turns capacity ∧
      extent (run step ground schedule).2.store = task.extent clients turns :=
  ⟨fresh capacity, start?_eq fits, outcome_of_schedules any busy schedules⟩

/-- Two clients both write before either deletes, and delete the other way round.
It comes to what one client after the other comes to. -/
theorem totals_independent_crossed :
    ∃ ground, start? 7 = some ground ∧
      outcome ground
        [.call (.value (.set "k0-0" "0" 0)), .call (.value (.set "k1-0" "0" 0)),
          .call (.value (.delete ["k1-0", "k"])), .call (.value (.delete ["k0-0", "k"]))] =
        { Outcome.nothing with total := 2 } ∧
      outcome ground (sequential .delete 2 1) = { Outcome.nothing with total := 2 } := by
  have crossed : (Choices.standard 2 1).Schedules .delete
      [.call (.value (.set "k0-0" "0" 0)), .call (.value (.set "k1-0" "0" 0)),
        .call (.value (.delete ["k1-0", "k"])), .call (.value (.delete ["k0-0", "k"]))] := by
    apply Choices.schedules_of_inOrder
    refine @Interleaves.take _ [] [_] _ _ _ ?_
    refine @Interleaves.take _ [_] [] _ _ _ ?_
    refine @Interleaves.take _ [_] [] _ _ _ ?_
    refine @Interleaves.take _ [] [_] _ _ _ ?_
    exact .done (by simp)
  obtain ⟨ground, started, same, -⟩ :=
    totals_independent (by decide) (by decide) (by decide : 7 ≤ Bus.greatestCapacity) .delete
      (Choices.standard 2 1) crossed
  obtain ⟨ground', started', after, -⟩ :=
    totals_independent (by decide) (by decide) (by decide : 7 ≤ Bus.greatestCapacity) .delete
      (Choices.standard 2 1) (Choices.schedules_sequential .delete 2 1)
  rw [started, Option.some.injEq] at started'
  subst started'
  exact ⟨ground, started, same, after⟩

end SharedState.Workload
