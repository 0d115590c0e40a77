import SharedState.Proofs.Interleaving
import SharedState.Workload

/-!
# Schedules

Each client takes its turns at a task, and the actions of all clients come in
interleaved in some way. A turn may be of several actions, which come in their
order but with others in between. To take one client after the other is one
such schedule.
-/

namespace SharedState.Workload

open SharedState.Text

/-- What the clients of a workload are free to choose, for every client and turn. -/
structure Choices (clients turns : Nat) where
  /-- The value that is written. -/
  value : Fin clients → Fin turns → String
  lifetime : Fin clients → Fin turns → Duration
  score : Fin clients → Fin turns → Score
  isNumber : ∀ client turn, (score client turn).isNaN = false
  /-- The two elements that are pushed. -/
  pushed : Fin clients → Fin turns → String × String
  payload : Fin clients → Fin turns → List UInt8
  /-- The key that is used in no other turn. -/
  own : Fin clients → Fin turns → String
  own_inj : ∀ {client turn other later}, own client turn = own other later →
    client = other ∧ turn = later
  own_ne : ∀ client turn, own client turn ≠ "k"

namespace Choices

variable {clients turns : Nat} {choices : Choices clients turns} {task : Task}
  {schedule : List Action}

/-- What a client does in one turn. -/
def turn (choices : Choices clients turns) (task : Task) (client : Fin clients)
    (turn : Fin turns) : List Action :=
  let name := Decimal.ofNat turn
  let value := choices.value client turn
  let lifetime := choices.lifetime client turn
  let own := choices.own client turn
  match task with
  | .claimOne => [.call (.value (.setIfAbsent "k" value lifetime))]
  | .claim => [.call (.value (.setIfAbsent ("k" ++ name) value lifetime))]
  | .delete => [.call (.value (.set own value lifetime)), .call (.value (.delete [own, "k"]))]
  | .field => [.call (.hash (.put "h" name value))]
  | .member => [.call (.set (.add "s" [name, "same"]))]
  | .rank => [.call (.ranking (.place "z" (choices.score client turn) name))]
  | .push =>
      [.call (.list (.push "l" [(choices.pushed client turn).1, (choices.pushed client turn).2]))]
  | .publish => [.publish ⟨channel, choices.payload client turn⟩]

/-- A schedule interleaves what the clients do, and what a client does
interleaves its turns. -/
def Schedules (choices : Choices clients turns) (task : Task) (schedule : List Action) : Prop :=
  ∃ program : Fin clients → List Action,
    (∀ client, Interleaves ((List.finRange turns).map (choices.turn task client))
      (program client)) ∧
    Interleaves ((List.finRange clients).map program) schedule

/-- What a client does that takes its turns in order. -/
def inOrder (choices : Choices clients turns) (task : Task) (client : Fin clients) :
    List Action :=
  ((List.finRange turns).map (choices.turn task client)).flatten

theorem schedules_of_inOrder
    (merged : Interleaves ((List.finRange clients).map (choices.inOrder task)) schedule) :
    choices.Schedules task schedule :=
  ⟨choices.inOrder task, fun _ => Interleaves.flatten _, merged⟩

/-- The actions of all clients, one turn after the other. -/
theorem Schedules.perm (schedules : choices.Schedules task schedule) :
    schedule.Perm ((List.finRange clients).flatMap fun client =>
      (List.finRange turns).flatMap (choices.turn task client)) := by
  obtain ⟨program, ordered, merged⟩ := schedules
  exact merged.perm.trans (List.Perm.flatMap_left _ fun client _ => (ordered client).perm)

theorem Schedules.mem_iff (schedules : choices.Schedules task schedule) {action : Action} :
    action ∈ schedule ↔ ∃ client turn, action ∈ choices.turn task client turn := by
  simp [schedules.perm.mem_iff]

/-- The actions of one turn come in their order. -/
theorem Schedules.sublist (schedules : choices.Schedules task schedule) (client : Fin clients)
    (turn : Fin turns) : (choices.turn task client turn).Sublist schedule := by
  obtain ⟨program, ordered, merged⟩ := schedules
  have within := (ordered client).sublist (List.mem_map_of_mem (List.mem_finRange turn))
  exact within.trans (merged.sublist (List.mem_map_of_mem (List.mem_finRange client)))

/-- Where a turn is one action, there are as many actions as turns. -/
theorem Schedules.length_eq (schedules : choices.Schedules task schedule)
    (single : ∀ client turn, (choices.turn task client turn).length = 1) :
    schedule.length = clients * turns := by
  simp [schedules.perm.length_eq, List.length_flatMap, single]

end Choices

/-! ## The workload at hand -/

variable {clients turns : Nat}

/-- A client and a turn are known by the key that is made of both. -/
theorem standard_own_inj {client turn other later : Nat}
    (same : "k" ++ Decimal.ofNat client ++ "-" ++ Decimal.ofNat turn =
      "k" ++ Decimal.ofNat other ++ "-" ++ Decimal.ofNat later) :
    client = other ∧ turn = later := by
  have letters := congrArg String.toList same
  simp only [String.toList_append, List.append_assoc] at letters
  have split := List.append_cancel_left letters
  have apart (value : Nat) : '-' ∉ (Decimal.ofNat value).toList := by
    intro member
    have digit : '-'.isDigit = true := Decimal.isDigit_of_mem_ofNat member
    cases digit
  have parts := (List.append_cons_inj_of_notMem (apart client) (apart turn)).mp split
  exact ⟨Decimal.ofNat_inj.mp (String.toList_injective parts.1),
    Decimal.ofNat_inj.mp (String.toList_injective parts.2.2)⟩

/-- The choices of the clients of the workload at hand. -/
def Choices.standard (clients turns : Nat) : Choices clients turns where
  value _ turn := Decimal.ofNat turn
  lifetime _ _ := 0
  score _ _ := Score.ofMagnitude false 0
  isNumber _ _ := by decide
  pushed _ turn := (Decimal.ofNat turn, Decimal.ofNat turn)
  payload _ turn := Utf8.encode (Decimal.ofNat turn)
  own client turn := "k" ++ Decimal.ofNat client ++ "-" ++ Decimal.ofNat turn
  own_inj same := (standard_own_inj same).imp Fin.ext Fin.ext
  own_ne client turn same := by
    have letters := congrArg String.toList same
    simp at letters

theorem Choices.turn_standard (task : Task) (client : Fin clients) (turn : Fin turns) :
    (standard clients turns).turn task client turn = actions task client turn := by
  cases task <;> rfl

/-- One client after the other is a schedule. -/
theorem Choices.schedules_sequential (task : Task) (clients turns : Nat) :
    (standard clients turns).Schedules task (sequential task clients turns) := by
  have taken : (standard clients turns).inOrder task = fun client : Fin clients =>
      ((List.finRange turns).map fun turn : Fin turns => actions task client turn).flatten := by
    funext client
    rw [inOrder, funext (turn_standard task client)]
  have all : sequential task clients turns =
      ((List.finRange clients).map ((standard clients turns).inOrder task)).flatten := by
    simp only [taken, sequential, ← List.map_coe_finRange_eq_range, List.flatMap_def,
      List.map_map, Function.comp_def]
  rw [all]
  exact schedules_of_inOrder (Interleaves.flatten _)

end SharedState.Workload
