/-!
# Runs

A machine takes one step at a time; a step gives a result and the next state.
A run carries out a list of steps and collects their results.
-/

namespace SharedState

variable {State Step Result : Type}

/-- Carries out steps one after the other. -/
def run (step : State → Step → Result × State) (state : State) : List Step → List Result × State
  | [] => ([], state)
  | first :: rest =>
      let (result, next) := step state first
      let (results, final) := run step next rest
      (result :: results, final)

@[simp]
theorem run_nil (step : State → Step → Result × State) (state : State) :
    run step state [] = ([], state) :=
  rfl

theorem run_cons (step : State → Step → Result × State) (state : State) (first : Step)
    (rest : List Step) :
    run step state (first :: rest) =
      ((step state first).1 :: (run step (step state first).2 rest).1,
        (run step (step state first).2 rest).2) :=
  rfl

/-- A run splits where its list of steps is split. -/
theorem run_append (step : State → Step → Result × State) (state : State)
    (front back : List Step) :
    run step state (front ++ back) =
      ((run step state front).1 ++ (run step (run step state front).2 back).1,
        (run step (run step state front).2 back).2) := by
  induction front generalizing state with
  | nil => rfl
  | cons first rest ih => simp [run_cons, ih]

/-- A property that every step keeps holds after every run. -/
theorem run_invariant {step : State → Step → Result × State} {Holds : State → Prop}
    (kept : ∀ state event, Holds state → Holds (step state event).2) {state : State}
    (start : Holds state) (steps : List Step) : Holds (run step state steps).2 := by
  induction steps generalizing state with
  | nil => exact start
  | cons first rest ih => exact ih (kept state first start)

/-- A property that steps of one kind keep holds after every run of such steps. -/
theorem run_invariant_of_forall {step : State → Step → Result × State} {Kind : Step → Prop}
    (Holds : State → Prop)
    (kept : ∀ {state event}, Kind event → Holds state → Holds (step state event).2)
    {state : State} (start : Holds state) {steps : List Step}
    (kinds : ∀ event ∈ steps, Kind event) : Holds (run step state steps).2 := by
  induction steps generalizing state with
  | nil => exact start
  | cons first rest ih =>
      obtain ⟨head, tail⟩ := List.forall_mem_cons.mp kinds
      exact ih (kept head start) tail

/-- Steps that leave a state alone give what each of them gives there. -/
theorem run_of_unmoved {step : State → Step → Result × State} {state : State} {steps : List Step}
    (unmoved : ∀ event ∈ steps, (step state event).2 = state) :
    run step state steps = (steps.map fun event => (step state event).1, state) := by
  induction steps with
  | nil => rfl
  | cons first rest ih =>
      obtain ⟨here, later⟩ := List.forall_mem_cons.mp unmoved
      rw [run_cons, here, ih later, List.map_cons]

/-- A step in the life of a part of the store that can be emptied. -/
inductive Upkeep (Command : Type) where
  | call (command : Command)
  | clear
deriving DecidableEq

end SharedState
