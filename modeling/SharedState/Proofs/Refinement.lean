import SharedState.Run

/-!
# Refinement of runs

A machine refines a specification through a view of its states. Steps that
mean something to the specification give the results that it gives and move
the view as it moves; all other steps leave the view alone. What one step does
is what whole runs do: the results of the meaningful steps are the results of
the specification on what these steps mean, whatever the other steps are.
-/

namespace SharedState

variable {State Step Result Output View Label : Type}

/-- The results of the steps that have a meaning, as far as they are read. -/
def observed (meaning : Step → Option Label) (read : Result → Output) :
    List Step → List Result → List Output
  | event :: events, result :: results =>
      match meaning event with
      | some _ => read result :: observed meaning read events results
      | none => observed meaning read events results
  | _, _ => []

theorem observed_cons_of_some {meaning : Step → Option Label} {read : Result → Output}
    {event : Step} {label : Label} (means : meaning event = some label) (result : Result)
    (events : List Step) (results : List Result) :
    observed meaning read (event :: events) (result :: results) =
      read result :: observed meaning read events results := by
  simp [observed, means]

theorem observed_cons_of_none {meaning : Step → Option Label} {read : Result → Output}
    {event : Step} (means : meaning event = none) (result : Result)
    (events : List Step) (results : List Result) :
    observed meaning read (event :: events) (result :: results) =
      observed meaning read events results := by
  simp [observed, means]

/-- At some step of a run something happens. -/
def Happens (step : State → Step → Result × State) (occasion : State → Step → Prop)
    (state : State) : List Step → Prop
  | [] => False
  | first :: rest => occasion state first ∨ Happens step occasion (step state first).2 rest

/-- It happens at a step that some part of the run leads to. -/
theorem happens_iff_exists {step : State → Step → Result × State}
    {occasion : State → Step → Prop} {state : State} {events : List Step} :
    Happens step occasion state events ↔
      ∃ front event back, events = front ++ event :: back ∧
        occasion (run step state front).2 event := by
  induction events generalizing state with
  | nil => simp [Happens]
  | cons first rest ih =>
      rw [Happens, ih]
      constructor
      · rintro (here | ⟨front, event, back, rfl, later⟩)
        · exact ⟨[], first, rest, rfl, here⟩
        · exact ⟨first :: front, event, back, rfl, later⟩
      · rintro ⟨front, event, back, split, happens⟩
        cases front with
        | nil =>
            cases split
            exact Or.inl happens
        | cons other front =>
            cases split
            exact Or.inr ⟨front, event, back, rfl, happens⟩

/-- Where each step is a step of a specification but for how its result is
written, so is every run. -/
theorem run_map_of_step {step : State → Step → Result × State} {view : State → View}
    {write : Result → Output} {specification : View → Step → Output × View}
    (same : ∀ state event,
      specification (view state) event = Prod.map write view (step state event))
    (state : State) (events : List Step) :
    run specification (view state) events =
      Prod.map (List.map write) view (run step state events) := by
  induction events generalizing state with
  | nil => rfl
  | cons event rest ih => simp only [run_cons, same, Prod.map_fst, Prod.map_snd, ih]; rfl

/-- Where each step is the same step of a specification, a run is the same run. -/
theorem run_eq_of_step {step : State → Step → Result × State} {view : State → View}
    {specification : View → Step → Result × View}
    (same : ∀ state event,
      ((step state event).1, view (step state event).2) = specification (view state) event)
    (state : State) (events : List Step) :
    ((run step state events).1, view (run step state events).2) =
      run specification (view state) events := by
  have translated : ∀ state event,
      specification (view state) event = Prod.map id view (step state event) :=
    fun state event => (same state event).symm
  rw [run_map_of_step translated, List.map_id_fun]
  rfl

/-- A machine whose meaningful steps are steps of a specification. The states
are those in which `Holds`, which every step keeps. -/
structure Refines (step : State → Step → Result × State) (Holds : State → Prop)
    (view : State → View) (meaning : Step → Option Label) (read : Result → Output)
    (specification : View → Label → Output × View) : Prop where
  kept : ∀ {state event}, Holds state → Holds (step state event).2
  result : ∀ {state event label}, Holds state → meaning event = some label →
    read (step state event).1 = (specification (view state) label).1
  next : ∀ {state event label}, Holds state → meaning event = some label →
    view (step state event).2 = (specification (view state) label).2
  hidden : ∀ {state event}, Holds state → meaning event = none →
    view (step state event).2 = view state

namespace Refines

variable {step : State → Step → Result × State} {Holds : State → Prop} {view : State → View}
  {meaning : Step → Option Label} {read : Result → Output}
  {specification : View → Label → Output × View}

/-- A run of the machine shows what the specification gives on the meaning of
its steps, and ends where the specification ends. -/
theorem run_eq (refines : Refines step Holds view meaning read specification)
    {state : State} (holds : Holds state) (events : List Step) :
    (observed meaning read events (run step state events).1, view (run step state events).2) =
      run specification (view state) (events.filterMap meaning) := by
  induction events generalizing state with
  | nil => rfl
  | cons event rest ih =>
      have kept : Holds (step state event).2 := refines.kept holds
      have later := ih kept
      cases means : meaning event with
      | none =>
          rw [refines.hidden holds means] at later
          rw [run_cons, observed_cons_of_none means, List.filterMap_cons_none means]
          exact later
      | some label =>
          rw [refines.next holds means] at later
          rw [run_cons, observed_cons_of_some means, List.filterMap_cons_some means, run_cons,
            ← later, refines.result holds means]

theorem observed_run (refines : Refines step Holds view meaning read specification)
    {state : State} (holds : Holds state) (events : List Step) :
    observed meaning read events (run step state events).1 =
      (run specification (view state) (events.filterMap meaning)).1 :=
  congrArg Prod.fst (refines.run_eq holds events)

theorem view_run (refines : Refines step Holds view meaning read specification)
    {state : State} (holds : Holds state) (events : List Step) :
    view (run step state events).2 =
      (run specification (view state) (events.filterMap meaning)).2 :=
  congrArg Prod.snd (refines.run_eq holds events)

/-- What happens at meaningful steps happens to the specification. -/
theorem happens_iff (refines : Refines step Holds view meaning read specification)
    {occasion : State → Step → Prop} {seen : View → Label → Prop}
    (agree : ∀ {state event}, Holds state →
      (occasion state event ↔ ∃ label, meaning event = some label ∧ seen (view state) label))
    {state : State} (holds : Holds state) (events : List Step) :
    Happens step occasion state events ↔
      Happens specification seen (view state) (events.filterMap meaning) := by
  induction events generalizing state with
  | nil => rfl
  | cons event rest ih =>
      rw [Happens, agree holds, ih (refines.kept holds)]
      cases means : meaning event with
      | none => simp [refines.hidden holds means, List.filterMap_cons_none means]
      | some label =>
          rw [refines.next holds means, List.filterMap_cons_some means, Happens]
          simp

/-- Runs from states that look alike, by steps that mean the same, show the
same. -/
theorem observed_run_congr (refines : Refines step Holds view meaning read specification)
    {left right : State} (leftHolds : Holds left) (rightHolds : Holds right)
    (alike : view left = view right) {leftEvents rightEvents : List Step}
    (same : leftEvents.filterMap meaning = rightEvents.filterMap meaning) :
    observed meaning read leftEvents (run step left leftEvents).1 =
      observed meaning read rightEvents (run step right rightEvents).1 := by
  rw [refines.observed_run leftHolds, refines.observed_run rightHolds, alike, same]

/-- A specification that refines another one in its turn may be left out. -/
theorem comp {Image Sign Answer : Type} {Fits : View → Prop} {image : View → Image}
    {sign : Label → Option Sign} {hear : Output → Answer}
    {further : Image → Sign → Answer × Image}
    (outer : Refines step Holds view meaning read specification)
    (inner : Refines specification Fits image sign hear further)
    (fits : ∀ {state}, Holds state → Fits (view state)) :
    Refines step Holds (image ∘ view) (fun event => (meaning event).bind sign) (hear ∘ read)
      further where
  kept := outer.kept
  result {state event label} holds means := by
    obtain ⟨middle, first, second⟩ := Option.bind_eq_some_iff.mp means
    rw [Function.comp_apply, outer.result holds first, inner.result (fits holds) second]
    rfl
  next {state event label} holds means := by
    obtain ⟨middle, first, second⟩ := Option.bind_eq_some_iff.mp means
    rw [Function.comp_apply, outer.next holds first, inner.next (fits holds) second]
    rfl
  hidden {state event} holds means := by
    rw [Function.comp_apply, Function.comp_apply]
    cases first : meaning event with
    | none => rw [outer.hidden holds first]
    | some middle =>
        have second : sign middle = none := by simpa [first] using means
        rw [outer.next holds first, inner.hidden (fits holds) second]

end Refines

end SharedState
