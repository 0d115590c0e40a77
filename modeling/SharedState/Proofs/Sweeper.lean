import SharedState.Sweeper

/-!
# What the turn of a sweeper does

A sweeper that was not told to end only waits for its timer. One that was told
to end is over after its next turn, whatever its task was at: also if the task
had not run before. From then on a turn does nothing.
-/

namespace SharedState

@[simp]
theorem Task.isOver_until (wake : Option Instant) : (Task.until wake).isOver = wake.isNone := by
  cases wake <;> rfl

theorem Task.until_ne_spawned (wake : Option Instant) : Task.until wake ≠ .spawned := by
  cases wake <;> nofun

namespace Sweeper

/-- A sweeper that was not told anything and waits for a wake, or has failed. -/
def resting (interval : Duration) (wake : Option Instant) : Sweeper where
  interval := interval
  stopped := false
  signal := Signal.quiet
  task := .until wake

/-- Whether a wake has come. -/
def isDue (now : Instant) (wake : Option Instant) : Bool := wake.any (· ≤ now)

/-- A sweeper that was stopped, whose task is over or will hear that it should end. -/
structure Released (sweeper : Sweeper) : Prop where
  stopped : sweeper.stopped = true
  told : sweeper.signal.news? = some true ∨ sweeper.task.isOver = true

/-- A sweeper that was stopped and whose task is over. -/
structure Gone (sweeper : Sweeper) : Prop where
  stopped : sweeper.stopped = true
  isOver : sweeper.task.isOver = true

variable {timer : Timer} {signalFirst : Bool} {now : Instant} {sweeper : Sweeper}

theorem Gone.released (gone : sweeper.Gone) : sweeper.Released :=
  ⟨gone.stopped, Or.inr gone.isOver⟩

/-! ## To stop and to let go -/

@[simp]
theorem task_stop (sweeper : Sweeper) : sweeper.stop.task = sweeper.task := by
  unfold stop
  split <;> rfl

@[simp]
theorem task_drop (sweeper : Sweeper) : sweeper.drop.task = sweeper.task :=
  task_stop sweeper

theorem stop_of_stopped (stopped : sweeper.stopped = true) : sweeper.stop = sweeper :=
  if_pos stopped

/-- A handle that goes away does not take back what it told its task. -/
theorem news?_close {signal : Signal} (told : signal.news? = some true) :
    signal.close.news? = some true := by
  cases unseen : signal.unseen with
  | true => simpa [Signal.news?, Signal.close, unseen] using told
  | false => simp [Signal.news?, Signal.close, unseen]

theorem released_stop (going : sweeper.stopped = false) : sweeper.stop.Released := by
  rw [stop, going]
  exact ⟨rfl, Or.inl rfl⟩

theorem Released.stop (released : sweeper.Released) : sweeper.stop.Released := by
  rw [stop_of_stopped released.stopped]
  exact released

theorem drop_of_released_stop (released : sweeper.stop.Released) : sweeper.drop.Released where
  stopped := released.stopped
  told := released.told.imp_left news?_close

theorem Released.drop (released : sweeper.Released) : sweeper.drop.Released :=
  drop_of_released_stop released.stop

theorem Gone.stop (gone : sweeper.Gone) : sweeper.stop.Gone := by
  rw [stop_of_stopped gone.stopped]
  exact gone

theorem Gone.drop (gone : sweeper.Gone) : sweeper.drop.Gone where
  stopped := gone.stop.stopped
  isOver := gone.stop.isOver

/-! ## The turn -/

/-- Without news a task can only hear its timer. -/
theorem hears?_quiet (signalFirst : Bool) (now wake : Instant) :
    hears? signalFirst now wake Signal.quiet = if wake ≤ now then some false else none := by
  cases signalFirst with
  | true => rfl
  | false => exact Option.or_none

/-- A task that was told to end hears of that, unless its timer comes first. -/
theorem hears?_of_told {signal : Signal} (told : signal.news? = some true)
    (signalFirst : Bool) (now wake : Instant) :
    hears? signalFirst now wake signal = some true ∨
      hears? signalFirst now wake signal = some false ∧ wake ≤ now := by
  unfold hears?
  rw [told]
  by_cases due : wake ≤ now
  · cases signalFirst <;> simp [due]
  · cases signalFirst <;> simp [due]

@[simp]
theorem stopped_resume (timer : Timer) (now : Instant) (sweeper : Sweeper) :
    (sweeper.resume timer now).stopped = sweeper.stopped := by
  simp only [resume]
  split
  · rfl
  · split <;> rfl

theorem isOver_resume_of_told (told : sweeper.signal.news? = some true) :
    (sweeper.resume timer now).task.isOver = true := by
  unfold resume
  dsimp only
  by_cases isOver : (sweeper.sleep timer now).task.isOver = true
  · rw [if_pos isOver]
    exact isOver
  · rw [if_neg isOver, if_pos told]
    rfl

theorem resume_resting (timer : Timer) (now : Instant) (interval : Duration)
    (wake : Option Instant) :
    (resting interval wake).resume timer now = resting interval (timer now (pause interval)) := by
  simp only [resume, resting]
  exact ite_self _

/-- Before its first pause begins, a turn is the one of a sweeper that has begun it. -/
theorem turn_of_spawned (fresh : sweeper.task = .spawned) :
    sweeper.turn timer signalFirst now =
      (sweeper.sleep timer now).turn timer signalFirst now := by
  have begun : (sweeper.sleep timer now).task ≠ .spawned := Task.until_ne_spawned _
  simp only [turn, if_pos fresh, if_neg begun]

theorem turn_of_asleep {wake : Instant} (asleep : sweeper.task = .asleep wake) :
    sweeper.turn timer signalFirst now = sweeper.rouse timer signalFirst now wake := by
  simp only [turn, asleep, reduceCtorEq, if_false]

/-- A turn does nothing to a task that is over. -/
theorem turn_of_isOver (isOver : sweeper.task.isOver = true) :
    sweeper.turn timer signalFirst now = (false, sweeper) := by
  obtain ⟨interval, stopped, signal, task⟩ := sweeper
  cases task with
  | spawned => cases isOver
  | asleep wake => cases isOver
  | ended => rfl
  | failed => rfl

@[simp]
theorem stopped_rouse (timer : Timer) (signalFirst : Bool) (now wake : Instant)
    (sweeper : Sweeper) :
    (sweeper.rouse timer signalFirst now wake).2.stopped = sweeper.stopped := by
  unfold rouse
  split
  · rfl
  · rfl
  · exact stopped_resume timer now sweeper

@[simp]
theorem stopped_turn (timer : Timer) (signalFirst : Bool) (now : Instant) (sweeper : Sweeper) :
    (sweeper.turn timer signalFirst now).2.stopped = sweeper.stopped := by
  unfold turn
  dsimp only
  split
  · rw [stopped_rouse]
    split <;> rfl
  · split <;> rfl

/-- A sweeper that rests sweeps when its wake has come, and pauses again. -/
theorem turn_resting (timer : Timer) (signalFirst : Bool) (now : Instant) (interval : Duration)
    (wake : Option Instant) :
    (resting interval wake).turn timer signalFirst now =
      if isDue now wake then (true, resting interval (timer now (pause interval)))
      else (false, resting interval wake) := by
  cases wake with
  | none => rfl
  | some wake =>
      have heard : hears? signalFirst now wake (resting interval (some wake)).signal =
          if wake ≤ now then some false else none := hears?_quiet signalFirst now wake
      rw [turn_of_asleep rfl, rouse, heard]
      by_cases due : wake ≤ now
      · simp only [due, isDue, if_true, Option.any_some, decide_true, resume_resting]
      · simp only [due, isDue, if_false, Option.any_some, decide_false, Bool.false_eq_true]

/-- The first turn of a sweeper that was told nothing begins its first pause. -/
theorem turn_start (timer : Timer) (signalFirst : Bool) (now : Instant) (interval : Duration) :
    (start interval).turn timer signalFirst now =
      (resting interval (timer now (pause interval))).turn timer signalFirst now :=
  turn_of_spawned rfl

theorem isOver_rouse_of_told (told : sweeper.signal.news? = some true) (wake : Instant) :
    (sweeper.rouse timer signalFirst now wake).2.task.isOver = true := by
  unfold rouse
  rcases hears?_of_told told signalFirst now wake with heard | ⟨heard, -⟩
  · rw [heard]
    rfl
  · rw [heard]
    exact isOver_resume_of_told told

/-- A task that has run sleeps unless it is over. -/
theorem asleep_or_isOver (begun : sweeper.task ≠ .spawned) :
    (∃ wake, sweeper.task = .asleep wake) ∨ sweeper.task.isOver = true := by
  cases phase : sweeper.task with
  | spawned => exact absurd phase begun
  | asleep wake => exact Or.inl ⟨wake, rfl⟩
  | ended => exact Or.inr rfl
  | failed => exact Or.inr rfl

theorem isOver_turn_of_begun (told : sweeper.signal.news? = some true)
    (begun : sweeper.task ≠ .spawned) :
    (sweeper.turn timer signalFirst now).2.task.isOver = true := by
  rcases asleep_or_isOver begun with ⟨wake, asleep⟩ | isOver
  · rw [turn_of_asleep asleep]
    exact isOver_rouse_of_told told wake
  · rw [turn_of_isOver isOver]
    exact isOver

/-- A task that was told to end is over after its turn, wherever it was. If it has
not run yet, it is over after the first turn it has. -/
theorem isOver_turn_of_told (told : sweeper.signal.news? = some true) :
    (sweeper.turn timer signalFirst now).2.task.isOver = true := by
  by_cases fresh : sweeper.task = .spawned
  · rw [turn_of_spawned fresh]
    exact isOver_turn_of_begun told (Task.until_ne_spawned _)
  · exact isOver_turn_of_begun told fresh

/-- A sweeper that is stopped or let go of before its task ran is over as soon as
it runs. -/
theorem isOver_turn_of_release_first (timer : Timer) (signalFirst : Bool) (now : Instant)
    (interval : Duration) :
    ((start interval).stop.turn timer signalFirst now).2.task.isOver = true ∧
      ((start interval).drop.turn timer signalFirst now).2.task.isOver = true :=
  ⟨isOver_turn_of_told rfl, isOver_turn_of_told rfl⟩

theorem Released.gone_turn (released : sweeper.Released) :
    (sweeper.turn timer signalFirst now).2.Gone where
  stopped := (stopped_turn ..).trans released.stopped
  isOver := by
    rcases released.told with told | isOver
    · exact isOver_turn_of_told told
    · rw [turn_of_isOver isOver]
      exact isOver

/-- What a released sweeper may still do in its turn: sweep, if its task is asleep
and its wake has come. -/
theorem Released.sweeps (released : sweeper.Released) (begun : sweeper.task ≠ .spawned)
    (sweeps : (sweeper.turn timer signalFirst now).1 = true) :
    ∃ wake, sweeper.task = .asleep wake ∧ wake ≤ now := by
  have idle : ¬sweeper.task.isOver = true := by
    intro isOver
    rw [turn_of_isOver isOver] at sweeps
    cases sweeps
  obtain ⟨wake, asleep⟩ := (asleep_or_isOver begun).resolve_right idle
  refine ⟨wake, asleep, ?_⟩
  rw [turn_of_asleep asleep, rouse] at sweeps
  rcases hears?_of_told (released.told.resolve_right idle) signalFirst now wake with
    heard | ⟨-, due⟩
  · rw [heard] at sweeps
    cases sweeps
  · exact due

end Sweeper

end SharedState
