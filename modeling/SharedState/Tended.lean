import SharedState.KeyValue
import SharedState.Run
import SharedState.Sweeper

/-!
# Values with sweepers of their own

Values and all sweepers that were ever started on them. Starting a sweeper lets
go of the one before it, and a sweeper that is let go of is told to stop. The
values belong to their first owner, and along with it to every task that is not
over yet.

Handles are used at once, while the tasks have their turns in between. A round is
what happens from one turn of the tasks to the next.
-/

namespace SharedState

/-- Values, a clock, and the sweepers started so far. -/
structure Tended where
  now : Instant
  values : KeyValue
  /-- The sweepers, the one started last first. -/
  sweepers : List Sweeper
deriving DecidableEq

namespace Tended

/-- A step in the life of tended values. -/
inductive Event where
  | values (event : KeyValue.Event)
  /-- Start a sweeper and let go of the one before. -/
  | start (interval : Duration)
  /-- Stop the sweeper started last. -/
  | stop
  /-- Let go of the sweeper started last. -/
  | drop
deriving DecidableEq

/-- Steps without a turn of the tasks in between, and the order in which the
tasks then look: whether at the signal first, by how many sweepers were started
later. -/
structure Round where
  events : List Event
  signalFirst : Nat → Bool

/-- No values and no sweeper. -/
def create : Tended := ⟨0, KeyValue.empty, []⟩

/-- Carries out a step. -/
def perform (tended : Tended) : Event → Answer × Tended
  | .values event =>
      let (answer, now, values) := KeyValue.step (tended.now, tended.values) event
      (answer, { tended with now, values })
  | .start interval =>
      (.done,
        { tended with
          sweepers := Sweeper.start interval :: tended.sweepers.modifyHead Sweeper.drop })
  | .stop => (.done, { tended with sweepers := tended.sweepers.modifyHead Sweeper.stop })
  | .drop => (.done, { tended with sweepers := tended.sweepers.modifyHead Sweeper.drop })

/-- Lets the tasks have their turns, one after the other. -/
def turns (timer : Timer) (now : Instant) (signalFirst : Nat → Bool) :
    List Sweeper → KeyValue → List Sweeper × KeyValue
  | [], values => ([], values)
  | sweeper :: rest, values =>
      let (sweeps, sweeper) := sweeper.turn timer (signalFirst 0) now
      let values := if sweeps then (values.sweep now).2 else values
      let (others, values) := turns timer now (fun later => signalFirst (later + 1)) rest values
      (sweeper :: others, values)

/-- Lets every task have its turn. -/
def settle (timer : Timer) (signalFirst : Nat → Bool) (tended : Tended) : Tended :=
  let (sweepers, values) := turns timer tended.now signalFirst tended.sweepers tended.values
  { tended with sweepers, values }

/-- Carries out a round. -/
def round (timer : Timer) (tended : Tended) (round : Round) : List Answer × Tended :=
  let (answers, tended) := run perform tended round.events
  (answers, tended.settle timer round.signalFirst)

/-- Takes one step and then lets every task have its turn. -/
def step (tended : Tended) (event : Event) : Answer × Tended :=
  let (answer, tended) := tended.perform event
  (answer, tended.settle Timer.standard fun _ => true)

/-- A single step is a round. -/
theorem round_single (tended : Tended) (event : Event) :
    round Timer.standard tended ⟨[event], fun _ => true⟩ =
      ([(step tended event).1], (step tended event).2) :=
  rfl

/-- Whether the sweeper started last was stopped; none if its handle is gone. -/
def isStopped? (tended : Tended) : Option Bool :=
  tended.sweepers.head?.bind fun sweeper =>
    if sweeper.signal.closed then none else some sweeper.stopped

/-- How many owners the values have. -/
def owners (tended : Tended) : Nat :=
  1 + tended.sweepers.countP fun sweeper => !sweeper.task.isOver

end Tended

end SharedState
