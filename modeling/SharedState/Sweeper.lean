import SharedState.Timer

/-!
# The sweeper

A sweeper wakes at a fixed interval, counted from its last wake, and discards
every lapsed value. It is a task that runs on its own, and a handle by which it
is stopped. All that the two share is a signal: the handle sends, and the task
looks whether it was told anything, at the end of a pause or before. So a task
may be told to end before it runs for the first time, and it is over only once
it has looked.

A pause is at least a millisecond long. Where the timer fails, so does the task,
without having been told to.
-/

namespace SharedState

/-- What the handle of a sweeper has told its task: the last thing that was
sent, whether the task is yet to see it, and whether the handle is gone. -/
structure Signal where
  value : Bool
  unseen : Bool
  closed : Bool
deriving DecidableEq

namespace Signal

/-- A signal that nothing was sent on. -/
def quiet : Signal := ⟨false, false, false⟩

def send (value : Bool) (signal : Signal) : Signal := { signal with value, unseen := true }

def close (signal : Signal) : Signal := { signal with closed := true }

def see (signal : Signal) : Signal := { signal with unseen := false }

/-- What there is to hear: whether to end, or nothing. Without a handle there is
nobody to wait for, and that means to end. -/
def news? (signal : Signal) : Option Bool :=
  if signal.unseen then some signal.value
  else if signal.closed then some true
  else none

end Signal

/-- How far the task of a sweeper is. -/
inductive Task where
  /-- It has not run yet. -/
  | spawned
  | asleep (wake : Instant)
  /-- It heard that it should end. -/
  | ended
  /-- The timer failed it. -/
  | failed
deriving DecidableEq

/-- Whether a task has ended and has let go of the values. -/
def Task.isOver : Task → Bool
  | .spawned => false
  | .asleep _ => false
  | .ended => true
  | .failed => true

/-- A task that sleeps until a wake; it has failed if there is none. -/
def Task.until (wake : Option Instant) : Task :=
  (wake.map .asleep).getD .failed

/-- A sweeper that was started. -/
structure Sweeper where
  /-- The time between two sweeps that was asked for. -/
  interval : Duration
  /-- Whether its handle was told to stop it. -/
  stopped : Bool
  signal : Signal
  task : Task
deriving DecidableEq

namespace Sweeper

/-- The shortest pause. -/
def shortest : Duration := Duration.ofMillis 1

/-- How long a sweeper with a given interval pauses between two sweeps. -/
def pause (interval : Duration) : Duration := max shortest interval

/-- A sweeper whose task is yet to run. -/
def start (interval : Duration) : Sweeper where
  interval := interval
  stopped := false
  signal := Signal.quiet
  task := .spawned

/-- Tells the task to end, if that was not done before. -/
def stop (sweeper : Sweeper) : Sweeper :=
  if sweeper.stopped then sweeper
  else { sweeper with stopped := true, signal := sweeper.signal.send true }

/-- Lets go of the handle, which stops the sweeper. -/
def drop (sweeper : Sweeper) : Sweeper :=
  { sweeper.stop with signal := sweeper.stop.signal.close }

/-- A sweeper whose task begins a pause. -/
def sleep (timer : Timer) (now : Instant) (sweeper : Sweeper) : Sweeper :=
  { sweeper with task := .until (timer now (pause sweeper.interval)) }

/-- What ends the wait of a task that is asleep: the signal, with whether to
end, or the timer. If there is both, it is the one that is looked at first. -/
def hears? (signalFirst : Bool) (now wake : Instant) (signal : Signal) : Option Bool :=
  let due := if wake ≤ now then some false else none
  if signalFirst then signal.news?.or due else due.or signal.news?

/-- A task that has just swept pauses again, if it does not hear that it should
end. Any more sweeps at the same instant would find nothing. -/
def resume (timer : Timer) (now : Instant) (sweeper : Sweeper) : Sweeper :=
  let slept := sweeper.sleep timer now
  if slept.task.isOver then slept
  else if sweeper.signal.news? = some true then { slept with task := .ended }
  else { slept with signal := slept.signal.see }

/-- A task that is asleep has its turn. The answer is whether it sweeps. -/
def rouse (timer : Timer) (signalFirst : Bool) (now wake : Instant) (sweeper : Sweeper) :
    Bool × Sweeper :=
  match hears? signalFirst now wake sweeper.signal with
  | none => (false, sweeper)
  | some true => (false, { sweeper with task := .ended })
  | some false => (true, sweeper.resume timer now)

/-- The task has its turn: it runs until there is something to wait for. A task
that is yet to run begins its first pause. -/
def turn (timer : Timer) (signalFirst : Bool) (now : Instant) (sweeper : Sweeper) :
    Bool × Sweeper :=
  let begun := if sweeper.task = .spawned then sweeper.sleep timer now else sweeper
  match begun.task with
  | .asleep wake => begun.rouse timer signalFirst now wake
  | _ => (false, begun)

end Sweeper

end SharedState
