import SharedState.Run
import SharedState.Store
import SharedState.Sweeper
import SharedState.Text.Decimal
import SharedState.Text.Record

/-!
# The in-process engine

A store with a clock and, if it runs in the background, a sweeper. After every
step the task of the sweeper has its turn, in which it sweeps at most once.
Sweeping shows in the counts only.
-/

namespace SharedState

open SharedState.Text

/-- A store that lives in time. -/
structure Engine where
  store : Store
  now : Instant
  /-- The sweeper, if there is one. -/
  sweeper : Option Sweeper
deriving DecidableEq

namespace Engine

/-- A step in the life of an engine. -/
inductive Event where
  | call (call : Call)
  /-- Discard every lapsed value. -/
  | sweep
  | flush
  | advance (duration : Duration)
  | stop
deriving DecidableEq

/-- An engine that sweeps only when told to. -/
def create : Engine := ⟨Store.empty, 0, none⟩

/-- Carries out the step itself. -/
def perform (engine : Engine) : Event → Answer × Engine
  | .call call =>
      let (answer, store) := engine.store.apply engine.now call
      (answer, { engine with store })
  | .sweep =>
      let (lapsed, store) := engine.store.sweep engine.now
      (.count lapsed, { engine with store })
  | .flush => (.done, { engine with store := engine.store.flush })
  | .advance duration => (.done, { engine with now := engine.now + duration })
  | .stop => (.done, { engine with sweeper := engine.sweeper.map Sweeper.stop })

/-- Lets the task of the sweeper have its turn. -/
def settleBy (timer : Timer) (signalFirst : Bool) (engine : Engine) : Engine :=
  match engine.sweeper with
  | none => engine
  | some sweeper =>
      let (sweeps, sweeper) := sweeper.turn timer signalFirst engine.now
      { engine with
        store := if sweeps then (engine.store.sweep engine.now).2 else engine.store
        sweeper := some sweeper }

/-- Takes one step and then lets the sweeper have its turn. -/
def stepBy (timer : Timer) (signalFirst : Bool) (engine : Engine) (event : Event) :
    Answer × Engine :=
  let (answer, engine) := engine.perform event
  (answer, engine.settleBy timer signalFirst)

/-- An engine with a sweeper of a given interval, which has begun its first pause. -/
def createSweptBy (timer : Timer) (interval : Duration) : Engine :=
  { create with sweeper := some (Sweeper.start interval) }.settleBy timer true

def settle (engine : Engine) : Engine := engine.settleBy Timer.standard true

def step (engine : Engine) (event : Event) : Answer × Engine :=
  engine.stepBy Timer.standard true event

def createSwept (interval : Duration) : Engine := createSweptBy Timer.standard interval

theorem step_eq (engine : Engine) (event : Event) :
    engine.step event = ((engine.perform event).1, (engine.perform event).2.settle) :=
  rfl

/-- The counts as text. -/
def describeCounts (counts : Store.Counts) : String :=
  Record.render "StorageStats"
    [("kv_keys", Decimal.ofNat counts.values),
      ("hash_keys", Decimal.ofNat counts.hashes),
      ("set_keys", Decimal.ofNat counts.sets),
      ("sorted_set_keys", Decimal.ofNat counts.rankings),
      ("list_keys", Decimal.ofNat counts.lists),
      ("expired", Decimal.ofNat counts.discarded)]

/-- An engine as text: its counts, and whether it has a sweeper. -/
def describe (engine : Engine) : String :=
  Record.render "CacheStore"
    [("stats", describeCounts engine.store.counts),
      ("sweeper", Record.truth engine.sweeper.isSome)]

/-- What is reported when an engine is created without a sweeper. -/
def unswept : String := "No Tokio runtime available, expiry sweeper not started"

/-- What is reported when an engine is created. -/
def warnings (engine : Engine) : List String :=
  if engine.sweeper.isSome then [] else [unswept]

end Engine

end SharedState
