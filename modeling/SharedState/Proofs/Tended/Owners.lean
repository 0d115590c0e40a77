import SharedState.Proofs.Tended.Released

/-!
# Who owns the values

A sweeper counts among the owners of the values from the first turn of its task
until it is stopped or let go of, which happens at the latest when the next one
is started; so between two rounds there is one at most. It is counted also if it
was started and released within one round, but only until the tasks have had their
turns.

What can end a sweeper without that is its timer. A sweeper that begins a pause
which its timer cannot end is no owner any more, although nobody stopped it.
-/

namespace SharedState

/-- The pause that a sweeper is in: the interval, and when it began. -/
structure Spell where
  interval : Duration
  began : Instant
deriving DecidableEq

namespace Spell

/-- When it is over, if the timer can tell. -/
def wake? (timer : Timer) (spell : Spell) : Option Instant :=
  timer spell.began (Sweeper.pause spell.interval)

/-- The pause that a sweeper is in after a turn. One that is over is followed by
another one. -/
def after (timer : Timer) (spell : Spell) (now : Instant) : Spell :=
  if Sweeper.isDue now (spell.wake? timer) then { spell with began := now } else spell

/-- The pause that a sweeper is in after turns at these readings of the clock. -/
def last (timer : Timer) (spell : Spell) (readings : List Instant) : Spell :=
  readings.foldl (after timer) spell

/-- The sweeper in its pause. -/
def sweeper (timer : Timer) (spell : Spell) : Sweeper :=
  Sweeper.resting spell.interval (spell.wake? timer)

variable {timer : Timer} {spell : Spell} {now : Instant}

end Spell

namespace Tended

/-! ## What a script says of its sweepers -/

/-- What the clock reads after a step. -/
def Event.reading (now : Instant) : Event → Instant
  | .values (.advance duration) => now + duration
  | _ => now

/-- What the clock reads when the tasks have their turns. -/
def Round.reading (now : Instant) (round : Round) : Instant :=
  round.events.foldl Event.reading now

/-- What the clock reads at each turn of the tasks. -/
def readings (now : Instant) : List Round → List Instant
  | [] => []
  | round :: rest => round.reading now :: readings (round.reading now) rest

namespace Start

end Start

variable {timer : Timer} {now : Instant} {tended : Tended} {held : Option Spell}

/-- The pause of the sweeper that is held after a step, at the next turn. -/
def Event.holds (now : Instant) (held : Option Spell) : Event → Option Spell
  | .values _ => held
  | .start interval => some ⟨interval, now⟩
  | .stop => none
  | .drop => none

end Tended

end SharedState
