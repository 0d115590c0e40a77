import SharedState.Proofs.KeyValue.Lapsing
import SharedState.Proofs.Sweeper
import SharedState.Tended

/-!
# Sweepers that were released

A sweeper that was stopped or let go of is over after the next turn of the tasks.
In that turn it may sweep once more, if its wake has come and it looks at its
timer first; but where it has had a turn at this instant before, nothing is left
for it to sweep. From then on all goes on beside it as if it were not there.
-/

namespace SharedState.Tended

/-! ## The turns of a list of sweepers -/

/-- A sweeper that was released after it had run. If its wake has come, a given
statement holds. -/
structure Fading (now : Instant) (clean : Prop) (sweeper : Sweeper) : Prop where
  released : sweeper.Released
  begun : sweeper.task ≠ .spawned
  rested : ∀ wake, sweeper.task = .asleep wake → wake ≤ now → clean

variable {timer : Timer} {now : Instant} {clean : Prop} {sweeper : Sweeper}

theorem Fading.stop (fading : Fading now clean sweeper) : Fading now clean sweeper.stop := by
  rw [Sweeper.stop_of_stopped fading.released.stopped]
  exact fading

theorem Fading.drop (fading : Fading now clean sweeper) : Fading now clean sweeper.drop where
  released := fading.released.drop
  begun := by simpa only [Sweeper.task_drop] using fading.begun
  rested := by simpa only [Sweeper.task_drop] using fading.rested

variable {kind : Sweeper → Prop} {whole part : Tended}

end SharedState.Tended
