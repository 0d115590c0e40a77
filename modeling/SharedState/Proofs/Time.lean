import SharedState.Time

/-!
# Times in seconds and nanoseconds

A clock does not count in nanoseconds only: it splits a time into whole
seconds and the nanoseconds that remain, of which there are less than a second.
Adding then carries, subtracting borrows, and comparing looks at the seconds
first. The seconds of a sum are checked on their own, before and after the
carry. All of this is what whole nanoseconds do, the end of the clock included.
-/

namespace SharedState

/-- A time as whole seconds and the nanoseconds that remain. -/
structure SplitTime where
  seconds : Nat
  nanos : Nat
  small : nanos < 1000000000
deriving DecidableEq

namespace SplitTime

/-- The time in nanoseconds. -/
def total (time : SplitTime) : Nat := Duration.ofSeconds time.seconds + time.nanos

/-- The last second of the clock. -/
def lastSecond : Nat := 0x7FFFFFFFFFFFFFFF

/-- The time a span after a reading. The seconds have to fit as they are, and
once more if the nanoseconds make a second. -/
def after? (now span : SplitTime) : Option SplitTime :=
  if now.seconds + span.seconds ≤ lastSecond then
    if fits : now.nanos + span.nanos < 1000000000 then
      some ⟨now.seconds + span.seconds, now.nanos + span.nanos, fits⟩
    else if now.seconds + span.seconds + 1 ≤ lastSecond then
      some
        { seconds := now.seconds + span.seconds + 1
          nanos := now.nanos + span.nanos - 1000000000
          small := by have left := now.small; have right := span.small; omega }
    else none
  else none

/-- Whether a time is not after another one. Where the seconds are the same,
the nanoseconds decide. -/
def atMost (left right : SplitTime) : Bool :=
  left.seconds < right.seconds ||
    left.seconds == right.seconds && decide (left.nanos ≤ right.nanos)

/-- The span from one time to another one, zero if that is not after it. Where
the nanoseconds do not suffice, they borrow a second. -/
def since (later earlier : SplitTime) : SplitTime :=
  if earlier.atMost later then
    if enough : earlier.nanos ≤ later.nanos then
      { seconds := later.seconds - earlier.seconds
        nanos := later.nanos - earlier.nanos
        small := Nat.lt_of_le_of_lt (Nat.sub_le ..) later.small }
    else
      { seconds := later.seconds - earlier.seconds - 1
        nanos := later.nanos + 1000000000 - earlier.nanos
        small := by omega }
  else ⟨0, 0, by decide⟩

/-- When something written now with the given lifetime lapses. -/
def deadline (now lifetime : SplitTime) : Option SplitTime :=
  if lifetime.seconds = 0 ∧ lifetime.nanos = 0 then none else now.after? lifetime

/-- The sum of two times stays on the clock if the sum of the seconds does,
with the second that the nanoseconds may make. -/
theorem total_add_le_last_iff (now span : SplitTime) :
    now.total + span.total ≤ Instant.last ↔
      now.seconds + span.seconds + (now.nanos + span.nanos) / 1000000000 ≤ lastSecond := by
  have last : Instant.last = (lastSecond * 1000000000 + 999999999 : Nat) := rfl
  rw [last, total, total, Duration.ofSeconds, Duration.ofSeconds]
  omega

/-- The two checks of the seconds together are the check of the whole sum. -/
theorem map_total_after? (now span : SplitTime) :
    (now.after? span).map total = Instant.after? now.total span.total := by
  have left := now.small
  have right := span.small
  have whole := total_add_le_last_iff now span
  by_cases inside : now.seconds + span.seconds ≤ lastSecond
  · by_cases fits : now.nanos + span.nanos < 1000000000
    · have bound : now.total + span.total ≤ Instant.last := whole.mpr (by omega)
      rw [after?, if_pos inside, dif_pos fits, Instant.after?, if_pos bound, Option.map_some]
      simp only [total, Duration.ofSeconds, Option.some.injEq]
      omega
    · by_cases carried : now.seconds + span.seconds + 1 ≤ lastSecond
      · have bound : now.total + span.total ≤ Instant.last := whole.mpr (by omega)
        rw [after?, if_pos inside, dif_neg fits, if_pos carried, Instant.after?, if_pos bound,
          Option.map_some]
        simp only [total, Duration.ofSeconds, Option.some.injEq]
        omega
      · have past : ¬now.total + span.total ≤ Instant.last := mt whole.mp (by omega)
        rw [after?, if_pos inside, dif_neg fits, if_neg carried, Instant.after?, if_neg past,
          Option.map_none]
  · have past : ¬now.total + span.total ≤ Instant.last := mt whole.mp (by omega)
    rw [after?, if_neg inside, Instant.after?, if_neg past, Option.map_none]

theorem atMost_iff (left right : SplitTime) :
    left.atMost right = true ↔ left.total ≤ right.total := by
  obtain ⟨seconds, nanos, small⟩ := left
  obtain ⟨otherSeconds, otherNanos, otherSmall⟩ := right
  simp only [atMost, total, Duration.ofSeconds, Bool.or_eq_true, Bool.and_eq_true,
    decide_eq_true_eq, beq_iff_eq]
  omega

theorem total_since (later earlier : SplitTime) :
    (later.since earlier).total = later.total - earlier.total := by
  have order := earlier.atMost_iff later
  have left := later.small
  have right := earlier.small
  by_cases ahead : earlier.atMost later = true
  · have before := order.mp ahead
    by_cases enough : earlier.nanos ≤ later.nanos
    · rw [since, if_pos ahead, dif_pos enough]
      simp only [total, Duration.ofSeconds] at before ⊢
      omega
    · rw [since, if_pos ahead, dif_neg enough]
      simp only [total, Duration.ofSeconds] at before ⊢
      omega
  · have after := mt order.mpr ahead
    rw [since, if_neg ahead, Nat.sub_eq_zero_of_le (Nat.le_of_not_le after)]
    rfl

theorem total_eq_zero_iff (time : SplitTime) :
    time.total = 0 ↔ time.seconds = 0 ∧ time.nanos = 0 := by
  simp only [total, Duration.ofSeconds]
  omega

theorem map_total_deadline (now lifetime : SplitTime) :
    (deadline now lifetime).map total = SharedState.deadline now.total lifetime.total := by
  simp only [deadline, SharedState.deadline, ← total_eq_zero_iff, ← map_total_after?]
  by_cases endless : lifetime.total = 0 <;> simp [endless]

end SplitTime

end SharedState
