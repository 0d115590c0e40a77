/-!
# Instants and durations

Time is counted in whole nanoseconds. The clock is monotonic and starts at
zero; it can represent every instant up to `Instant.last` and none above it.
An instant past the end of the clock is no instant, so adding a duration to a
reading is partial.
-/

namespace SharedState

/-- A span of time in nanoseconds. -/
abbrev Duration := Nat

/-- A reading of the monotonic clock, in nanoseconds since its start. -/
abbrev Instant := Nat

namespace Duration

/-- The duration of a number of milliseconds. -/
def ofMillis (millis : Nat) : Duration := millis * 1000000

/-- The duration of a number of seconds. -/
def ofSeconds (seconds : Nat) : Duration := seconds * 1000000000

/-- Whole milliseconds in a duration; a remainder is dropped. -/
def toMillis (duration : Duration) : Nat := duration / 1000000

@[simp]
theorem toMillis_ofMillis (millis : Nat) : toMillis (ofMillis millis) = millis := by
  simp [toMillis, ofMillis]

end Duration

namespace Instant

/-- The last instant of the clock: its seconds are a signed 64-bit word. -/
def last : Instant := Duration.ofSeconds 0x7FFFFFFFFFFFFFFF + 999999999

/-- The instant a duration after a reading, if the clock can represent it. -/
def after? (now : Instant) (duration : Duration) : Option Instant :=
  if now + duration ≤ last then some (now + duration) else none

theorem after?_eq_some_iff {now : Instant} {duration : Duration} {result : Instant} :
    after? now duration = some result ↔ now + duration ≤ last ∧ result = now + duration := by
  by_cases inside : now + duration ≤ last
  · simp [after?, inside, eq_comm]
  · simp [after?, inside]

end Instant

/-- When something written now with the given lifetime lapses. A zero lifetime
never lapses, and neither does one that ends after the last instant. -/
def deadline (now : Instant) (lifetime : Duration) : Option Instant :=
  if lifetime = 0 then none else Instant.after? now lifetime

theorem deadline_eq_some_iff {now : Instant} {lifetime : Duration} {result : Instant} :
    deadline now lifetime = some result ↔
      lifetime ≠ 0 ∧ now + lifetime ≤ Instant.last ∧ result = now + lifetime := by
  by_cases endless : lifetime = 0
  · simp [deadline, endless]
  · simp [deadline, endless, Instant.after?_eq_some_iff]

end SharedState
