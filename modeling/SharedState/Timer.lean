import SharedState.Time

/-!
# Timers

A timer tells when a pause that begins now is over. It counts in whole
milliseconds: an instant that is none is rounded up to the next one. A timer may
wake a sleeper sooner than that, and where the clock leaves no room for the end
of the pause it may fail.

What is said of sleepers holds under every timer that keeps its pauses. Two such
timers differ in how they deal with a pause of more than thirty years. An engine
runs on the first of them, which does as the program has been seen to do; nothing
depends on that choice but when such a pause ends.
-/

namespace SharedState

/-- When a pause that begins at an instant is over, if it shall last so long;
none if the timer fails. -/
abbrev Timer := Instant → Duration → Option Instant

namespace Timer

/-- What an instant lacks to the next millisecond at most. -/
def slack : Duration := 999999

/-- The first whole millisecond that is not before an instant. -/
def roundUp (instant : Instant) : Instant :=
  Duration.ofMillis (Duration.toMillis (instant + slack))

/-- A timer keeps its pauses if it ends none of them late, and fails only where
the clock ends. -/
structure Keeps (timer : Timer) : Prop where
  tells : ∀ {now : Instant} {pause : Duration},
    now + pause + slack ≤ Instant.last → (timer now pause).isSome = true
  inTime : ∀ {now : Instant} {pause : Duration} {wake : Instant},
    timer now pause = some wake → wake ≤ roundUp (now + pause)

/-- The last instant that a wake can be set to. Wakes are counted in
milliseconds of 64 bits, and the two highest counts are set aside. -/
def lastWake : Instant := Duration.ofMillis 0xFFFFFFFFFFFFFFFD

/-- The wake for an instant; none if the clock ends before it is rounded up. -/
def wakeAt? (instant : Instant) : Option Instant :=
  (Instant.after? instant slack).map fun _ => min lastWake (roundUp instant)

/-- Thirty years of 365 days. -/
def thirtyYears : Duration := Duration.ofSeconds (30 * 365 * 86400)

/-- The timer that ends every pause after thirty years. -/
def standard : Timer := fun now pause => wakeAt? (now + min thirtyYears pause)

/-- The timer that does so only with a pause whose end is not on the clock. -/
def patient : Timer := fun now pause =>
  wakeAt? (if now + pause ≤ Instant.last then now + pause else now + thirtyYears)

theorem roundUp_mono {earlier later : Instant} (order : earlier ≤ later) :
    roundUp earlier ≤ roundUp later :=
  Nat.mul_le_mul_right _ (Nat.div_le_div_right (Nat.add_le_add_right order _))

/-- Before the millisecond that an instant is rounded up to, the last whole
millisecond is before the instant. -/
theorem ofMillis_toMillis_lt {now instant : Instant} (early : now < roundUp instant) :
    Duration.ofMillis (Duration.toMillis now) < instant := by
  have next : Duration.toMillis now + 1 ≤ Duration.toMillis (instant + slack) :=
    (Nat.div_lt_iff_lt_mul (by decide)).mpr early
  have below : (Duration.toMillis now + 1) * 1000000 ≤ instant + slack :=
    Nat.le_trans (Nat.mul_le_mul_right _ next) (Nat.div_mul_le_self ..)
  have short : slack < 1000000 := by decide
  rw [Nat.succ_mul] at below
  exact Nat.lt_of_add_lt_add_right
    (Nat.lt_of_lt_of_le (Nat.add_lt_add_left short _) below)

theorem wakeAt?_eq_some_iff {instant wake : Instant} :
    wakeAt? instant = some wake ↔
      instant + slack ≤ Instant.last ∧ wake = min lastWake (roundUp instant) := by
  simp only [wakeAt?, Option.map_eq_some_iff, Instant.after?_eq_some_iff]
  constructor
  · rintro ⟨reached, ⟨inside, -⟩, rfl⟩
    exact ⟨inside, rfl⟩
  · rintro ⟨inside, rfl⟩
    exact ⟨_, ⟨inside, rfl⟩, rfl⟩

theorem isSome_wakeAt? {instant : Instant} (inside : instant + slack ≤ Instant.last) :
    (wakeAt? instant).isSome = true :=
  Option.isSome_iff_exists.mpr ⟨_, wakeAt?_eq_some_iff.mpr ⟨inside, rfl⟩⟩

/-- A wake for an instant that is not after the end of a pause comes in time. -/
theorem le_roundUp_of_wakeAt? {earlier later wake : Instant} (order : earlier ≤ later)
    (found : wakeAt? earlier = some wake) : wake ≤ roundUp later := by
  rw [(wakeAt?_eq_some_iff.mp found).2]
  exact Nat.le_trans (Nat.min_le_right ..) (roundUp_mono order)

theorem keeps_patient : Keeps patient where
  tells {now pause} inside := by
    have onClock : now + pause ≤ Instant.last := Nat.le_trans (Nat.le_add_right ..) inside
    rw [patient, if_pos onClock]
    exact isSome_wakeAt? inside
  inTime {now pause wake} found := by
    by_cases onClock : now + pause ≤ Instant.last
    · rw [patient, if_pos onClock] at found
      exact le_roundUp_of_wakeAt? (Nat.le_refl _) found
    · -- The thirty years end on the clock, and the pause does not.
      rw [patient, if_neg onClock] at found
      have told := (wakeAt?_eq_some_iff.mp found).1
      have inside : now + thirtyYears ≤ Instant.last := Nat.le_trans (Nat.le_add_right ..) told
      exact le_roundUp_of_wakeAt? (Nat.le_trans inside (Nat.le_of_not_le onClock)) found

end Timer

end SharedState
