import SharedState.Proofs.Engine.Reclaiming
import SharedState.Proofs.KeyValue.Lapsing
import SharedState.Proofs.Sweeper

/-!
# How long lapsed values stay in memory

While its sweeper runs, an engine keeps no lapsed value for as long as the
sweeper pauses, give or take that the timer counts in whole milliseconds. The
reason is an invariant of the next wake: it never lies more than a pause ahead of
the clock, and it comes less than a pause after any deadline in memory, where
both sums are rounded up as the timer does. A step can bring in a deadline only
ahead of the clock, so neither writes nor new lifetimes nor the passing of time
break it, and when the sweeper goes back to sleep, only such deadlines are left.

Of the timer no more is used than that it keeps its pauses.
-/

namespace SharedState

namespace Engine

/-- A step, and whether the task of the sweeper then looks at its signal first. -/
structure Move where
  event : Event
  signalFirst : Bool
deriving DecidableEq

/-- Takes a step under a timer. -/
def move (timer : Timer) (engine : Engine) (move : Move) : Answer × Engine :=
  engine.stepBy timer move.signalFirst move.event

/-- Whether there is a sweeper that was not stopped and whose task is not over. -/
def isRunning (engine : Engine) : Bool :=
  engine.sweeper.any fun sweeper => !sweeper.stopped && !sweeper.task.isOver

/-- When the sweeper wakes next, if it is asleep. -/
def wake? (engine : Engine) : Option Instant :=
  engine.sweeper.bind fun sweeper =>
    match sweeper.task with
    | .asleep wake => some wake
    | _ => none

/-- Whether the sweeper sweeps at the end of a step. -/
def wakes (timer : Timer) (engine : Engine) (move : Move) : Bool :=
  let performed := (engine.perform move.event).2
  performed.sweeper.any fun sweeper =>
    (sweeper.turn timer move.signalFirst performed.now).1

/-- Whether memory is swept in a step, because that was asked for or was due. -/
def sweeps (timer : Timer) (engine : Engine) (move : Move) : Bool :=
  move.event = .sweep || engine.wakes timer move

/-- Nothing in memory has lapsed. -/
def Clean (engine : Engine) : Prop := engine.store.values.Clean engine.now

/-- There is a sweeper with a given interval and wake. The wake is neither too far
ahead of the clock nor too far behind any deadline in memory. -/
structure Punctual (interval : Duration) (wake : Option Instant) (engine : Engine) : Prop where
  rests : engine.sweeper = some (Sweeper.resting interval wake)
  ahead : ∀ instant, wake = some instant →
    instant ≤ Timer.roundUp (engine.now + Sweeper.pause interval)
  late : ∀ instant, wake = some instant → engine.store.values.entries.All fun entry =>
    ∀ deadline, entry.deadline = some deadline →
      instant ≤ Timer.roundUp (deadline + Sweeper.pause interval)

/-- What an engine is like between two steps: its sweeper is punctual, and a wake
that is due even so was just set, with nothing left to sweep; or it was stopped
and its task is over. -/
inductive Settled (timer : Timer) (interval : Duration) (engine : Engine) : Prop
  | resting {wake : Option Instant} (punctual : engine.Punctual interval wake)
      (rested : Sweeper.isDue engine.now wake = true →
        engine.Clean ∧ wake = timer engine.now (Sweeper.pause interval))
  | gone {sweeper : Sweeper} (there : engine.sweeper = some sweeper) (isOver : sweeper.Gone)

/-- The sweeper has a next wake, or there is no room for another pause on the clock. -/
def Lasts (interval : Duration) (wake : Option Instant) (engine : Engine) : Prop :=
  wake.isSome = true ∨ Instant.last < engine.now + Sweeper.pause interval + Timer.slack

variable {timer : Timer} {signalFirst : Bool} {engine : Engine} {event : Event}
variable {interval : Duration} {wake : Option Instant} {sweeper : Sweeper}

/-! ## The step itself -/

/-- What has lapsed and is in memory after a step was there before it. -/
theorem sheds_perform (engine : Engine) (event : Event) :
    KeyValue.Sheds engine.now engine.store.values (engine.perform event).2.store.values := by
  cases event with
  | call call =>
      cases call with
      | value command => exact KeyValue.sheds_apply engine.now engine.store.values command
      | _ => exact KeyValue.Sheds.refl engine.now engine.store.values
  | sweep => exact KeyValue.sheds_step (engine.now, engine.store.values) .sweep
  | flush => exact KeyValue.sheds_step (engine.now, engine.store.values) .clear
  | advance duration => exact KeyValue.Sheds.refl engine.now engine.store.values
  | stop => exact KeyValue.Sheds.refl engine.now engine.store.values

theorem now_le_perform (engine : Engine) (event : Event) :
    engine.now ≤ (engine.perform event).2.now := by
  cases event with
  | advance duration => exact Nat.le_add_right ..
  | _ => exact Nat.le_refl _

theorem sweeper_perform (going : event ≠ .stop) :
    (engine.perform event).2.sweeper = engine.sweeper := by
  cases event with
  | stop => exact absurd rfl going
  | _ => rfl

theorem punctual_perform (punctual : engine.Punctual interval wake) (going : event ≠ .stop) :
    (engine.perform event).2.Punctual interval wake where
  rests := (sweeper_perform going).trans punctual.rests
  ahead instant found :=
    Nat.le_trans (punctual.ahead instant found)
      (Timer.roundUp_mono (Nat.add_le_add_right (now_le_perform engine event) _))
  late instant found key entry there deadline due := by
    by_cases past : deadline ≤ engine.now
    · have lapsed := Entry.isLapsed_eq_true_iff.mpr ⟨deadline, due, past⟩
      have before := sheds_perform engine event key entry there lapsed
      exact punctual.late instant found key entry before deadline due
    · exact Nat.le_trans (punctual.ahead instant found)
        (Timer.roundUp_mono (Nat.add_le_add_right (Nat.le_of_not_le past) _))

/-! ## The turn of the sweeper -/

theorem settleBy_eq (there : engine.sweeper = some sweeper) :
    engine.settleBy timer signalFirst =
      { engine with
        store :=
          if (sweeper.turn timer signalFirst engine.now).1 then (engine.store.sweep engine.now).2
          else engine.store
        sweeper := some (sweeper.turn timer signalFirst engine.now).2 } := by
  simp only [settleBy, there]

/-- An engine whose sweeper has just swept and pauses again. -/
def swept (timer : Timer) (interval : Duration) (engine : Engine) : Engine :=
  { engine with
    store := (engine.store.sweep engine.now).2
    sweeper :=
      some (Sweeper.resting interval (timer engine.now (Sweeper.pause interval))) }

theorem clean_swept (timer : Timer) (interval : Duration) (engine : Engine) :
    (engine.swept timer interval).Clean :=
  KeyValue.clean_sweep engine.now engine.store.values

theorem settleBy_of_rests (rests : engine.sweeper = some (Sweeper.resting interval wake)) :
    engine.settleBy timer signalFirst =
      if Sweeper.isDue engine.now wake then engine.swept timer interval else engine := by
  rw [settleBy_eq rests, Sweeper.turn_resting]
  cases due : Sweeper.isDue engine.now wake with
  | true => rfl
  | false =>
      simp only [Bool.false_eq_true, if_false]
      rw [← rests]

/-- When the sweeper goes back to sleep, it is punctual. -/
theorem punctual_swept (keeps : timer.Keeps) (interval : Duration) (engine : Engine) :
    (engine.swept timer interval).Punctual interval
      (timer engine.now (Sweeper.pause interval)) where
  rests := rfl
  ahead _ found := keeps.inTime found
  late instant found key entry there deadline due := by
    have live : entry.isLapsed engine.now = false :=
      clean_swept timer interval engine key entry there
    have ahead : engine.now ≤ deadline := by
      by_contra past
      have lapsed :=
        Entry.isLapsed_eq_true_iff.mpr ⟨deadline, due, Nat.le_of_not_le past⟩
      rw [lapsed] at live
      cases live
    exact Nat.le_trans (keeps.inTime found) (Timer.roundUp_mono (Nat.add_le_add_right ahead _))

theorem settled_settleBy (keeps : timer.Keeps) (punctual : engine.Punctual interval wake) :
    (engine.settleBy timer signalFirst).Settled timer interval := by
  rw [settleBy_of_rests punctual.rests]
  cases due : Sweeper.isDue engine.now wake with
  | true =>
      exact .resting (punctual_swept keeps interval engine)
        fun _ => ⟨clean_swept timer interval engine, rfl⟩
  | false =>
      apply Settled.resting punctual
      intro again
      rw [due] at again
      cases again

theorem gone_settleBy (there : engine.sweeper = some sweeper) (released : sweeper.Released) :
    (engine.settleBy timer signalFirst).Settled timer interval := by
  rw [settleBy_eq there]
  exact .gone rfl released.gone_turn

/-- A sweep of memory in which nothing has lapsed does nothing. -/
theorem sweep_of_clean (clean : engine.Clean) :
    (engine.store.sweep engine.now).2 = engine.store := by
  have same : (engine.store.values.sweep engine.now).2 = engine.store.values := clean.sweep_eq
  simp only [Store.sweep, same]

/-- The sweeper needs one turn only, however late it is. -/
theorem Settled.settleBy_eq (settled : engine.Settled timer interval) (signalFirst : Bool) :
    engine.settleBy timer signalFirst = engine := by
  cases settled with
  | @resting wake punctual rested =>
      rw [settleBy_of_rests punctual.rests]
      cases due : Sweeper.isDue engine.now wake with
      | false => rfl
      | true =>
          obtain ⟨clean, just⟩ := rested due
          rw [if_pos rfl, swept, sweep_of_clean clean, ← just, ← punctual.rests]
  | gone there isOver =>
      rw [Engine.settleBy_eq there, Sweeper.turn_of_isOver isOver.isOver, ← there]
      rfl

/-! ## Runs -/

/-- An engine that is made with a sweeper is one whose sweeper rests and has its turn. -/
theorem createSweptBy_eq (timer : Timer) (interval : Duration) :
    createSweptBy timer interval =
      { create with
        sweeper :=
          some (Sweeper.resting interval (timer 0 (Sweeper.pause interval))) }.settleBy
        timer true := by
  rw [createSweptBy, settleBy_eq rfl, settleBy_eq rfl]
  exact congrArg (fun turned : Bool × Sweeper =>
      { create with
        store := if turned.1 then (Store.empty.sweep 0).2 else Store.empty
        sweeper := some turned.2 })
    (Sweeper.turn_start timer true 0 interval)

theorem punctual_create (keeps : timer.Keeps) (interval : Duration) :
    { create with
      sweeper :=
        some (Sweeper.resting interval (timer 0 (Sweeper.pause interval))) }.Punctual interval
      (timer 0 (Sweeper.pause interval)) where
  rests := rfl
  ahead _ found := keeps.inTime found
  late _ _ := Table.all_empty _

theorem settled_createSweptBy (keeps : timer.Keeps) (interval : Duration) :
    (createSweptBy timer interval).Settled timer interval := by
  rw [createSweptBy_eq]
  exact settled_settleBy keeps (punctual_create keeps interval)

theorem settled_move (keeps : timer.Keeps) (settled : engine.Settled timer interval)
    (next : Move) : (move timer engine next).2.Settled timer interval := by
  cases settled with
  | @resting wake punctual rested =>
      by_cases stops : next.event = .stop
      · have there : (engine.perform next.event).2.sweeper =
            some (Sweeper.resting interval wake).stop := by
          rw [stops, perform, punctual.rests]
          rfl
        exact gone_settleBy there (Sweeper.released_stop rfl)
      · exact settled_settleBy keeps (punctual_perform punctual stops)
  | @gone sweeper there isOver =>
      by_cases stops : next.event = .stop
      · have stopped : (engine.perform next.event).2.sweeper = some sweeper.stop := by
          rw [stops, perform, there]
          rfl
        exact gone_settleBy stopped isOver.stop.released
      · exact gone_settleBy ((sweeper_perform stops).trans there) isOver.released

theorem settled_run (keeps : timer.Keeps) (interval : Duration) (script : List Move) :
    (run (move timer) (createSweptBy timer interval) script).2.Settled timer interval := by
  have kept : ∀ (engine : Engine) (next : Move), engine.Settled timer interval →
      (move timer engine next).2.Settled timer interval :=
    fun _ next settled => settled_move keeps settled next
  exact run_invariant kept (settled_createSweptBy keeps interval) script

/-! ## A sweeper that lasts -/

/-- A sweeper that keeps on resting can lose its wake only where the clock ends. -/
theorem lasts_settleBy (keeps : timer.Keeps) (punctual : engine.Punctual interval wake)
    (lasts : engine.Lasts interval wake) :
    ∃ next, (engine.settleBy timer signalFirst).Punctual interval next ∧
      (engine.settleBy timer signalFirst).Lasts interval next := by
  rw [settleBy_of_rests punctual.rests]
  cases due : Sweeper.isDue engine.now wake with
  | false => exact ⟨wake, punctual, lasts⟩
  | true =>
      refine ⟨_, punctual_swept keeps interval engine, ?_⟩
      exact (Nat.lt_or_ge Instant.last _).symm.imp_left keeps.tells

theorem lasts_move (keeps : timer.Keeps) {next : Move} (going : next.event ≠ .stop)
    (before : ∃ wake, engine.Punctual interval wake ∧ engine.Lasts interval wake) :
    ∃ wake, (move timer engine next).2.Punctual interval wake ∧
      (move timer engine next).2.Lasts interval wake := by
  obtain ⟨wake, punctual, lasts⟩ := before
  apply lasts_settleBy keeps (punctual_perform punctual going)
  refine lasts.imp_right fun ends => Nat.lt_of_lt_of_le ends ?_
  exact Nat.add_le_add_right (Nat.add_le_add_right (now_le_perform engine next.event) _) _

theorem isRunning_of_isSome (punctual : engine.Punctual interval wake)
    (awaits : wake.isSome = true) : engine.isRunning = true := by
  cases wake with
  | none => cases awaits
  | some instant =>
      rw [isRunning, punctual.rests]
      rfl

/-- Unless it is stopped, a sweeper runs as long as another pause fits on the clock. -/
theorem isRunning_run (keeps : timer.Keeps) {script : List Move}
    (going : ∀ next ∈ script, next.event ≠ .stop)
    (inside : (run (move timer) (createSweptBy timer interval) script).2.now +
      Sweeper.pause interval + Timer.slack ≤ Instant.last) :
    (run (move timer) (createSweptBy timer interval) script).2.isRunning = true := by
  have start : ∃ wake, (createSweptBy timer interval).Punctual interval wake ∧
      (createSweptBy timer interval).Lasts interval wake := by
    rw [createSweptBy_eq]
    exact lasts_settleBy keeps (punctual_create keeps interval)
      ((Nat.lt_or_ge Instant.last _).symm.imp_left keeps.tells)
  have kept : ∀ {engine : Engine} {next : Move}, next.event ≠ .stop →
      (∃ wake, engine.Punctual interval wake ∧ engine.Lasts interval wake) →
        ∃ wake, (move timer engine next).2.Punctual interval wake ∧
          (move timer engine next).2.Lasts interval wake :=
    fun going before => lasts_move keeps going before
  obtain ⟨wake, punctual, lasts⟩ := run_invariant_of_forall
    (fun engine : Engine => ∃ wake, engine.Punctual interval wake ∧ engine.Lasts interval wake)
    kept start going
  exact isRunning_of_isSome punctual (lasts.resolve_right (Nat.not_lt_of_le inside))

/-! ## What is in memory -/

/-- While the sweeper runs, what has lapsed did so less than a pause ago, by the
last whole millisecond. -/
theorem lt_deadline_add_pause (settled : engine.Settled timer interval)
    (running : engine.isRunning = true) {key : String} {entry : Entry} {deadline : Instant}
    (there : engine.store.values.entries.get? key = some entry)
    (due : entry.deadline = some deadline) (past : deadline ≤ engine.now) :
    Duration.ofMillis (Duration.toMillis engine.now) < deadline + Sweeper.pause interval := by
  cases settled with
  | gone there isOver =>
      rw [isRunning, there, Option.any_some, isOver.stopped] at running
      cases running
  | @resting wake punctual rested =>
      cases wake with
      | none =>
          rw [isRunning, punctual.rests] at running
          cases running
      | some instant =>
          apply Timer.ofMillis_toMillis_lt
          apply Nat.lt_of_lt_of_le _ (punctual.late instant rfl key entry there deadline due)
          by_contra awake
          have clean := (rested (decide_eq_true (Nat.le_of_not_lt awake))).1
          have live : entry.isLapsed engine.now = false := clean key entry there
          rw [Entry.isLapsed_eq_true_iff.mpr ⟨deadline, due, past⟩] at live
          cases live

/-- If nothing in memory has lapsed, the keys in memory are those that are live. -/
theorem encard_live_of_clean (clean : engine.Clean) :
    {key | (engine.perform (.call (.value (.contains key)))).1 = .flag true}.encard =
      engine.store.counts.values := by
  have answers (key : String) : (engine.perform (.call (.value (.contains key)))).1 =
      .flag (engine.store.values.live? engine.now key).isSome :=
    KeyValue.contains_fst engine.now key engine.store.values
  simp only [answers, KeyValue.Clean.live?_eq clean, Answer.flag.injEq]
  exact Table.encard_keys engine.store.values.entries

theorem clean_settleBy_of_sweeps (there : engine.sweeper = some sweeper)
    (sweeps : (sweeper.turn timer signalFirst engine.now).1 = true) :
    (engine.settleBy timer signalFirst).Clean := by
  rw [settleBy_eq there, if_pos sweeps]
  exact KeyValue.clean_sweep engine.now engine.store.values

/-- The turn of the sweeper leaves clean memory clean. -/
theorem clean_settleBy_of_clean (clean : engine.Clean) :
    (engine.settleBy timer signalFirst).Clean := by
  cases there : engine.sweeper with
  | none => simpa only [settleBy, there] using clean
  | some sweeper =>
      rw [settleBy_eq there, sweep_of_clean clean, ite_self]
      exact clean

theorem clean_move_of_sweeps {next : Move} (swept : engine.sweeps timer next = true) :
    (move timer engine next).2.Clean := by
  rcases Bool.or_eq_true_iff.mp swept with asked | woken
  · apply clean_settleBy_of_clean
    rw [of_decide_eq_true asked]
    exact KeyValue.clean_sweep engine.now engine.store.values
  · obtain ⟨sweeper, there, sweeps⟩ := Option.any_eq_true _ _ |>.mp woken
    exact clean_settleBy_of_sweeps there sweeps

theorem Punctual.wake?_eq (punctual : engine.Punctual interval wake) : engine.wake? = wake := by
  rw [wake?, punctual.rests]
  cases wake <;> rfl

/-- After it has swept, a sweeper that is not stopped pauses for its interval. -/
theorem wake?_move_of_wakes (keeps : timer.Keeps) (settled : engine.Settled timer interval)
    {next : Move} (going : next.event ≠ .stop) (woken : engine.wakes timer next = true) :
    (move timer engine next).2.wake? =
      timer (move timer engine next).2.now (Sweeper.pause interval) := by
  rw [wakes, sweeper_perform going] at woken
  cases settled with
  | gone there isOver =>
      rw [there, Option.any_some, Sweeper.turn_of_isOver isOver.isOver] at woken
      cases woken
  | @resting wake punctual rested =>
      have performed := punctual_perform punctual going
      rw [punctual.rests, Option.any_some, Sweeper.turn_resting] at woken
      cases due : Sweeper.isDue (engine.perform next.event).2.now wake with
      | false =>
          rw [due] at woken
          cases woken
      | true =>
          have slept : (move timer engine next).2 =
              (engine.perform next.event).2.swept timer interval :=
            (settleBy_of_rests performed.rests).trans (if_pos due)
          rw [slept]
          exact (punctual_swept keeps interval _).wake?_eq

/-- Staleness is bounded. Take an engine with a sweeper of any interval, any timer
that keeps its pauses, and any script. The sweeper runs in the state that is
reached if it was not stopped and another pause fits on the clock. If it runs,
every value in memory that has lapsed did so less than a pause before the last
whole millisecond. And if memory is swept in the next step, whatever that step is,
then after it nothing in memory has lapsed, and as many values are counted as
there are live keys. The sweeper sweeps at most once, however much time passes:
another turn of it would change nothing, and it pauses as long as it should
before it wakes again. -/
theorem staleness_bounded (timer : Timer) (keeps : timer.Keeps) (interval : Duration)
    (script : List Move) :
    let reached := (run (move timer) (createSweptBy timer interval) script).2
    ((∀ next ∈ script, next.event ≠ .stop) →
      reached.now + Sweeper.pause interval + Timer.slack ≤ Instant.last →
        reached.isRunning = true) ∧
    (reached.isRunning = true → ∀ key entry deadline,
      reached.store.values.entries.get? key = some entry → entry.deadline = some deadline →
        deadline ≤ reached.now →
          Duration.ofMillis (Duration.toMillis reached.now) <
            deadline + max Sweeper.shortest interval) ∧
    ∀ next : Move,
      let later := (move timer reached next).2
      (reached.sweeps timer next = true →
        (∀ key entry, later.store.values.entries.get? key = some entry →
          entry.isLapsed later.now = false) ∧
        {key | (later.perform (.call (.value (.contains key)))).1 = .flag true}.encard =
          later.store.counts.values) ∧
      (∀ signalFirst, later.settleBy timer signalFirst = later) ∧
      (reached.wakes timer next = true → next.event ≠ .stop →
        later.wake? = timer later.now (Sweeper.pause interval)) := by
  intro reached
  have settled := settled_run keeps interval script
  refine ⟨isRunning_run keeps, ?_, ?_⟩
  · intro running key entry deadline there due past
    exact lt_deadline_add_pause settled running there due past
  · intro next later
    refine ⟨?_, (settled_move keeps settled next).settleBy_eq, ?_⟩
    · intro swept
      have clean : later.Clean := clean_move_of_sweeps swept
      exact ⟨clean, encard_live_of_clean clean⟩
    · intro woken going
      exact wake?_move_of_wakes keeps settled going woken

/-- A value that lapsed just before, under a sweeper that is asked not to pause,
and a single sweep after five milliseconds at once. -/
theorem staleness_bounded_late :
    let script : List Move := [⟨.call (.value (.set "k" "v" 5)), true⟩, ⟨.advance 9, true⟩]
    let reached := (run (move Timer.patient) (createSweptBy Timer.patient 0) script).2
    let later := (move Timer.patient reached ⟨.advance 5000000, false⟩).2
    reached.store.values.entries.get? "k" = some ⟨"v", some 5⟩ ∧
      Duration.ofMillis (Duration.toMillis reached.now) < 5 + max Sweeper.shortest 0 ∧
      (∀ key entry, later.store.values.entries.get? key = some entry →
        entry.isLapsed later.now = false) ∧
      {key | (later.perform (.call (.value (.contains key)))).1 = .flag true}.encard =
        later.store.counts.values ∧
      (∀ signalFirst, later.settleBy Timer.patient signalFirst = later) ∧
      later.wake? = some 7000000 := by
  -- The states stay written out: as names for them they would have to be evaluated.
  obtain ⟨lasts, fresh, next⟩ := staleness_bounded Timer.patient Timer.keeps_patient 0
    [⟨.call (.value (.set "k" "v" 5)), true⟩, ⟨.advance 9, true⟩]
  obtain ⟨swept, settled, woken⟩ := next ⟨.advance 5000000, false⟩
  have running := lasts (by decide) (by decide)
  obtain ⟨clean, live⟩ := swept (by decide)
  refine ⟨by decide, fresh running "k" ⟨"v", some 5⟩ 5 (by decide) rfl (by decide), clean, live,
    settled, ?_⟩
  exact (woken (by decide) (by decide)).trans (by decide)

/-- A value that has lapsed for more than the interval of a sweeper that runs: the
pause that ends in between does not end with a whole millisecond, so the next one
is rounded up. -/
theorem lapsed_longer_than_interval :
    let interval := Duration.ofMillis 1
    let script : List Move :=
      [⟨.advance 1500000, true⟩, ⟨.call (.value (.set "k" "v" 1)), true⟩, ⟨.advance 1400000, true⟩]
    let reached := (run (move Timer.standard) (createSweptBy Timer.standard interval) script).2
    reached.isRunning = true ∧
      reached.store.values.entries.get? "k" = some ⟨"v", some 1500001⟩ ∧
      1500001 + max Sweeper.shortest interval ≤ reached.now := by
  decide

end Engine

end SharedState
