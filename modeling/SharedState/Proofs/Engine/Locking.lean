import SharedState.Proofs.Engine.Reclaiming

/-!
# Keys as locks

A key that is written only where it is free is a lock: whoever writes it holds
it until its deadline, and everybody else who tries to write it meanwhile is
turned away. Callers do not appear in the steps. However many there are, what
they do together is one run, and the statements are about every run.

Besides its deadline, four steps can end or alter a lock: a value written over
it, a new lifetime, its deletion, and a flush. Such a step disturbs the key.
The invariant of a run that does not disturb a key is that an entry which was
under it once is still there or has lapsed.
-/

namespace SharedState

namespace Vanishing

/-- Whether a step ends or alters a lock on a key. -/
def Event.disturbs (key : String) : Event → Bool
  | .call (.set other _ _) => other = key
  | .call (.delete keys) => key ∈ keys
  | .call (.expire other _) => other = key
  | .clear => true
  | _ => false

/-- Whether a step tries to lock a key. -/
def Event.locks (key : String) : Event → Bool
  | .call (.setIfAbsent other _ _) => other = key
  | _ => false

/-- An entry that was under a key is still there, or it has lapsed. -/
def KeptFor (map : Vanishing) (key : String) (entry : Entry) : Prop :=
  map.held key = some entry ∨ entry.isLapsed map.now = true

variable {map : Vanishing} {key : String} {event : Event} {entry : Entry}

theorem now_le_step (map : Vanishing) (event : Event) : map.now ≤ (map.step event).2.now := by
  cases event with
  | call command =>
      cases command with
      | setIfAbsent other value lifetime =>
          by_cases taken : map.contains other = true <;> simp [step, apply, put, taken]
      | expire other lifetime => cases found : map.held other <;> simp [step, apply, put, found]
      | lifetime other => cases found : map.held other <;> simp [step, apply, found]
      | _ => exact Nat.le_refl _
  | clear => exact Nat.le_refl _
  | advance duration => exact Nat.le_add_right ..

/-- A try to lock a key succeeds exactly if the key is free. -/
theorem step_setIfAbsent_fst (map : Vanishing) (key value : String) (lifetime : Duration) :
    (map.step (.call (.setIfAbsent key value lifetime))).1 = .flag (map.held key).isNone := by
  cases found : map.held key <;> simp [step, apply, contains, found]

/-- What was under the key stays; if nothing was, the try is the lock. -/
theorem held_step_setIfAbsent (map : Vanishing) (key value : String) (lifetime : Duration) :
    (map.step (.call (.setIfAbsent key value lifetime))).2.held key =
      some ((map.held key).getD (Entry.create map.now value lifetime)) := by
  rw [Entry.create, deadline_eq_due]
  cases found : map.held key <;> simp [step, apply, put, contains, found]

/-- What a step can do to a key that it does not disturb. -/
theorem held_step_cases (map : Vanishing) (calm : event.disturbs key = false) :
    (∃ value lifetime, event = .call (.setIfAbsent key value lifetime) ∧
      (map.step event).2.held key =
        some ((map.held key).getD (Entry.create map.now value lifetime))) ∨
    (∃ duration, event = .advance duration ∧
      (map.step event).2.held key =
        (map.held key).filter fun entry => !entry.isLapsed (map.now + duration)) ∨
    (map.step event).2.held key = map.held key := by
  cases event with
  | call command =>
      cases command with
      | set other value lifetime =>
          have away : other ≠ key := by simpa [Event.disturbs] using calm
          exact Or.inr (Or.inr (by simp [step, apply, put, Ne.symm away]))
      | delete keys =>
          have away : key ∉ keys := by simpa [Event.disturbs] using calm
          exact Or.inr (Or.inr (by simp [step, apply, away]))
      | expire other lifetime =>
          have away : other ≠ key := by simpa [Event.disturbs] using calm
          refine Or.inr (Or.inr ?_)
          cases found : map.held other <;> simp [step, apply, put, found, Ne.symm away]
      | setIfAbsent other value lifetime =>
          by_cases same : other = key
          · subst same
            exact Or.inl ⟨value, lifetime, rfl, held_step_setIfAbsent ..⟩
          · refine Or.inr (Or.inr ?_)
            by_cases taken : map.contains other = true <;>
              simp [step, apply, put, taken, Ne.symm same]
      | lifetime other =>
          refine Or.inr (Or.inr ?_)
          cases found : map.held other <;> simp [step, apply, found]
      | get other => exact Or.inr (Or.inr rfl)
      | contains other => exact Or.inr (Or.inr rfl)
  | clear => cases calm
  | advance duration =>
      exact Or.inr (Or.inl ⟨duration, rfl, by simp [step, advance, Entry.not_isLapsed]⟩)

/-- A free key stays free while nobody tries to lock it. -/
theorem held_step_of_free (calm : event.disturbs key = false) (idle : event.locks key = false)
    (free : map.held key = none) : (map.step event).2.held key = none := by
  rcases held_step_cases map calm with
    ⟨value, lifetime, rfl, -⟩ | ⟨duration, -, later⟩ | same
  · simp [Event.locks] at idle
  · rw [later, free]
    rfl
  · rw [same, free]

theorem keptFor_step (calm : event.disturbs key = false) (kept : map.KeptFor key entry) :
    (map.step event).2.KeptFor key entry := by
  rcases kept with there | lapsed
  · rcases held_step_cases map calm with
      ⟨value, lifetime, rfl, taken⟩ | ⟨duration, rfl, later⟩ | same
    · exact Or.inl (by rw [taken, there, Option.getD_some])
    · cases lapsed : entry.isLapsed (map.now + duration) with
      | false => exact Or.inl (by simp [later, there, Option.filter, lapsed])
      | true => exact Or.inr lapsed
    · exact Or.inl (same.trans there)
  · exact Or.inr (Entry.isLapsed_mono (now_le_step map event) lapsed)

end Vanishing

/-- What a step of the content means to its values. -/
def Content.Event.value? : Content.Event → Option Vanishing.Event
  | .call (.value command) => some (.call command)
  | .call _ => none
  | .flush => some .clear
  | .advance duration => some (.advance duration)

theorem Content.refines_values :
    Refines Content.step (fun _ => True) Content.values Content.Event.value? id
      Vanishing.step where
  kept _ := trivial
  result {content event label} _ means := by
    rcases event with (_ | _ | _ | _ | _) | _ | _ <;> cases means <;> rfl
  next {content event label} _ means := by
    rcases event with (_ | _ | _ | _ | _) | _ | _ <;> cases means <;> rfl
  hidden {content event} _ means := by
    rcases event with (_ | _ | _ | _ | _) | _ | _ <;> cases means <;> rfl

namespace Engine

/-- What a step means to the values: reclaiming and calls for containers mean
nothing. -/
def Event.value? (event : Event) : Option Vanishing.Event :=
  event.data?.bind Content.Event.value?

/-- The values that are there, as opposed to those in memory. -/
def values (engine : Engine) : Vanishing :=
  KeyValue.vanishing (engine.now, engine.store.values)

/-- What is under a key, if it is live. -/
def live? (engine : Engine) (key : String) : Option Entry :=
  engine.store.values.live? engine.now key

/-- A try to lock a key. -/
def lock (key holder : String) (lifetime : Duration) : Event :=
  .call (.value (.setIfAbsent key holder lifetime))

/-- Whether a step ends or alters a lock on a key. -/
def Event.disturbs (key : String) (event : Event) : Bool :=
  event.value?.any (Vanishing.Event.disturbs key)

/-- Whether a step tries to lock a key. -/
def Event.locks (key : String) (event : Event) : Bool :=
  event.value?.any (Vanishing.Event.locks key)

variable {engine : Engine} {event : Event} {key holder : String} {lifetime : Duration}
  {entry : Entry} {steps : List Event}

/-- Under every regime an engine is the map of its live values to whoever calls
for values. -/
theorem refines_values :
    Refines step (fun _ => True) values Event.value? (id ∘ id) Vanishing.step :=
  refines_content.comp Content.refines_values fun _ => trivial

/-- A call for values is answered by the map of live values, and is its step. -/
theorem step_value (engine : Engine) (command : KeyValue.Command) :
    (step engine (.call (.value command))).1 = (engine.values.step (.call command)).1 ∧
      (step engine (.call (.value command))).2.values =
        (engine.values.step (.call command)).2 :=
  ⟨refines_values.result trivial rfl, refines_values.next trivial rfl⟩

/-- What a step of the map of live values keeps, if it is a step that the
engine's step means, the engine's step keeps. -/
theorem values_step (Holds : Vanishing → Prop)
    (kept : ∀ label, event.value? = some label →
      Holds engine.values → Holds (engine.values.step label).2)
    (holds : Holds engine.values) : Holds (step engine event).2.values := by
  cases means : event.value? with
  | none => exact (refines_values.hidden trivial means).symm ▸ holds
  | some label => exact (refines_values.next trivial means).symm ▸ kept label means holds

theorem now_le_step (engine : Engine) (event : Event) :
    engine.now ≤ (step engine event).2.now :=
  values_step (fun map => engine.now ≤ map.now)
    (fun label _ before => Nat.le_trans before (engine.values.now_le_step label))
    (Nat.le_refl _)

theorem now_le_run (engine : Engine) (steps : List Event) :
    engine.now ≤ (run step engine steps).2.now := by
  have kept : ∀ later event, engine.now ≤ later.now → engine.now ≤ (step later event).2.now :=
    fun later event before => Nat.le_trans before (now_le_step later event)
  exact run_invariant kept (Nat.le_refl _) steps

theorem live?_step_of_free (calm : event.disturbs key = false) (idle : event.locks key = false)
    (free : engine.live? key = none) : (step engine event).2.live? key = none :=
  values_step (fun map => map.held key = none)
    (fun label means =>
      Vanishing.held_step_of_free (by simpa [Event.disturbs, means] using calm)
        (by simpa [Event.locks, means] using idle))
    free

theorem keptFor_step (calm : event.disturbs key = false)
    (kept : engine.values.KeptFor key entry) :
    (step engine event).2.values.KeptFor key entry :=
  values_step (fun map => map.KeptFor key entry)
    (fun label means => Vanishing.keptFor_step (by simpa [Event.disturbs, means] using calm))
    kept

/-- A free key that nobody tries to lock is free in the end. -/
theorem live?_run_of_free (calm : ∀ event ∈ steps, event.disturbs key = false)
    (idle : ∀ event ∈ steps, event.locks key = false) (free : engine.live? key = none) :
    (run step engine steps).2.live? key = none :=
  run_invariant_of_forall (fun state : Engine => state.live? key = none)
    (fun kind free => live?_step_of_free kind.1 kind.2 free) free
    fun event member => And.intro (calm event member) (idle event member)

theorem keptFor_run (calm : ∀ event ∈ steps, event.disturbs key = false)
    (kept : engine.values.KeptFor key entry) :
    (run step engine steps).2.values.KeptFor key entry :=
  run_invariant_of_forall (fun state : Engine => state.values.KeptFor key entry)
    keptFor_step kept calm

theorem lock_fst (engine : Engine) (key holder : String) (lifetime : Duration) :
    (step engine (lock key holder lifetime)).1 = .flag (engine.live? key).isNone :=
  (step_value engine _).1.trans (engine.values.step_setIfAbsent_fst key holder lifetime)

theorem live?_lock (engine : Engine) (key holder : String) (lifetime : Duration) :
    (step engine (lock key holder lifetime)).2.live? key =
      some ((engine.live? key).getD (Entry.create engine.now holder lifetime)) := by
  have follows := (step_value engine (.setIfAbsent key holder lifetime)).2
  exact (congrArg (fun map => map.held key) follows).trans
    (engine.values.held_step_setIfAbsent key holder lifetime)

theorem get_fst (engine : Engine) (key : String) :
    (step engine (.call (.value (.get key)))).1 =
      .ofText? ((engine.live? key).map Entry.value) :=
  (step_value engine (.get key)).1

/-- What whoever locks a free key wrote is there until it lapses. -/
theorem keptFor_run_of_lock (calm : ∀ event ∈ steps, event.disturbs key = false)
    (free : engine.live? key = none) :
    (run step (step engine (lock key holder lifetime)).2 steps).2.values.KeptFor key
      (Entry.create engine.now holder lifetime) :=
  keptFor_run calm
    (Or.inl ((live?_lock engine key holder lifetime).trans (by rw [free, Option.getD_none])))

/-- If a key can be locked again, the deadline of the lock before has come. -/
theorem deadline_of_relocked {second : String} {secondLifetime : Duration}
    (calm : ∀ event ∈ steps, event.disturbs key = false)
    (locked : (step engine (lock key holder lifetime)).1 = .flag true)
    (relocked :
      (step (run step (step engine (lock key holder lifetime)).2 steps).2
        (lock key second secondLifetime)).1 = .flag true) :
    lifetime ≠ 0 ∧ engine.now + lifetime ≤ Instant.last ∧
      engine.now + lifetime ≤
        (run step (step engine (lock key holder lifetime)).2 steps).2.now := by
  have free : engine.live? key = none := by simpa [lock_fst] using locked
  have freed : (run step (step engine (lock key holder lifetime)).2 steps).2.live? key =
      none := by simpa [lock_fst] using relocked
  rcases keptFor_run_of_lock calm free with there | lapsed
  · cases freed.symm.trans there
  · obtain ⟨instant, found, past⟩ := Entry.isLapsed_eq_true_iff.mp lapsed
    obtain ⟨positive, inside, rfl⟩ := deadline_eq_some_iff.mp found
    exact ⟨positive, inside, past⟩

/-- Until its deadline a lock is as it was made. -/
theorem live?_run_of_lock (calm : ∀ event ∈ steps, event.disturbs key = false)
    (free : engine.live? key = none)
    (early : ∀ instant, deadline engine.now lifetime = some instant →
      (run step (step engine (lock key holder lifetime)).2 steps).2.now < instant) :
    (run step (step engine (lock key holder lifetime)).2 steps).2.live? key =
      some (Entry.create engine.now holder lifetime) := by
  rcases keptFor_run_of_lock calm free with there | lapsed
  · exact there
  · obtain ⟨instant, found, past⟩ := Entry.isLapsed_eq_true_iff.mp lapsed
    exact absurd past (Nat.not_le_of_lt (early instant found))

theorem eq_lock_of_locks (locks : event.locks key = true) :
    ∃ holder lifetime, event = lock key holder lifetime := by
  cases event with
  | call call =>
      cases call with
      | value command =>
          cases command with
          | setIfAbsent other holder lifetime =>
              obtain rfl : other = key := of_decide_eq_true locks
              exact ⟨holder, lifetime, rfl⟩
          | _ => cases locks
      | _ => cases locks
  | _ => cases locks

/-- A try to lock a key that is taken changes nothing. -/
theorem lock_of_taken (taken : engine.live? key = some entry) (locks : event.locks key = true) :
    (step engine event).1 = .flag false ∧
      (step engine event).2.live? key = engine.live? key := by
  obtain ⟨holder, lifetime, rfl⟩ := eq_lock_of_locks locks
  constructor
  · rw [lock_fst, taken]
    rfl
  · rw [live?_lock, taken, Option.getD_some]

/-- Keys are locks, whatever the regime of the engine and whoever takes the
steps. If a key is locked and locked again, and no step in between disturbs it,
then the first lock had a deadline and it has come. And in a run from where a
key is free, which nothing disturbs and which ends before the deadline of the
first lock, the first try to lock the key succeeds. From then on the key holds
what that caller wrote, with that caller's deadline: everybody reads that
value, and every other try fails and leaves value and deadline as they are. -/
theorem locks_exclude (engine : Engine) (key : String) :
    (∀ first lifetime between second secondLifetime,
      (∀ event ∈ between, Event.disturbs key event = false) →
      let locked := step engine (lock key first lifetime)
      let later := (run step locked.2 between).2
      locked.1 = .flag true → (step later (lock key second secondLifetime)).1 = .flag true →
      lifetime ≠ 0 ∧ engine.now + lifetime ≤ Instant.last ∧
        engine.now + lifetime ≤ later.now) ∧
    ∀ before holder lifetime after,
      engine.live? key = none →
      (∀ event ∈ before ++ after, Event.disturbs key event = false) →
      (∀ event ∈ before, Event.locks key event = false) →
      let start := (run step engine before).2
      let locked := step start (lock key holder lifetime)
      (∀ instant, deadline start.now lifetime = some instant →
        (run step locked.2 after).2.now < instant) →
      locked.1 = .flag true ∧
        ∀ front event back, after = front ++ event :: back →
          let state := (run step locked.2 front).2
          state.live? key = some (Entry.create start.now holder lifetime) ∧
            (event = .call (.value (.get key)) → (step state event).1 = .text holder) ∧
            (event.locks key = true → (step state event).1 = .flag false ∧
              (step state event).2.live? key = state.live? key) := by
  constructor
  · intro first lifetime between second secondLifetime calm locked later
    exact deadline_of_relocked calm
  · intro before holder lifetime after free calm idle start locked early
    obtain ⟨calmBefore, calmAfter⟩ := List.forall_mem_append.mp calm
    have stillFree : start.live? key = none := live?_run_of_free calmBefore idle free
    constructor
    · exact (lock_fst start key holder lifetime).trans (by rw [stillFree]; rfl)
    · intro front event back split state
      subst split
      obtain ⟨calmFront, -⟩ := List.forall_mem_append.mp calmAfter
      have earlyFront : ∀ instant, deadline start.now lifetime = some instant →
          state.now < instant := by
        intro instant found
        have onTime := early instant found
        rw [run_append] at onTime
        exact Nat.lt_of_le_of_lt (now_le_run state (event :: back)) onTime
      have taken : state.live? key = some (Entry.create start.now holder lifetime) :=
        live?_run_of_lock calmFront stillFree earlyFront
      refine ⟨taken, ?_, lock_of_taken taken⟩
      rintro rfl
      rw [get_fst, taken]
      rfl

/-- A lock of five nanoseconds: a second try fails after three of them, and
succeeds after all five. -/
theorem locks_exclude_five :
    let start := under (some 7)
    let locked := step start (lock "k" "a" 5)
    let early := (run step locked.2 [.call (.value (.get "k")), .advance 3]).2
    let late := (run step locked.2 [.sweep, .advance 5]).2
    early.live? "k" = some ⟨"a", some 5⟩ ∧
      (step early (lock "k" "b" 0)).1 = .flag false ∧
      (step late (lock "k" "b" 0)).1 = .flag true ∧ start.now + 5 ≤ late.now := by
  intro start locked early late
  have won : locked.1 = .flag true := by decide
  have relocked : (step late (lock "k" "b" 0)).1 = .flag true := by decide
  obtain ⟨-, -, passed⟩ :=
    (locks_exclude start "k").1 "a" 5 [.sweep, .advance 5] "b" 0 (by decide) won relocked
  have inTime : ∀ instant, deadline start.now 5 = some instant →
      (run step locked.2 [.call (.value (.get "k")), .advance 3, lock "k" "b" 0]).2.now <
        instant := by
    rintro instant ⟨⟩
    decide
  obtain ⟨-, excluded⟩ := (locks_exclude start "k").2 [] "a" 5
    [.call (.value (.get "k")), .advance 3, lock "k" "b" 0] (by decide) (by decide) (by decide)
    inTime
  obtain ⟨there, -, turnedAway⟩ :=
    excluded [.call (.value (.get "k")), .advance 3] (lock "k" "b" 0) [] rfl
  exact ⟨there, (turnedAway (by decide)).1, relocked, passed⟩

end Engine

end SharedState
