import SharedState.KeyValue
import SharedState.Proofs.Distinct
import SharedState.Proofs.Refinement

/-!
# Values that vanish by themselves

The reference for values with a lifetime is a map from keys to values with a
deadline, in which a key vanishes at the instant at which its deadline comes.
Nothing is ever discarded by an operation. What is kept in memory differs from
this map by lapsed entries only, and these are not seen by any call.
-/

namespace SharedState

/-- A map from keys to values that are gone when their deadline comes. -/
@[ext]
structure Vanishing where
  now : Instant
  /-- What is there now. -/
  held : String → Option Entry

namespace Vanishing

/-- Nothing is there. -/
def empty : Vanishing := ⟨0, fun _ => none⟩

/-- When a value with the given lifetime vanishes. -/
def due (now : Instant) (lifetime : Duration) : Option Instant :=
  if lifetime = 0 ∨ Instant.last < now + lifetime then none else some (now + lifetime)

/-- Keeps a value until its lifetime is over. -/
def put (map : Vanishing) (key value : String) (lifetime : Duration) : Vanishing :=
  { map with
    held := fun other =>
      if other = key then some ⟨value, due map.now lifetime⟩ else map.held other }

/-- Whether a key is there. -/
def contains (map : Vanishing) (key : String) : Bool := (map.held key).isSome

/-- Answers a call. -/
def apply (map : Vanishing) : KeyValue.Command → Answer × Vanishing
  | .get key => (.ofText? ((map.held key).map Entry.value), map)
  | .set key value lifetime => (.done, map.put key value lifetime)
  | .delete keys =>
      (.count (keys.dedup.countP map.contains),
        { map with held := fun key => if key ∈ keys then none else map.held key })
  | .contains key => (.flag (map.contains key), map)
  | .setIfAbsent key value lifetime =>
      if map.contains key then (.flag false, map)
      else (.flag true, map.put key value lifetime)
  | .expire key lifetime =>
      match map.held key with
      | none => (.missing, map)
      | some entry => (.done, map.put key entry.value lifetime)
  | .lifetime key =>
      match map.held key with
      | none => (.missing, map)
      | some entry => (.lifetime (entry.deadline.map (· - map.now)), map)

/-- A step in the life of a map. -/
inductive Event where
  | call (command : KeyValue.Command)
  | clear
  | advance (duration : Duration)
deriving DecidableEq

/-- Lets time pass; what is due by then vanishes. -/
def advance (map : Vanishing) (duration : Duration) : Vanishing where
  now := map.now + duration
  held key := (map.held key).filter fun entry =>
    entry.deadline.all fun deadline => map.now + duration < deadline

/-- Takes one step. -/
def step (map : Vanishing) : Event → Answer × Vanishing
  | .call command => map.apply command
  | .clear => (.done, { map with held := fun _ => none })
  | .advance duration => (.done, map.advance duration)

/-- What a step of the values means to the map: a sweep means nothing. -/
def event? : KeyValue.Event → Option Event
  | .call command => some (.call command)
  | .sweep => none
  | .clear => some .clear
  | .advance duration => some (.advance duration)

end Vanishing

theorem deadline_eq_due (now : Instant) (lifetime : Duration) :
    deadline now lifetime = Vanishing.due now lifetime := by
  unfold deadline Vanishing.due Instant.after?
  by_cases endless : lifetime = 0
  · simp [endless]
  · by_cases inside : now + lifetime ≤ Instant.last
    · simp [endless, inside, Nat.not_lt_of_le inside]
    · simp [endless, inside, Nat.lt_of_not_le inside]

theorem Entry.not_isLapsed (entry : Entry) (now : Instant) :
    (!entry.isLapsed now) = entry.deadline.all fun deadline => now < deadline := by
  obtain ⟨value, deadline⟩ := entry
  cases deadline with
  | none => rfl
  | some deadline =>
      rw [Bool.eq_iff_iff]
      simp [Entry.isLapsed]

namespace KeyValue

/-- What is there, as opposed to what is in memory. -/
def vanishing (state : Instant × KeyValue) : Vanishing := ⟨state.1, state.2.live? state.1⟩

/-- Deleting counts the distinct keys that are live. -/
@[simp]
theorem removeAll_fst (now : Instant) (keys : List String) (store : KeyValue) :
    (store.removeAll now keys).1 =
      keys.dedup.countP fun key => (store.live? now key).isSome := by
  induction keys generalizing store with
  | nil => rfl
  | cons key rest ih =>
      rw [countP_dedup_cons]
      simp only [removeAll, remove_fst, ih, live?_remove]
      congr 1
      apply List.countP_congr
      intro other _
      by_cases same : other = key <;> simp [same]

theorem vanishing_eq {now : Instant} {store : KeyValue} {held : String → Option Entry}
    (same : ∀ key, store.live? now key = held key) : vanishing (now, store) = ⟨now, held⟩ :=
  Vanishing.ext rfl (funext same)

@[simp]
theorem vanishing_find (now : Instant) (key : String) (store : KeyValue) :
    vanishing (now, (store.find now key).2) = vanishing (now, store) :=
  vanishing_eq fun other => live?_find now key other store

theorem vanishing_write (now : Instant) (key value : String) (lifetime : Duration)
    (store : KeyValue) :
    vanishing (now, store.write key (Entry.create now value lifetime)) =
      (vanishing (now, store)).put key value lifetime := by
  apply vanishing_eq
  intro other
  rw [live?_write_create, Entry.create, deadline_eq_due]
  rfl

@[simp]
theorem vanishing_sweep (now : Instant) (store : KeyValue) :
    vanishing (now, (store.sweep now).2) = vanishing (now, store) :=
  vanishing_eq fun key => live?_sweep now key store

/-! ## Each call answers as the map does -/

theorem apply_fst (now : Instant) (store : KeyValue) (command : Command) :
    (store.apply now command).1 = ((vanishing (now, store)).apply command).1 := by
  cases command with
  | get key => simp [apply, Vanishing.apply, vanishing]
  | set key value lifetime => rfl
  | delete keys =>
      simp only [apply, Vanishing.apply, removeAll_fst]
      rfl
  | contains key => simp [apply, Vanishing.apply, Vanishing.contains, vanishing]
  | setIfAbsent key value lifetime =>
      simp only [apply, setIfAbsent_fst, Vanishing.apply, Vanishing.contains, vanishing]
      by_cases live : (store.live? now key).isSome = true <;> simp_all
  | expire key lifetime =>
      simp only [apply, expire_fst, Vanishing.apply, vanishing]
      cases live : store.live? now key <;> simp
  | lifetime key =>
      simp only [apply, lifetime_fst, Vanishing.apply, vanishing]
      cases live : store.live? now key <;> simp [Entry.remaining]

theorem vanishing_apply (now : Instant) (store : KeyValue) (command : Command) :
    vanishing (now, (store.apply now command).2) =
      ((vanishing (now, store)).apply command).2 := by
  cases command with
  | get key => exact vanishing_find ..
  | set key value lifetime => exact vanishing_write ..
  | delete keys => exact vanishing_eq fun key => live?_removeAll now keys key store
  | contains key => exact vanishing_find ..
  | setIfAbsent key value lifetime =>
      rw [apply, setIfAbsent, find_eq, Vanishing.apply]
      cases live : store.live? now key with
      | none =>
          have free : (vanishing (now, store)).contains key = false := by
            simp [Vanishing.contains, vanishing, live]
          rw [free, vanishing_write, vanishing_find]
          rfl
      | some entry =>
          have taken : (vanishing (now, store)).contains key = true := by
            simp [Vanishing.contains, vanishing, live]
          rw [taken, vanishing_find]
          rfl
  | expire key lifetime =>
      rw [apply, expire, find_eq, Vanishing.apply]
      cases live : store.live? now key with
      | none =>
          have gone : (vanishing (now, store)).held key = none := live
          rw [gone, vanishing_find]
      | some entry =>
          have there : (vanishing (now, store)).held key = some entry := live
          rw [there, vanishing_write, vanishing_find]
  | lifetime key =>
      have same : (store.lifetime now key).2 = (store.find now key).2 := by
        rw [lifetime, find_eq]
        cases store.live? now key <;> rfl
      rw [apply, same, vanishing_find, Vanishing.apply]
      cases (vanishing (now, store)).held key <;> rfl

theorem vanishing_advance (now : Instant) (store : KeyValue) (duration : Duration) :
    vanishing (now + duration, store) = (vanishing (now, store)).advance duration := by
  apply vanishing_eq
  intro key
  rw [live?_later (Nat.le_add_right now duration)]
  simp only [Entry.not_isLapsed]
  rfl

/-- Values in memory are the map, whatever lapsed entries lie among them. -/
theorem refines_vanishing :
    Refines step (fun _ => True) vanishing Vanishing.event? id Vanishing.step where
  kept _ := trivial
  result {state event label} _ means := by
    obtain ⟨now, store⟩ := state
    cases event <;> cases means
    · exact apply_fst ..
    · rfl
    · rfl
  next {state event label} _ means := by
    obtain ⟨now, store⟩ := state
    cases event <;> cases means
    · exact vanishing_apply ..
    · rfl
    · exact vanishing_advance ..
  hidden {state event} _ means := by
    obtain ⟨now, store⟩ := state
    cases event with
    | sweep => exact vanishing_sweep now store
    | _ => cases means

/-- A lapsed entry in memory is not there. -/
theorem vanishing_erase {now : Instant} {store : KeyValue} {key : String} {entry : Entry}
    (kept : store.entries.get? key = some entry) (lapsed : entry.isLapsed now = true) :
    vanishing (now, { store with entries := store.entries.erase key }) =
      vanishing (now, store) := by
  apply vanishing_eq
  intro other
  by_cases same : other = key
  · subst same
    simp [live?, kept, lapsed, Option.filter]
  · simp [live?, same]

/-- Whatever is called in whatever order, with time passing and sweeps in
between, every answer is that of the map from which keys vanish by themselves.
In every state that is reached, taking a lapsed entry out of memory changes no
later answer; deleting counts the distinct keys that are live; and a new
lifetime changes the deadline of a live key and nothing else. -/
theorem answers_eq_vanishing (events : List Event) :
    let start : Instant × KeyValue := (0, empty)
    let now := (run step start events).2.1
    let store := (run step start events).2.2
    observed Vanishing.event? id events (run step start events).1 =
        (run Vanishing.step Vanishing.empty (events.filterMap Vanishing.event?)).1 ∧
      (∀ key entry, store.entries.get? key = some entry → entry.isLapsed now = true →
        ∀ later, observed Vanishing.event? id later (run step (now, store) later).1 =
          observed Vanishing.event? id later
            (run step (now, { store with entries := store.entries.erase key }) later).1) ∧
      (∀ keys, (store.apply now (.delete keys)).1 =
        .count (keys.dedup.countP fun key => (store.live? now key).isSome)) ∧
      ∀ key lifetime other,
        (store.apply now (.expire key lifetime)).2.live? now other =
          if other = key then
            (store.live? now key).map fun entry =>
              { entry with deadline := Vanishing.due now lifetime }
          else store.live? now other := by
  intro start now store
  refine ⟨?_, ?_, ?_, ?_⟩
  · exact refines_vanishing.observed_run trivial events
  · intro key entry kept lapsed later
    exact refines_vanishing.observed_run_congr trivial trivial
      (vanishing_erase kept lapsed).symm rfl
  · intro keys
    exact congrArg Answer.count (removeAll_fst now keys store)
  · intro key lifetime other
    rw [apply, live?_expire, ← deadline_eq_due]
    rfl

/-- A value that is still in memory after its deadline. -/
theorem answers_eq_vanishing_lapsed :
    let start : Instant × KeyValue := (0, empty)
    let store := (run step start [.call (.set "k" "v" 5), .advance 9]).2.2
    store.entries.get? "k" = some ⟨"v", some 5⟩ ∧
      (⟨"v", some 5⟩ : Entry).isLapsed 9 = true ∧
        ∀ later, observed Vanishing.event? id later (run step (9, store) later).1 =
          observed Vanishing.event? id later
            (run step (9, { store with entries := store.entries.erase "k" }) later).1 := by
  have kept : ((run step ((0, empty) : Instant × KeyValue)
      [.call (.set "k" "v" 5), .advance 9]).2.2).entries.get? "k" = some ⟨"v", some 5⟩ := rfl
  have lapsed : (⟨"v", some 5⟩ : Entry).isLapsed 9 = true := rfl
  exact ⟨kept, lapsed, (answers_eq_vanishing _).2.1 "k" _ kept lapsed⟩

end KeyValue

end SharedState
