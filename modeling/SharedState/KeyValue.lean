import SharedState.Answer
import SharedState.Table

/-!
# Values with a lifetime

A value is kept under a key until it is deleted or its deadline comes. From
the deadline on it is not there any more, although it stays in memory until
an operation meets it or a sweep discards it. Every lapsed value that is
discarded is counted.
-/

namespace SharedState

/-- A value and when it lapses. -/
structure Entry where
  value : String
  /-- The instant from which on the value is gone; none if there is none. -/
  deadline : Option Instant
deriving DecidableEq

namespace Entry

/-- A value written now. -/
def create (now : Instant) (value : String) (lifetime : Duration) : Entry where
  value := value
  deadline := SharedState.deadline now lifetime

/-- Whether the deadline has come. -/
def isLapsed (entry : Entry) (now : Instant) : Bool :=
  match entry.deadline with
  | none => false
  | some deadline => deadline ≤ now

/-- The time until the deadline, zero once it has come. -/
def remaining (entry : Entry) (now : Instant) : Option Duration :=
  entry.deadline.map (· - now)

theorem isLapsed_eq_true_iff {entry : Entry} {now : Instant} :
    entry.isLapsed now = true ↔ ∃ deadline, entry.deadline = some deadline ∧ deadline ≤ now := by
  cases entry with
  | mk value deadline => cases deadline <;> simp [isLapsed]

/-- What is written now has not lapsed. -/
@[simp]
theorem isLapsed_create (now : Instant) (value : String) (lifetime : Duration) :
    (create now value lifetime).isLapsed now = false := by
  rw [Bool.eq_false_iff, ne_eq, isLapsed_eq_true_iff]
  rintro ⟨deadline, found, past⟩
  obtain ⟨positive, -, rfl⟩ := deadline_eq_some_iff.mp found
  exact Nat.not_le_of_lt (Nat.lt_add_of_pos_right (Nat.pos_of_ne_zero positive)) past

/-- A lapsed value never comes back. -/
theorem isLapsed_mono {entry : Entry} {now later : Instant} (order : now ≤ later)
    (lapsed : entry.isLapsed now = true) : entry.isLapsed later = true := by
  obtain ⟨deadline, found, past⟩ := isLapsed_eq_true_iff.mp lapsed
  exact isLapsed_eq_true_iff.mpr ⟨deadline, found, Nat.le_trans past order⟩

end Entry

/-- Values under keys, and how many lapsed values were discarded. -/
structure KeyValue where
  /-- What is in memory, lapsed values included. -/
  entries : Table String Entry
  /-- How many lapsed values were discarded. A counter in 64 bits shows the same
  while it is below 2^64. -/
  discarded : Nat
deriving DecidableEq

namespace KeyValue

/-- Nothing under any key. -/
def empty : KeyValue where
  entries := Table.empty
  discarded := 0

instance : Inhabited KeyValue := ⟨empty⟩

/-- How many values are in memory. -/
def size (store : KeyValue) : Nat := store.entries.size

/-- Discards a lapsed value. -/
def discard (store : KeyValue) (key : String) : KeyValue where
  entries := store.entries.erase key
  discarded := store.discarded + 1

/-- Keeps a value under a key. -/
def write (store : KeyValue) (key : String) (entry : Entry) : KeyValue :=
  { store with entries := store.entries.put key entry }

/-- The live value under a key. A lapsed value that is met is discarded. -/
def find (now : Instant) (key : String) (store : KeyValue) : Option Entry × KeyValue :=
  match store.entries.get? key with
  | none => (none, store)
  | some entry =>
      if entry.isLapsed now then (none, store.discard key) else (some entry, store)

/-- Reads the live value under a key. -/
def get (now : Instant) (key : String) (store : KeyValue) : Answer × KeyValue :=
  let (found, store) := store.find now key
  (.ofText? (found.map Entry.value), store)

/-- Writes a value, whatever was under the key. -/
def set (now : Instant) (key value : String) (lifetime : Duration) (store : KeyValue) :
    Answer × KeyValue :=
  (.done, store.write key (Entry.create now value lifetime))

/-- Takes one key out: whether it was live. -/
def remove (now : Instant) (key : String) (store : KeyValue) : Bool × KeyValue :=
  match store.find now key with
  | (none, store) => (false, store)
  | (some _, store) => (true, { store with entries := store.entries.erase key })

/-- Takes keys out one after the other: how many were live. -/
def removeAll (now : Instant) : List String → KeyValue → Nat × KeyValue
  | [], store => (0, store)
  | key :: rest, store =>
      let (live, store) := store.remove now key
      let (others, store) := store.removeAll now rest
      (live.toNat + others, store)

/-- Whether a key is live. -/
def contains (now : Instant) (key : String) (store : KeyValue) : Answer × KeyValue :=
  let (found, store) := store.find now key
  (.flag found.isSome, store)

/-- Writes a value unless the key is live. -/
def setIfAbsent (now : Instant) (key value : String) (lifetime : Duration) (store : KeyValue) :
    Answer × KeyValue :=
  match store.find now key with
  | (some _, store) => (.flag false, store)
  | (none, store) => (.flag true, store.write key (Entry.create now value lifetime))

/-- Gives a live key a new lifetime. -/
def expire (now : Instant) (key : String) (lifetime : Duration) (store : KeyValue) :
    Answer × KeyValue :=
  match store.find now key with
  | (none, store) => (.missing, store)
  | (some entry, store) => (.done, store.write key (Entry.create now entry.value lifetime))

/-- What is left of the lifetime of a live key. -/
def lifetime (now : Instant) (key : String) (store : KeyValue) : Answer × KeyValue :=
  match store.find now key with
  | (none, store) => (.missing, store)
  | (some entry, store) => (.lifetime (entry.remaining now), store)

/-- Discards every lapsed value: how many there were. -/
def sweep (now : Instant) (store : KeyValue) : Nat × KeyValue :=
  let kept := store.entries.filter fun _ entry => !entry.isLapsed now
  let lapsed := store.entries.size - kept.size
  (lapsed, { entries := kept, discarded := store.discarded + lapsed })

/-- Forgets every value, and keeps the count of discarded ones. -/
def clear (store : KeyValue) : KeyValue :=
  { store with entries := Table.empty }

/-- A call on values. -/
inductive Command where
  | get (key : String)
  | set (key value : String) (lifetime : Duration)
  | delete (keys : List String)
  | contains (key : String)
  | setIfAbsent (key value : String) (lifetime : Duration)
  | expire (key : String) (lifetime : Duration)
  | lifetime (key : String)
deriving DecidableEq

/-- Carries out a call at an instant. -/
def apply (now : Instant) (store : KeyValue) : Command → Answer × KeyValue
  | .get key => store.get now key
  | .set key value lifetime => store.set now key value lifetime
  | .delete keys =>
      let (live, store) := store.removeAll now keys
      (.count live, store)
  | .contains key => store.contains now key
  | .setIfAbsent key value lifetime => store.setIfAbsent now key value lifetime
  | .expire key lifetime => store.expire now key lifetime
  | .lifetime key => store.lifetime now key

/-- A step in the life of a store of values. -/
inductive Event where
  | call (command : Command)
  /-- Discard every lapsed value. -/
  | sweep
  | clear
  | advance (duration : Duration)
deriving DecidableEq

/-- Takes one step of a clock and a store. -/
def step (state : Instant × KeyValue) : Event → Answer × (Instant × KeyValue)
  | .call command =>
      let (answer, store) := state.2.apply state.1 command
      (answer, (state.1, store))
  | .sweep =>
      let (lapsed, store) := state.2.sweep state.1
      (.count lapsed, (state.1, store))
  | .clear => (.done, (state.1, state.2.clear))
  | .advance duration => (.done, (state.1 + duration, state.2))

/-! ## What an operation does to the live value of a key -/

/-- The live value under a key, without touching anything. -/
def live? (store : KeyValue) (now : Instant) (key : String) : Option Entry :=
  (store.entries.get? key).filter fun entry => !entry.isLapsed now

@[simp]
theorem find_fst (now : Instant) (key : String) (store : KeyValue) :
    (store.find now key).1 = store.live? now key := by
  unfold find live?
  cases store.entries.get? key with
  | none => rfl
  | some entry => cases lapsed : entry.isLapsed now <;> simp [Option.filter, lapsed]

/-- Looking for a key changes no live value. -/
@[simp]
theorem live?_find (now : Instant) (key other : String) (store : KeyValue) :
    (store.find now key).2.live? now other = store.live? now other := by
  unfold find
  cases found : store.entries.get? key with
  | none => rfl
  | some entry =>
      by_cases lapsed : entry.isLapsed now = true
      · by_cases same : other = key
        · subst same
          simp [live?, discard, found, lapsed, Option.filter]
        · simp [live?, discard, lapsed, same]
      · simp [lapsed]

/-- Later on, what is live is what was live and has not lapsed since. -/
theorem live?_later {now later : Instant} (order : now ≤ later) (store : KeyValue)
    (key : String) :
    store.live? later key = (store.live? now key).filter fun entry => !entry.isLapsed later := by
  unfold live?
  cases found : store.entries.get? key with
  | none => rfl
  | some entry =>
      by_cases lapsed : entry.isLapsed now = true
      · simp [Option.filter, lapsed, Entry.isLapsed_mono order lapsed]
      · simp [Option.filter, lapsed]

theorem live?_write (store : KeyValue) (now : Instant) (key other : String) (entry : Entry) :
    (store.write key entry).live? now other =
      if other = key then (some entry).filter fun entry => !entry.isLapsed now
      else store.live? now other := by
  by_cases same : other = key <;> simp [live?, write, same]

/-- What is written now is live. -/
theorem live?_write_create (store : KeyValue) (now : Instant) (key other value : String)
    (lifetime : Duration) :
    (store.write key (Entry.create now value lifetime)).live? now other =
      if other = key then some (Entry.create now value lifetime) else store.live? now other := by
  simp [live?_write, Option.filter]

@[simp]
theorem live?_sweep (now : Instant) (key : String) (store : KeyValue) :
    (store.sweep now).2.live? now key = store.live? now key := by
  simp only [live?, sweep, Table.get?_filter, Option.filter_filter, Bool.and_self]

@[simp]
theorem get_fst (now : Instant) (key : String) (store : KeyValue) :
    (store.get now key).1 = .ofText? ((store.live? now key).map Entry.value) := by
  simp [get]

@[simp]
theorem live?_set (now : Instant) (key other value : String) (lifetime : Duration)
    (store : KeyValue) :
    (store.set now key value lifetime).2.live? now other =
      if other = key then some (Entry.create now value lifetime) else store.live? now other :=
  live?_write_create ..

@[simp]
theorem contains_fst (now : Instant) (key : String) (store : KeyValue) :
    (store.contains now key).1 = .flag (store.live? now key).isSome := by
  simp [contains]

/-- Looking for a key and going on with what was found. -/
theorem find_eq (now : Instant) (key : String) (store : KeyValue) :
    store.find now key = (store.live? now key, (store.find now key).2) :=
  Prod.ext (find_fst ..) rfl

@[simp]
theorem setIfAbsent_fst (now : Instant) (key value : String) (lifetime : Duration)
    (store : KeyValue) :
    (store.setIfAbsent now key value lifetime).1 = .flag (store.live? now key).isNone := by
  rw [setIfAbsent, find_eq]
  cases store.live? now key <;> rfl

/-- A write that needs the key to be free leaves a live value as it is. -/
@[simp]
theorem live?_setIfAbsent (now : Instant) (key other value : String) (lifetime : Duration)
    (store : KeyValue) :
    (store.setIfAbsent now key value lifetime).2.live? now other =
      if other = key then
        some ((store.live? now key).getD (Entry.create now value lifetime))
      else store.live? now other := by
  rw [setIfAbsent, find_eq]
  cases live : store.live? now key with
  | none => simp only [live?_write_create, live?_find, Option.getD_none]
  | some entry =>
      by_cases same : other = key
      · simp [same, live]
      · simp [same]

@[simp]
theorem expire_fst (now : Instant) (key : String) (lifetime : Duration) (store : KeyValue) :
    (store.expire now key lifetime).1 =
      if (store.live? now key).isSome then .done else .missing := by
  rw [expire, find_eq]
  cases store.live? now key <;> rfl

/-- A new lifetime changes the deadline of a live value and nothing else. -/
@[simp]
theorem live?_expire (now : Instant) (key other : String) (lifetime : Duration)
    (store : KeyValue) :
    (store.expire now key lifetime).2.live? now other =
      if other = key then
        (store.live? now key).map fun entry => Entry.create now entry.value lifetime
      else store.live? now other := by
  rw [expire, find_eq]
  cases live : store.live? now key with
  | none =>
      by_cases same : other = key
      · simp [same, live]
      · simp [same]
  | some entry => simp only [live?_write_create, live?_find, Option.map_some]

@[simp]
theorem lifetime_fst (now : Instant) (key : String) (store : KeyValue) :
    (store.lifetime now key).1 =
      match store.live? now key with
      | none => .missing
      | some entry => .lifetime (entry.remaining now) := by
  rw [lifetime, find_eq]
  cases store.live? now key <;> rfl

@[simp]
theorem remove_fst (now : Instant) (key : String) (store : KeyValue) :
    (store.remove now key).1 = (store.live? now key).isSome := by
  rw [remove, find_eq]
  cases store.live? now key <;> rfl

@[simp]
theorem live?_remove (now : Instant) (key other : String) (store : KeyValue) :
    (store.remove now key).2.live? now other =
      if other = key then none else store.live? now other := by
  rw [remove, find_eq]
  cases live : store.live? now key with
  | none =>
      by_cases same : other = key
      · simp [same, live]
      · simp [same]
  | some entry =>
      rw [← live?_find now key other store]
      by_cases same : other = key <;> simp [live?, same]

@[simp]
theorem live?_removeAll (now : Instant) (keys : List String) (other : String)
    (store : KeyValue) :
    (store.removeAll now keys).2.live? now other =
      if other ∈ keys then none else store.live? now other := by
  induction keys generalizing store with
  | nil => simp [removeAll]
  | cons key rest ih =>
      by_cases same : other = key
      · subst same
        simp [removeAll, ih]
      · simp [removeAll, ih, same]

end KeyValue

end SharedState
