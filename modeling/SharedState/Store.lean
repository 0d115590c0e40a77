import SharedState.Call

/-!
# The store

Values, hashes, sets, rankings and lists side by side. Only values lapse.
-/

namespace SharedState

/-- Everything that is kept. -/
structure Store where
  values : KeyValue
  hashes : Hashes
  sets : Sets
  rankings : Rankings
  lists : Lists
deriving DecidableEq

namespace Store

/-- A store that keeps nothing. -/
def empty : Store := ⟨.empty, .empty, .empty, .empty, .empty⟩

instance : Inhabited Store := ⟨empty⟩

/-- Carries out a data call at an instant. -/
def apply (now : Instant) (store : Store) : Call → Answer × Store
  | .value command =>
      let (answer, values) := store.values.apply now command
      (answer, { store with values })
  | .hash command =>
      let (answer, hashes) := store.hashes.apply command
      (answer, { store with hashes })
  | .set command =>
      let (answer, sets) := store.sets.apply command
      (answer, { store with sets })
  | .ranking command =>
      let (answer, rankings) := store.rankings.apply command
      (answer, { store with rankings })
  | .list command =>
      let (answer, lists) := store.lists.apply command
      (answer, { store with lists })

/-- Discards every lapsed value: how many there were. -/
def sweep (now : Instant) (store : Store) : Nat × Store :=
  let (lapsed, values) := store.values.sweep now
  (lapsed, { store with values })

/-- Forgets everything but the count of discarded values. -/
def flush (store : Store) : Store :=
  { empty with values := store.values.clear }

/-- How much is kept. -/
structure Counts where
  /-- Values in memory, lapsed ones included. -/
  values : Nat
  hashes : Nat
  sets : Nat
  rankings : Nat
  lists : Nat
  /-- Lapsed values discarded so far. -/
  discarded : Nat
deriving DecidableEq

/-- Counts what is kept. -/
def counts (store : Store) : Counts where
  values := store.values.size
  hashes := store.hashes.size
  sets := store.sets.size
  rankings := store.rankings.size
  lists := store.lists.size
  discarded := store.values.discarded

end Store

end SharedState
