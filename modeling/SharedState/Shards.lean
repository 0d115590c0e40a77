import SharedState.About
import SharedState.Table

/-!
# Shards

The program does not keep a name space in one table. It keeps shards side by
side, each behind a lock of its own, and a key in the shard that its hash names.
What is done under a key is done to that shard alone; only counting, clearing and
discarding go through all shards. The hash is a parameter: it says where keys are
kept, and nothing else may depend on it.
-/

namespace SharedState

/-- The tables of all shards. -/
structure Shards (Value : Type) where
  tables : Vector (Table String Value) About.shards

namespace Shards

variable {Value Result : Type}

/-- Shards in which no key is bound. -/
def empty : Shards Value := ⟨Vector.replicate About.shards Table.empty⟩

/-- The number of the shard that a key is kept in. -/
def index (hash : String → Nat) (key : String) : Fin About.shards :=
  ⟨hash key % About.shards, Nat.mod_lt _ (by decide)⟩

/-- The shard that a key is kept in. -/
def shard (hash : String → Nat) (key : String) (shards : Shards Value) : Table String Value :=
  shards.tables[index hash key]

/-- Does something to the shard that a key is kept in. -/
def access (hash : String → Nat) (key : String)
    (act : Table String Value → Result × Table String Value) (shards : Shards Value) :
    Result × Shards Value :=
  let (result, table) := act (shards.shard hash key)
  (result, ⟨shards.tables.set (index hash key) table⟩)

/-- Counts something in every shard. -/
def total (count : Table String Value → Nat) (shards : Shards Value) : Nat :=
  shards.tables.foldl (fun counted table => counted + count table) 0

/-- How many keys are bound. -/
def size (shards : Shards Value) : Nat := shards.total Table.size

/-- Unbinds all keys. -/
def clear (shards : Shards Value) : Shards Value := ⟨shards.tables.map fun _ => Table.empty⟩

/-- Keeps the bindings that pass a test, shard by shard: how many did not. -/
def retain (kept : String → Value → Bool) (shards : Shards Value) : Nat × Shards Value :=
  (shards.total fun table => table.size - (table.filter kept).size,
    ⟨shards.tables.map (·.filter kept)⟩)

end Shards

end SharedState
