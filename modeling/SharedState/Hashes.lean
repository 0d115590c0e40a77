import SharedState.Answer
import SharedState.Run
import SharedState.Table

/-!
# Hashes

Under each key a finite map from fields to values. A hash comes into being
with its first field and is gone with its last.
-/

namespace SharedState

/-- Hashes under keys. -/
structure Hashes where
  tables : Table String (Table String String)
deriving DecidableEq

namespace Hashes

/-- No hash under any key. -/
def empty : Hashes := ⟨Table.empty⟩

instance : Inhabited Hashes := ⟨empty⟩

/-- How many hashes there are. -/
def size (hashes : Hashes) : Nat := hashes.tables.size

/-- The fields of a hash. -/
def fields (hashes : Hashes) (key : String) : Table String String :=
  (hashes.tables.get? key).getD Table.empty

/-- Writes a field: whether it is new. -/
def put (key field value : String) (hashes : Hashes) : Answer × Hashes :=
  let table := hashes.fields key
  (.flag (!table.contains field), ⟨hashes.tables.put key (table.put field value)⟩)

/-- Reads a field. -/
def get (key field : String) (hashes : Hashes) : Answer :=
  .ofText? ((hashes.fields key).get? field)

/-- Lists all fields. -/
def list (key : String) (hashes : Hashes) : Answer :=
  .sortedFields (hashes.fields key).bindings

/-- Removes fields: how many there were. -/
def remove (key : String) (names : List String) (hashes : Hashes) : Answer × Hashes :=
  match hashes.tables.get? key with
  | none => (.count 0, hashes)
  | some table =>
      let (removed, rest) := table.eraseAll names
      let tables :=
        if rest.isEmpty then hashes.tables.erase key else hashes.tables.put key rest
      (.count removed, ⟨tables⟩)

/-- A call on hashes. -/
inductive Command where
  | put (key field value : String)
  | get (key field : String)
  | list (key : String)
  | remove (key : String) (fields : List String)
deriving DecidableEq

/-- Carries out a call. -/
def apply (hashes : Hashes) : Command → Answer × Hashes
  | .put key field value => hashes.put key field value
  | .get key field => (hashes.get key field, hashes)
  | .list key => (hashes.list key, hashes)
  | .remove key fields => hashes.remove key fields

/-- Takes one step. -/
def step (hashes : Hashes) : Upkeep Command → Answer × Hashes
  | .call command => hashes.apply command
  | .clear => (.done, empty)

end Hashes

end SharedState
