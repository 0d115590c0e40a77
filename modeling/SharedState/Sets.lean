import SharedState.Answer
import SharedState.Run
import SharedState.Table

/-!
# Sets

Under each key a finite set of members. A set comes into being with its first
member and is gone with its last.
-/

namespace SharedState

/-- A finite set of names: a table that binds them to nothing of interest. -/
abbrev NameSet := Table String Unit

namespace NameSet

/-- Adds names one after the other: how many were not there. -/
def insertAll (names : NameSet) : List String → Nat × NameSet
  | [] => (0, names)
  | name :: rest =>
      let (others, result) := insertAll (names.put name ()) rest
      ((!names.contains name).toNat + others, result)

end NameSet

/-- Sets under keys. -/
structure Sets where
  tables : Table String NameSet
deriving DecidableEq

namespace Sets

/-- No set under any key. -/
def empty : Sets := ⟨Table.empty⟩

instance : Inhabited Sets := ⟨empty⟩

/-- How many sets there are. -/
def size (sets : Sets) : Nat := sets.tables.size

/-- The members of a set. -/
def members (sets : Sets) (key : String) : NameSet :=
  (sets.tables.get? key).getD Table.empty

/-- Adds members: how many are new. Adding none makes no set. -/
def add (key : String) (names : List String) (sets : Sets) : Answer × Sets :=
  if names.isEmpty then (.count 0, sets)
  else
    let (added, result) := NameSet.insertAll (sets.members key) names
    (.count added, ⟨sets.tables.put key result⟩)

/-- Removes members: how many there were. -/
def remove (key : String) (names : List String) (sets : Sets) : Answer × Sets :=
  match sets.tables.get? key with
  | none => (.count 0, sets)
  | some present =>
      let (removed, rest) := present.eraseAll names
      let tables := if rest.isEmpty then sets.tables.erase key else sets.tables.put key rest
      (.count removed, ⟨tables⟩)

/-- Lists all members. -/
def list (key : String) (sets : Sets) : Answer :=
  .sortedMembers (sets.members key).keys

/-- Whether a name is a member. -/
def contains (key name : String) (sets : Sets) : Answer :=
  .flag ((sets.members key).contains name)

/-- A call on sets. -/
inductive Command where
  | add (key : String) (names : List String)
  | remove (key : String) (names : List String)
  | list (key : String)
  | contains (key name : String)
deriving DecidableEq

/-- Carries out a call. -/
def apply (sets : Sets) : Command → Answer × Sets
  | .add key names => sets.add key names
  | .remove key names => sets.remove key names
  | .list key => (sets.list key, sets)
  | .contains key name => (sets.contains key name, sets)

/-- Takes one step. -/
def step (sets : Sets) : Upkeep Command → Answer × Sets
  | .call command => sets.apply command
  | .clear => (.done, empty)

end Sets

end SharedState
