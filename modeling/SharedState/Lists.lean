import SharedState.Answer
import SharedState.IndexRange
import SharedState.Run
import SharedState.Table

/-!
# Lists

Under each key a sequence of elements, the one pushed last in front. A list
comes into being with its first element and is gone when nothing of it is
kept.
-/

namespace SharedState

/-- Lists under keys. -/
structure Lists where
  tables : Table String (List String)
deriving DecidableEq

namespace Lists

/-- No list under any key. -/
def empty : Lists := ⟨Table.empty⟩

instance : Inhabited Lists := ⟨empty⟩

/-- How many lists there are. -/
def size (lists : Lists) : Nat := lists.tables.size

/-- The elements of a list. -/
def elements (lists : Lists) (key : String) : List String :=
  (lists.tables.get? key).getD []

/-- Pushes elements to the front, one after the other. -/
def pushAll (elements : List String) : List String → List String
  | [] => elements
  | value :: rest => pushAll (value :: elements) rest

/-- Pushes elements to the front of a list: its new length. -/
def push (key : String) (values : List String) (lists : Lists) : Answer × Lists :=
  if values.isEmpty then (.count (lists.elements key).length, lists)
  else
    let elements := pushAll (lists.elements key) values
    (.count elements.length, ⟨lists.tables.put key elements⟩)

/-- The elements between two indices. -/
def range (key : String) (start stop : Int) (lists : Lists) : Answer :=
  .members (IndexRange.select (lists.elements key) start stop)

/-- Keeps only the elements between two indices. -/
def trim (key : String) (start stop : Int) (lists : Lists) : Answer × Lists :=
  match lists.tables.get? key with
  | none => (.done, lists)
  | some elements =>
      match IndexRange.resolve? elements.length start stop with
      | some range => (.done, ⟨lists.tables.put key (range.cut elements)⟩)
      | none => (.done, ⟨lists.tables.erase key⟩)

/-- The length of a list. -/
def length (key : String) (lists : Lists) : Answer :=
  .count (lists.elements key).length

/-- A call on lists. -/
inductive Command where
  | push (key : String) (values : List String)
  | range (key : String) (start stop : Int)
  | trim (key : String) (start stop : Int)
  | length (key : String)
deriving DecidableEq

/-- Carries out a call. -/
def apply (lists : Lists) : Command → Answer × Lists
  | .push key values => lists.push key values
  | .range key start stop => (lists.range key start stop, lists)
  | .trim key start stop => lists.trim key start stop
  | .length key => (lists.length key, lists)

/-- Takes one step. -/
def step (lists : Lists) : Upkeep Command → Answer × Lists
  | .call command => lists.apply command
  | .clear => (.done, empty)

theorem pushAll_eq (elements values : List String) :
    pushAll elements values = values.reverse ++ elements := by
  induction values generalizing elements with
  | nil => rfl
  | cons value rest ih => simp [pushAll, ih]

end Lists

end SharedState
