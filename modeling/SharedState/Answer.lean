import SharedState.Score
import SharedState.Sorted
import SharedState.Time

/-!
# Answers of data calls

What a data call answers, whichever part of the store or which backend it was
put to. Listings of containers that keep no order are ascending, so that they
do not depend on how the container was filled.
-/

namespace SharedState

/-- The answer of a data call. -/
inductive Answer where
  /-- The call was carried out and says nothing more. -/
  | done
  /-- The key, field or member is not there. -/
  | missing
  | text (value : String)
  | count (number : Nat)
  | flag (holds : Bool)
  /-- What is left of a lifetime; nothing if it is unlimited. -/
  | lifetime (remaining : Option Duration)
  | fields (bindings : List (String × String))
  | members (names : List String)
  | ranking (placings : List (String × Score))
  | score (value : Score)
deriving DecidableEq, Inhabited

namespace Answer

/-- The value, or the report that it is not there. -/
def ofText? : Option String → Answer
  | none => missing
  | some value => text value

/-- The order of code points: a text may precede every text that is not below it. -/
def notAbove (left right : String) : Bool := !decide (right < left)

/-- The fields in ascending order. -/
def sortedFields (bindings : List (String × String)) : Answer :=
  fields (Sorted.sort (fun left right => notAbove left.1 right.1) bindings)

/-- The members in ascending order. -/
def sortedMembers (names : List String) : Answer :=
  members (Sorted.sort notAbove names)

end Answer

end SharedState
