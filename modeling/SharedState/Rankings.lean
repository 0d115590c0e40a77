import SharedState.Answer
import SharedState.IndexRange
import SharedState.Ranking
import SharedState.Run

/-!
# Rankings under keys

Under each key a ranking. It comes into being with its first member and is
gone with its last. What is no number is no score.
-/

namespace SharedState

/-- Rankings under keys. -/
structure Rankings where
  tables : Table String Ranking
deriving DecidableEq

namespace Rankings

/-- No ranking under any key. -/
def empty : Rankings := ⟨Table.empty⟩

instance : Inhabited Rankings := ⟨empty⟩

/-- How many rankings there are. -/
def size (rankings : Rankings) : Nat := rankings.tables.size

/-- The ranking under a key. -/
def ranking (rankings : Rankings) (key : String) : Ranking :=
  (rankings.tables.get? key).getD Ranking.empty

/-- Gives a member a score: whether the member is new. -/
def place (key : String) (score : Score) (member : String) (rankings : Rankings) :
    Answer × Rankings :=
  if score.isNaN then (.flag false, rankings)
  else
    let ranking := rankings.ranking key
    (.flag (!ranking.contains member), ⟨rankings.tables.put key (ranking.place member score)⟩)

/-- The placings between two indices. -/
def select (key : String) (start stop : Int) (rankings : Rankings) : List (String × Score) :=
  IndexRange.select (rankings.ranking key).placings start stop

/-- The score of a member. -/
def score (key member : String) (rankings : Rankings) : Answer :=
  match (rankings.ranking key).score? member with
  | none => .missing
  | some score => .score score

/-- Takes members out: how many there were. -/
def remove (key : String) (members : List String) (rankings : Rankings) : Answer × Rankings :=
  match rankings.tables.get? key with
  | none => (.count 0, rankings)
  | some ranking =>
      let rest := ranking.without members
      let tables :=
        if rest.placings.isEmpty then rankings.tables.erase key
        else rankings.tables.put key rest
      (.count (ranking.placings.length - rest.placings.length), ⟨tables⟩)

/-- A call on rankings. -/
inductive Command where
  | place (key : String) (score : Score) (member : String)
  | members (key : String) (start stop : Int)
  | placings (key : String) (start stop : Int)
  | score (key member : String)
  | remove (key : String) (members : List String)
deriving DecidableEq

/-- Carries out a call. -/
def apply (rankings : Rankings) : Command → Answer × Rankings
  | .place key score member => rankings.place key score member
  | .members key start stop =>
      (.members ((rankings.select key start stop).map Prod.fst), rankings)
  | .placings key start stop => (.ranking (rankings.select key start stop), rankings)
  | .score key member => (rankings.score key member, rankings)
  | .remove key members => rankings.remove key members

/-- Takes one step. -/
def step (rankings : Rankings) : Upkeep Command → Answer × Rankings
  | .call command => rankings.apply command
  | .clear => (.done, empty)

end Rankings

end SharedState
