import SharedState.Score
import SharedState.Sorted
import SharedState.Table

/-!
# Rankings

A ranking lists members by descending score. A new member is put behind all
others, a member with a new score keeps its place, and then the list is sorted
stably. Members with one score therefore stand as earlier sortings have left
them, which need not be the order in which they came in: a member that comes down
to a score lands in front of those that have it, and one that comes up to it, or is
new, lands behind them.
-/

namespace SharedState

/-- Members with their scores, highest score first. -/
structure Ranking where
  placings : List (String × Score)
deriving DecidableEq

namespace Ranking

/-- A ranking without members. -/
def empty : Ranking := ⟨[]⟩

instance : Inhabited Ranking := ⟨empty⟩

/-- Whether one placing may stand before another. -/
def notBelow (left right : String × Score) : Bool := right.2.rank ≤ left.2.rank

/-- The score of a member. -/
def score? (ranking : Ranking) (member : String) : Option Score :=
  Table.find? ranking.placings member

/-- Whether a member is ranked. -/
def contains (ranking : Ranking) (member : String) : Bool := (ranking.score? member).isSome

/-- Gives a member a score. -/
def place (ranking : Ranking) (member : String) (score : Score) : Ranking :=
  ⟨Sorted.sort notBelow (Table.rebind ranking.placings member score)⟩

/-- Takes members out. -/
def without (ranking : Ranking) (members : List String) : Ranking :=
  ⟨ranking.placings.filter fun placing => !members.contains placing.1⟩

/-- Higher ranks come first, and of any two placings one may come first. -/
theorem notBelow_total (left right : String × Score) :
    notBelow left right = true ∨ notBelow right left = true := by
  simp only [notBelow, decide_eq_true_eq]
  omega

theorem notBelow_trans {left middle right : String × Score}
    (first : notBelow left middle = true) (second : notBelow middle right = true) :
    notBelow left right = true := by
  simp only [notBelow, decide_eq_true_eq] at *
  omega

/-- A ranking is in order after every placing. -/
theorem ordered_place (ranking : Ranking) (member : String) (score : Score) :
    Sorted.Ordered notBelow (ranking.place member score).placings :=
  Sorted.ordered_sort notBelow_total notBelow_trans _

end Ranking

end SharedState
