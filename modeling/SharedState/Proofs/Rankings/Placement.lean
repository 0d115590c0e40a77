import SharedState.Proofs.Rankings.Ties

/-!
# What a placing leaves alone

Every placing sorts a whole ranking, and still it moves one member only. The
others were in order among themselves, and what a stable sort makes of them does
not depend on the member that is placed. That member comes to stand between the
higher and the lower scores; among its equals it stands last if it is new, and
else where it stood. Taking members out moves nobody.
-/

namespace SharedState

/-- Rebinding a key concerns no other binding. -/
theorem Table.filter_rebind {Key Value : Type} [DecidableEq Key] (bindings : List (Key × Value))
    (key : Key) (value : Value) :
    (Table.rebind bindings key value).filter (fun binding => binding.1 ≠ key) =
      bindings.filter fun binding => binding.1 ≠ key := by
  induction bindings with
  | nil => simp [Table.rebind]
  | cons binding rest ih =>
      obtain ⟨bound, old⟩ := binding
      by_cases same : bound = key
      · simp [Table.rebind, same]
      · rw [Table.rebind, if_neg same, List.filter_cons, List.filter_cons, ih]

namespace Ranking

variable {ranking : Ranking} {member other : String} {score otherScore : Score}

/-- The others keep their scores and their order. -/
theorem Proper.filter_place (proper : ranking.Proper) (member : String) (score : Score) :
    (ranking.place member score).placings.filter (fun placing => placing.1 ≠ member) =
      ranking.placings.filter fun placing => placing.1 ≠ member := by
  have sorted := Sorted.filter_sort notBelow_total notBelow_trans
    (fun placing => placing.1 ≠ member) (Table.rebind ranking.placings member score)
  rw [Ranking.place, sorted, Table.filter_rebind]
  exact Sorted.sort_eq_self (proper.ordered.filter _)

/-- Who stands before another has no lower score. -/
theorem Proper.rank_le_of_ahead (proper : ranking.Proper) {first second : String}
    {firstScore secondScore : Score} (firstRanked : ranking.score? first = some firstScore)
    (secondRanked : ranking.score? second = some secondScore) (before : ranking.ahead first second) :
    secondScore.rank ≤ firstScore.rank := by
  by_contra above
  exact proper.not_ahead before
    (proper.ahead_of_rank_lt secondRanked firstRanked (Nat.lt_of_not_le above))

/-- Others stand before the member that is placed if their score is higher, or if
it is the same and the member is new or stood behind them. -/
theorem Proper.ahead_place_iff (proper : ranking.Proper) (number : score.isNaN = false)
    (ranked : ranking.score? other = some otherScore) (different : other ≠ member) :
    (ranking.place member score).ahead other member ↔
      score.rank < otherScore.rank ∨
        otherScore = score ∧ (ranking.score? member = none ∨ ranking.ahead other member) := by
  have placed := proper.place member number
  have otherAfter : (ranking.place member score).score? other = some otherScore := by
    rw [proper.score?_place member other number, if_neg different, ranked]
  have memberAfter : (ranking.place member score).score? member = some score := by
    rw [proper.score?_place member member number, if_pos rfl]
  constructor
  · intro before
    have atLeast := placed.rank_le_of_ahead otherAfter memberAfter before
    refine (Nat.lt_or_eq_of_le atLeast).imp_right fun tied => ?_
    obtain rfl : score = otherScore := Score.rank_injective tied
    refine ⟨rfl, ?_⟩
    cases stood : ranking.score? member with
    | none => exact Or.inl rfl
    | some former =>
        refine Or.inr ((ahead_or_ahead ranked stood different).resolve_right fun behind => ?_)
        have still := proper.ahead_place_of_ahead number memberAfter otherAfter (Nat.le_refl _) behind
        exact placed.not_ahead before still
  · rintro (above | ⟨rfl, new | before⟩)
    · exact placed.ahead_of_rank_lt otherAfter memberAfter above
    · have there : ranking.score? other ≠ none := by simp [ranked]
      exact proper.ahead_place_of_new number new there otherAfter (Nat.le_refl _)
    · exact proper.ahead_place_of_ahead number otherAfter memberAfter (Nat.le_refl _) before

end Ranking

namespace Rankings

/-- All that is listed under a key. -/
def listing (rankings : Rankings) (key : String) : List (String × Score) :=
  rankings.select key 0 (-1)

theorem listing_eq (rankings : Rankings) (key : String) :
    rankings.listing key = (rankings.ranking key).placings :=
  IndexRange.select_all _

theorem listing_step (rankings : Rankings) (event : Upkeep Command) (key : String) :
    (step rankings event).2.listing key = (move key (rankings.ranking key) event).placings := by
  rw [listing_eq, ranking_step]

/-- A placing and a removal disturb nothing else. Wherever a run leads, placing a
member under a key lists it once, with its new score. All others are listed with
their scores in the order in which they were; and one of them stands before the
member exactly if its score is higher, as plus zero is higher than minus zero, or
if it is the same and the member is new or stood behind it, and else it stands
behind the member. What is no number changes nothing. Removing members lists the
others as they were. The listings under other keys stay. -/
theorem others_undisturbed (steps : List (Upkeep Command)) (key : String) :
    let rankings := (run step empty steps).2
    let before := rankings.listing key
    (∀ member score, score.isNaN = false →
      let next := (step rankings (.call (.place key score member))).2
      let after := next.listing key
      (after.map Prod.fst).Nodup ∧ (member, score) ∈ after ∧
        after.filter (fun placing => placing.1 ≠ member) =
          before.filter (fun placing => placing.1 ≠ member) ∧
        (∀ other otherScore, (other, otherScore) ∈ before → other ≠ member →
          ([other, member].Sublist (after.map Prod.fst) ↔
            ¬otherScore.atMost score ∨
              otherScore = score ∧
                (member ∉ before.map Prod.fst ∨
                  [other, member].Sublist (before.map Prod.fst))) ∧
          ([member, other].Sublist (after.map Prod.fst) ↔
            ¬[other, member].Sublist (after.map Prod.fst))) ∧
        ∀ elsewhere, elsewhere ≠ key → next.listing elsewhere = rankings.listing elsewhere) ∧
    (∀ member score, score.isNaN = true →
      (step rankings (.call (.place key score member))).2 = rankings) ∧
    ∀ members,
      let next := (step rankings (.call (.remove key members))).2
      next.listing key = before.filter (fun placing => placing.1 ∉ members) ∧
        ∀ elsewhere, elsewhere ≠ key → next.listing elsewhere = rankings.listing elsewhere := by
  intro rankings before
  have proper : (rankings.ranking key).Proper := proper_run steps key
  have shown : before = (rankings.ranking key).placings := listing_eq rankings key
  refine ⟨?_, ?_, ?_⟩
  · intro member score number next after
    have properAfter := proper.place member number
    have ranked : ((rankings.ranking key).place member score).score? member = some score := by
      rw [proper.score?_place member member number, if_pos rfl]
    have moved : move key (rankings.ranking key) (.call (.place key score member)) =
        (rankings.ranking key).place member score := if_pos ⟨rfl, number⟩
    have placed : after = ((rankings.ranking key).place member score).placings :=
      (listing_step rankings _ key).trans (congrArg Ranking.placings moved)
    refine ⟨?_, ?_, ?_, ?_, ?_⟩
    · rw [placed]
      exact properAfter.distinct
    · rw [placed]
      exact properAfter.score?_eq_some_iff.mp ranked
    · rw [placed, shown]
      exact proper.filter_place member score
    · intro other otherScore listed different
      rw [shown, ← proper.score?_eq_some_iff] at listed
      have stays : ((rankings.ranking key).place member score).score? other = some otherScore := by
        rw [proper.score?_place member other number, if_neg different, listed]
      constructor
      · rw [placed, shown, ← Ranking.score?_eq_none_iff, ← Score.rank_le_iff_atMost, Nat.not_le]
        exact proper.ahead_place_iff number listed different
      · rw [placed]
        exact properAfter.ahead_iff_not_ahead (Ne.symm different) ranked stays
    · intro elsewhere different
      have apart : ¬(key = elsewhere ∧ score.isNaN = false) := fun here => different here.1.symm
      rw [listing_step, move, if_neg apart, listing_eq]
  · intro member score noNumber
    rw [step, apply, place, if_pos noNumber]
  · intro members next
    constructor
    · rw [listing_step, move, if_pos rfl, shown, Ranking.without]
      simp
    · intro elsewhere different
      rw [listing_step, move, if_neg (Ne.symm different), listing_eq]

/-- A member comes down to a tie and stays in front of those that it stood before;
what is no number leaves them all where they are. -/
theorem others_undisturbed_tied :
    let one : Score := ⟨0x3FF0000000000000⟩
    let two : Score := ⟨0x4000000000000000⟩
    let noNumber : Score := ⟨0x7FF8000000000000⟩
    let steps : List (Upkeep Command) :=
      [.call (.place "k" one "a"), .call (.place "k" one "b"), .call (.place "k" two "c")]
    let rankings := (run step empty steps).2
    let next := (step rankings (.call (.place "k" one "c"))).2
    one.isNaN = false ∧ noNumber.isNaN = true ∧
      (("a", one) ∈ rankings.listing "k" ∧ "a" ≠ "c" ∧
        ¬["a", "c"].Sublist ((next.listing "k").map Prod.fst)) ∧
      (next.listing "k").filter (fun placing => placing.1 ≠ "c") = [("a", one), ("b", one)] ∧
      (step rankings (.call (.place "k" noNumber "b"))).2 = rankings ∧
      "j" ≠ "k" ∧ next.listing "j" = rankings.listing "j" := by
  intro one two noNumber steps rankings next
  obtain ⟨placing, unchanged, -⟩ := others_undisturbed steps "k"
  obtain ⟨-, -, others, order, elsewhere⟩ := placing "c" one (by decide)
  have listed : ("a", one) ∈ rankings.listing "k" := by decide
  refine ⟨by decide, by decide, ⟨listed, by decide, ?_⟩, others.trans (by decide),
    unchanged "b" noNumber (by decide), by decide, elsewhere "j" (by decide)⟩
  rw [(order "a" one listed (by decide)).1]
  rintro (above | ⟨-, new | behind⟩)
  · exact above (Score.rank_le_iff_atMost.mp (Nat.le_refl _))
  · exact new (by decide)
  · exact absurd behind (by decide)

end Rankings

end SharedState
