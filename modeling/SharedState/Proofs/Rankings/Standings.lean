import Mathlib.Data.List.Induction
import SharedState.Proofs.Distinct
import SharedState.Rankings

/-!
# Rankings tell the standings

What a ranking has to tell is given by the calls that led to it: the standing
of a member is the score of the newest placing that was not undone since. A
ranking lists each member that stands once, with its standing, by descending
score.
-/

namespace SharedState

/-! ## The order of scores -/

namespace Score

/-- The total order of binary64: negative scores are below positive ones, and
the magnitude orders the positive scores up and the negative ones down. -/
def atMost (left right : Score) : Prop :=
  match left.isNegative, right.isNegative with
  | true, false => True
  | false, true => False
  | false, false => left.magnitude ≤ right.magnitude
  | true, true => right.magnitude ≤ left.magnitude

theorem rank_le_iff_atMost {left right : Score} : left.rank ≤ right.rank ↔ left.atMost right := by
  have boundLeft := left.bits.toNat_lt
  have boundRight := right.bits.toNat_lt
  unfold rank atMost magnitude isNegative
  by_cases negativeLeft : 0x8000000000000000 ≤ left.bits.toNat
  · by_cases negativeRight : 0x8000000000000000 ≤ right.bits.toNat
    · simp only [negativeLeft, negativeRight, decide_true, if_true]
      omega
    · simp only [negativeLeft, negativeRight, decide_true, decide_false, if_true,
        Bool.false_eq_true, if_false, iff_true]
      omega
  · by_cases negativeRight : 0x8000000000000000 ≤ right.bits.toNat
    · simp only [negativeLeft, negativeRight, decide_true, decide_false, if_true,
        Bool.false_eq_true, if_false, iff_false]
      omega
    · simp only [negativeLeft, negativeRight, decide_false, Bool.false_eq_true, if_false]
      omega

end Score

/-! ## One ranking -/

namespace Ranking

/-- What holds of a ranking at all times: no member is listed twice, every
score is a number, and no score stands behind a lower one. -/
structure Proper (ranking : Ranking) : Prop where
  distinct : (ranking.placings.map Prod.fst).Nodup
  numbers : ∀ placing ∈ ranking.placings, placing.2.isNaN = false
  ordered : Sorted.Ordered notBelow ranking.placings

theorem proper_empty : empty.Proper where
  distinct := List.nodup_nil
  numbers _ member := nomatch member
  ordered := List.Pairwise.nil

variable {ranking : Ranking}

theorem Proper.score?_eq_some_iff (proper : ranking.Proper) {member : String} {score : Score} :
    ranking.score? member = some score ↔ (member, score) ∈ ranking.placings :=
  Table.find?_eq_some_iff proper.distinct

theorem Proper.place (proper : ranking.Proper) (member : String) {score : Score}
    (number : score.isNaN = false) : (ranking.place member score).Proper where
  distinct := by
    have sorted := Sorted.perm_sort notBelow (Table.rebind ranking.placings member score)
    exact (sorted.map Prod.fst).nodup_iff.mpr (Table.nodup_keys_rebind proper.distinct)
  numbers := by
    intro placing listed
    rcases Table.mem_rebind (Sorted.mem_sort.mp listed) with rfl | before
    · exact number
    · exact proper.numbers placing before
  ordered := ordered_place ranking member score

theorem Proper.without (proper : ranking.Proper) (members : List String) :
    (ranking.without members).Proper where
  distinct := proper.distinct.sublist (List.filter_sublist.map Prod.fst)
  numbers placing listed := proper.numbers placing (List.mem_of_mem_filter listed)
  ordered := proper.ordered.filter _

theorem Proper.score?_place (proper : ranking.Proper) (member other : String) {score : Score}
    (number : score.isNaN = false) :
    (ranking.place member score).score? other =
      if other = member then some score else ranking.score? other := by
  have placed := proper.place member number
  have rebound : ((Table.rebind ranking.placings member score).map Prod.fst).Nodup :=
    Table.nodup_keys_rebind proper.distinct
  have same : (ranking.place member score).score? other =
      Table.find? (Table.rebind ranking.placings member score) other := by
    apply Option.ext
    intro found
    rw [placed.score?_eq_some_iff, Table.find?_eq_some_iff rebound]
    exact Sorted.mem_sort
  rw [same, Table.find?_rebind]
  rfl

theorem Proper.score?_without (proper : ranking.Proper) (members : List String) (other : String) :
    (ranking.without members).score? other =
      if other ∈ members then none else ranking.score? other := by
  have filtered := Table.find?_filter ranking.placings (fun member _ => !members.contains member)
    other proper.distinct
  rw [score?, Ranking.without, filtered, score?]
  by_cases named : other ∈ members
  · cases Table.find? ranking.placings other <;> simp [named]
  · cases Table.find? ranking.placings other <;> simp [named]

theorem contains_iff {member : String} :
    ranking.contains member = true ↔ member ∈ ranking.placings.map Prod.fst := by
  rw [contains, score?, Option.isSome_iff_ne_none, ne_eq, Table.find?_eq_none_iff,
    Decidable.not_not]

/-- Taking members out takes out those that were ranked, each once. -/
theorem Proper.length_without (proper : ranking.Proper) (members : List String) :
    ranking.placings.length - (ranking.without members).placings.length =
      members.dedup.countP ranking.contains := by
  let named := fun placing : String × Score => members.contains placing.1
  have split : ranking.placings.length =
      ranking.placings.countP named + (ranking.without members).placings.length := by
    rw [List.length_eq_countP_add_countP named, Ranking.without, ← List.countP_eq_length_filter]
    simp [named]
  have taken : members.dedup.countP ranking.contains = ranking.placings.countP named := by
    apply countP_eq_countP members.nodup_dedup proper.distinct
    intro member
    rw [List.mem_dedup, contains_iff, List.mem_map]
    constructor
    · rintro ⟨isNamed, placing, ranked, rfl⟩
      exact ⟨placing, ranked, List.contains_iff_mem.mpr isNamed, rfl⟩
    · rintro ⟨placing, ranked, isNamed, rfl⟩
      exact ⟨List.contains_iff_mem.mp isNamed, placing, ranked, rfl⟩
  rw [split, Nat.add_sub_cancel, taken]

end Ranking

/-! ## Rankings under keys -/

namespace Rankings

/-- What a step says of the standing of a member: its score, that it has none,
or nothing at all. -/
def verdict (key member : String) : Upkeep Command → Option (Option Score)
  | .clear => some none
  | .call (.place other score placed) =>
      if other = key ∧ placed = member ∧ score.isNaN = false then some (some score) else none
  | .call (.remove other members) =>
      if other = key ∧ member ∈ members then some none else none
  | .call (.members ..) => none
  | .call (.placings ..) => none
  | .call (.score ..) => none

/-- The standing of a member after some steps: what the newest of them says
that says anything. -/
def standing (key member : String) (steps : List (Upkeep Command)) : Option Score :=
  (steps.reverse.findSome? (verdict key member)).join

/-- What a step makes of the ranking under a key. -/
def move (key : String) (ranking : Ranking) : Upkeep Command → Ranking
  | .clear => .empty
  | .call (.place other score member) =>
      if other = key ∧ score.isNaN = false then ranking.place member score else ranking
  | .call (.remove other members) => if other = key then ranking.without members else ranking
  | .call (.members ..) => ranking
  | .call (.placings ..) => ranking
  | .call (.score ..) => ranking

theorem ranking_place (key : String) {score : Score} (number : score.isNaN = false)
    (member other : String) (rankings : Rankings) :
    (place key score member rankings).2.ranking other =
      if key = other then (rankings.ranking other).place member score
      else rankings.ranking other := by
  rw [place, number]
  by_cases same : key = other
  · subst same
    simp [ranking]
  · simp [ranking, same, Ne.symm same]

/-- A ranking that is left without members is gone, which comes to the same. -/
theorem ranking_remove (key : String) (members : List String) (other : String)
    (rankings : Rankings) :
    (remove key members rankings).2.ranking other =
      if key = other then (rankings.ranking other).without members
      else rankings.ranking other := by
  rw [remove]
  cases found : rankings.tables.get? key with
  | none =>
      by_cases same : key = other
      · subst same
        simp [ranking, found, Ranking.without, Ranking.empty]
      · simp [same]
  | some kept =>
      by_cases gone : (kept.without members).placings.isEmpty = true
      · have nothing : kept.without members = .empty :=
          congrArg Ranking.mk (List.isEmpty_iff.mp gone)
        by_cases same : key = other
        · subst same
          simp [ranking, found, nothing, Ranking.empty]
        · simp [ranking, gone, same, Ne.symm same]
      · by_cases same : key = other
        · subst same
          simp [ranking, found, gone]
        · simp [ranking, gone, same, Ne.symm same]

theorem ranking_step (rankings : Rankings) (key : String) (event : Upkeep Command) :
    (step rankings event).2.ranking key = move key (rankings.ranking key) event := by
  cases event with
  | clear => rfl
  | call command =>
      cases command with
      | members other start stop => rfl
      | placings other start stop => rfl
      | score other member => rfl
      | place other score member =>
          rw [step, apply, move]
          cases number : score.isNaN with
          | true => simp [place, number]
          | false => simp [ranking_place other number]
      | remove other members => exact ranking_remove other members key rankings

theorem proper_move {key : String} {ranking : Ranking} (proper : ranking.Proper)
    (event : Upkeep Command) : (move key ranking event).Proper := by
  cases event with
  | clear => exact Ranking.proper_empty
  | call command =>
      cases command with
      | members other start stop => exact proper
      | placings other start stop => exact proper
      | score other member => exact proper
      | place other score member =>
          rw [move]
          split
          · next placed => exact proper.place member placed.2
          · exact proper
      | remove other members =>
          rw [move]
          split
          · exact proper.without members
          · exact proper

theorem score?_move {key : String} {ranking : Ranking} (proper : ranking.Proper)
    (member : String) (event : Upkeep Command) :
    (move key ranking event).score? member =
      (verdict key member event).getD (ranking.score? member) := by
  cases event with
  | clear => rfl
  | call command =>
      cases command with
      | members other start stop => rfl
      | placings other start stop => rfl
      | score other member => rfl
      | place other score placed =>
          rw [move, verdict]
          by_cases here : other = key ∧ score.isNaN = false
          · rw [if_pos here, proper.score?_place placed member here.2]
            by_cases same : member = placed
            · simp [same, here]
            · simp [same, Ne.symm same]
          · have elsewhere : ¬(other = key ∧ placed = member ∧ score.isNaN = false) :=
              fun all => here ⟨all.1, all.2.2⟩
            rw [if_neg here, if_neg elsewhere, Option.getD_none]
      | remove other members =>
          rw [move, verdict]
          by_cases here : other = key
          · rw [if_pos here, proper.score?_without members member]
            by_cases named : member ∈ members
            · simp [named, here]
            · simp [named]
          · simp [here]

theorem standing_concat (key member : String) (steps : List (Upkeep Command))
    (event : Upkeep Command) :
    standing key member (steps ++ [event]) =
      (verdict key member event).getD (standing key member steps) := by
  rw [standing, List.reverse_append, List.reverse_singleton, List.singleton_append,
    List.findSome?_cons]
  cases verdict key member event <;> rfl

theorem verdict_eq_some_iff {key member : String} {event : Upkeep Command} {score : Score} :
    verdict key member event = some (some score) ↔
      event = .call (.place key score member) ∧ score.isNaN = false := by
  constructor
  · intro told
    unfold verdict at told
    split at told
    · cases told
    · split at told
      · next placed =>
          obtain ⟨rfl, rfl, number⟩ := placed
          cases told
          exact ⟨rfl, number⟩
      · cases told
    · split at told <;> cases told
    · cases told
    · cases told
    · cases told
  · rintro ⟨rfl, number⟩
    simp [verdict, number]

/-- A member stands with the score of a placing after which it was neither
placed nor taken out. -/
theorem standing_eq_some_iff {key member : String} {steps : List (Upkeep Command)}
    {score : Score} :
    standing key member steps = some score ↔
      score.isNaN = false ∧
        ∃ before after, steps = before ++ .call (.place key score member) :: after ∧
          ∀ event ∈ after, verdict key member event = none := by
  rw [standing, Option.join_eq_some_iff, List.findSome?_eq_some_iff]
  constructor
  · rintro ⟨later, event, earlier, split, told, silent⟩
    obtain ⟨rfl, number⟩ := verdict_eq_some_iff.mp told
    refine ⟨number, earlier.reverse, later.reverse, ?_, ?_⟩
    · rw [← List.reverse_reverse steps, split]
      simp
    · exact fun event member => silent event (List.mem_reverse.mp member)
  · rintro ⟨number, before, after, rfl, silent⟩
    refine ⟨after.reverse, _, before.reverse, ?_, verdict_eq_some_iff.mpr ⟨rfl, number⟩, ?_⟩
    · simp
    · exact fun event member => silent event (List.mem_reverse.mp member)

theorem place_fst (key : String) (score : Score) (member : String) (rankings : Rankings) :
    (place key score member rankings).1 =
      .flag (!score.isNaN && ((rankings.ranking key).score? member).isNone) := by
  rw [place]
  cases number : score.isNaN with
  | true => rfl
  | false => simp [Ranking.contains]

theorem score_eq_elim (key member : String) (rankings : Rankings) :
    rankings.score key member =
      ((rankings.ranking key).score? member).elim .missing .score := by
  rw [score]
  cases (rankings.ranking key).score? member <;> rfl

theorem remove_fst (key : String) (members : List String) {rankings : Rankings}
    (proper : (rankings.ranking key).Proper) :
    (remove key members rankings).1 =
      .count (members.dedup.countP (rankings.ranking key).contains) := by
  rw [← proper.length_without, remove]
  cases found : rankings.tables.get? key with
  | none => simp [ranking, found, Ranking.empty]
  | some kept => simp [ranking, found]

theorem proper_run (steps : List (Upkeep Command)) (key : String) :
    ((run step empty steps).2.ranking key).Proper := by
  have kept : ∀ (rankings : Rankings) (event : Upkeep Command),
      (∀ key, (rankings.ranking key).Proper) →
        ∀ key, ((step rankings event).2.ranking key).Proper := by
    intro rankings event proper key
    rw [ranking_step]
    exact proper_move (proper key) event
  have start : ∀ key, (ranking empty key).Proper := fun _ => Ranking.proper_empty
  exact run_invariant kept start steps key

/-- After every run the score of a member is its standing. -/
theorem score?_run (steps : List (Upkeep Command)) (key member : String) :
    ((run step empty steps).2.ranking key).score? member = standing key member steps := by
  induction steps using List.reverseRecOn with
  | nil => rfl
  | append_singleton steps event ih =>
      rw [run_append, standing_concat, ← ih]
      exact (congrArg (Ranking.score? · member) (ranking_step _ key event)).trans
        (score?_move (proper_run steps key) member event)

/-- After any run a ranking lists each member that stands, once, with its
standing, by descending score; and what a call tells of a member is told by its
standing. -/
theorem placings_eq_standings (steps : List (Upkeep Command)) (key : String) :
    let rankings := (run step empty steps).2
    ∃ placings, (step rankings (.call (.placings key 0 (-1)))).1 = .ranking placings ∧
      (placings.map Prod.fst).Nodup ∧
      (∀ placing ∈ placings, placing.2.isNaN = false) ∧
      placings.Pairwise (fun higher lower => lower.2.atMost higher.2) ∧
      (∀ member score, (member, score) ∈ placings ↔ standing key member steps = some score) ∧
      (∀ member, (step rankings (.call (.score key member))).1 =
        (standing key member steps).elim .missing .score) ∧
      (∀ score member, (step rankings (.call (.place key score member))).1 =
        .flag (!score.isNaN && (standing key member steps).isNone)) ∧
      ∀ members, (step rankings (.call (.remove key members))).1 =
        .count (members.dedup.countP fun member => (standing key member steps).isSome) := by
  intro rankings
  have proper : (rankings.ranking key).Proper := proper_run steps key
  have told : ∀ member, (rankings.ranking key).score? member = standing key member steps :=
    score?_run steps key
  refine ⟨(rankings.ranking key).placings, ?_, proper.distinct, proper.numbers, ?_, ?_, ?_, ?_, ?_⟩
  · exact congrArg Answer.ranking (IndexRange.select_all _)
  · apply proper.ordered.imp
    intro higher lower above
    exact Score.rank_le_iff_atMost.mp (decide_eq_true_eq.mp above)
  · intro member score
    rw [← told, proper.score?_eq_some_iff]
  · intro member
    rw [← told]
    exact score_eq_elim key member rankings
  · intro score member
    rw [← told]
    exact place_fst key score member rankings
  · intro members
    simp only [← told]
    exact remove_fst key members proper

/-- Minus zero stands below plus zero, what is no number changes nothing, and a
member that is named twice is taken out once. -/
theorem placings_eq_standings_zeros :
    let steps : List (Upkeep Command) :=
      [.call (.place "k" ⟨0x8000000000000000⟩ "minus"), .call (.place "k" ⟨0⟩ "plus"),
        .call (.place "k" ⟨0x7FF8000000000000⟩ "minus")]
    let rankings := (run step empty steps).2
    (step rankings (.call (.placings "k" 0 (-1)))).1 =
        .ranking [("plus", ⟨0⟩), ("minus", ⟨0x8000000000000000⟩)] ∧
      (step rankings (.call (.score "k" "minus"))).1 = .score ⟨0x8000000000000000⟩ ∧
      (step rankings (.call (.remove "k" ["plus", "ghost", "plus"]))).1 = .count 1 := by
  intro steps rankings
  obtain ⟨-, -, -, -, -, -, scores, -, removed⟩ := placings_eq_standings steps "k"
  refine ⟨by decide, ?_, ?_⟩
  · exact (scores "minus").trans (by decide)
  · exact (removed _).trans (by decide)

end Rankings

end SharedState
