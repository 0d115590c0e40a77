import SharedState.Proofs.Rankings.Standings

/-!
# Members with one score

A ranking does not record when its members came in. Members with one score
stand as repeated stable sorting has left them: a member that comes down to a
score lands in front of those that have it, and one that comes up to it, or is
new, lands behind them. Members with one score therefore stand in the order in
which they came in unless one overtook the other in this way and both have kept
the score since.
-/

namespace SharedState

/-! ## One element in front of another -/

section Order

variable {Element : Type} {first second : Element} {elements : List Element}

/-- Of two elements of a list one stands in front of the other. -/
theorem pair_sublist_or (firstMember : first ∈ elements) (secondMember : second ∈ elements)
    (different : first ≠ second) :
    [first, second].Sublist elements ∨ [second, first].Sublist elements := by
  induction elements with
  | nil => cases firstMember
  | cons head rest ih =>
      rcases List.mem_cons.mp firstMember with rfl | firstInside
      · have behind : second ∈ rest :=
          (List.mem_cons.mp secondMember).resolve_left (Ne.symm different)
        exact Or.inl ((List.singleton_sublist.mpr behind).cons_cons first)
      · rcases List.mem_cons.mp secondMember with rfl | secondInside
        · exact Or.inr ((List.singleton_sublist.mpr firstInside).cons_cons second)
        · exact (ih firstInside secondInside).imp (·.cons head) (·.cons head)

theorem not_pair_sublist_swap (distinct : elements.Nodup)
    (before : [first, second].Sublist elements) : ¬[second, first].Sublist elements := by
  induction elements with
  | nil => cases before
  | cons head rest ih =>
      obtain ⟨fresh, distinct⟩ := List.nodup_cons.mp distinct
      intro after
      cases before with
      | cons _ before =>
          cases after with
          | cons _ after => exact ih distinct before after
          | cons_cons _ _ => exact fresh (before.subset (by simp))
      | cons_cons _ behind =>
          cases after with
          | cons _ after => exact fresh (after.subset (by simp))
          | cons_cons _ _ => exact fresh (List.singleton_sublist.mp behind)

end Order

theorem Table.keys_rebind {Key Value : Type} [DecidableEq Key] (bindings : List (Key × Value))
    (key : Key) (value : Value) :
    (Table.rebind bindings key value).map Prod.fst =
      if key ∈ bindings.map Prod.fst then bindings.map Prod.fst
      else bindings.map Prod.fst ++ [key] := by
  induction bindings with
  | nil => rfl
  | cons binding rest ih =>
      obtain ⟨bound, old⟩ := binding
      by_cases same : bound = key
      · simp [Table.rebind, same]
      · simp only [Table.rebind, if_neg same, List.map_cons, ih, List.mem_cons,
          Ne.symm same, false_or]
        split <;> rfl

/-! ## Who stands before whom in a ranking -/

namespace Ranking

variable {ranking : Ranking} {first second : String} {firstScore secondScore : Score}

/-- Whether a member is listed before another. -/
def ahead (ranking : Ranking) (first second : String) : Prop :=
  [first, second].Sublist (ranking.placings.map Prod.fst)

theorem score?_eq_none_iff {member : String} :
    ranking.score? member = none ↔ member ∉ ranking.placings.map Prod.fst :=
  Table.find?_eq_none_iff

theorem mem_of_score? {member : String} {score : Score}
    (ranked : ranking.score? member = some score) : member ∈ ranking.placings.map Prod.fst := by
  apply contains_iff.mp
  rw [contains, ranked]
  rfl

theorem ahead_or_ahead (firstRanked : ranking.score? first = some firstScore)
    (secondRanked : ranking.score? second = some secondScore) (different : first ≠ second) :
    ranking.ahead first second ∨ ranking.ahead second first :=
  pair_sublist_or (mem_of_score? firstRanked) (mem_of_score? secondRanked) different

theorem Proper.not_ahead (proper : ranking.Proper) (before : ranking.ahead first second) :
    ¬ranking.ahead second first :=
  not_pair_sublist_swap proper.distinct before

/-- Of two members exactly one stands before the other. -/
theorem Proper.ahead_iff_not_ahead (proper : ranking.Proper) (different : first ≠ second)
    (firstRanked : ranking.score? first = some firstScore)
    (secondRanked : ranking.score? second = some secondScore) :
    ranking.ahead first second ↔ ¬ranking.ahead second first :=
  ⟨proper.not_ahead, (ahead_or_ahead firstRanked secondRanked different).resolve_right⟩

/-- Among placings, members stand with their scores. -/
theorem ahead_iff_placings {placings : List (String × Score)}
    (distinct : (placings.map Prod.fst).Nodup)
    (firstPlaced : (first, firstScore) ∈ placings)
    (secondPlaced : (second, secondScore) ∈ placings) :
    [first, second].Sublist (placings.map Prod.fst) ↔
      [(first, firstScore), (second, secondScore)].Sublist placings := by
  constructor
  · intro before
    obtain ⟨pair, inside, names⟩ := List.sublist_map_iff.mp before
    match pair, names with
    | [(_, left), (_, right)], rfl =>
        have leftPlaced : (first, left) ∈ placings := inside.subset List.mem_cons_self
        have rightPlaced : (second, right) ∈ placings :=
          inside.subset (List.mem_cons_of_mem _ List.mem_cons_self)
        cases List.inj_on_of_nodup_map distinct leftPlaced firstPlaced rfl
        cases List.inj_on_of_nodup_map distinct rightPlaced secondPlaced rfl
        exact inside
  · exact fun before => before.map Prod.fst

/-- The member with the higher score stands first. -/
theorem Proper.ahead_of_rank_lt (proper : ranking.Proper)
    (firstRanked : ranking.score? first = some firstScore)
    (secondRanked : ranking.score? second = some secondScore)
    (above : secondScore.rank < firstScore.rank) : ranking.ahead first second := by
  have different : first ≠ second := by
    rintro rfl
    rw [firstRanked, Option.some.injEq] at secondRanked
    exact Nat.ne_of_gt above (congrArg Score.rank secondRanked)
  rcases ahead_or_ahead firstRanked secondRanked different with before | behind
  · exact before
  · have placed := (ahead_iff_placings proper.distinct
      (proper.score?_eq_some_iff.mp secondRanked)
      (proper.score?_eq_some_iff.mp firstRanked)).mp behind
    have ordered := List.pairwise_pair.mp (proper.ordered.sublist placed)
    exact absurd (decide_eq_true_eq.mp ordered) (Nat.not_le_of_lt above)

variable {member : String} {score : Score}

/-- Placing a member sorts the placings stably. -/
theorem Proper.ahead_place (proper : ranking.Proper) (number : score.isNaN = false)
    (firstRanked : (ranking.place member score).score? first = some firstScore)
    (secondRanked : (ranking.place member score).score? second = some secondScore)
    (atMost : secondScore.rank ≤ firstScore.rank)
    (before : [first, second].Sublist
      ((Table.rebind ranking.placings member score).map Prod.fst)) :
    (ranking.place member score).ahead first second := by
  have placed := proper.place member number
  have rebound : ((Table.rebind ranking.placings member score).map Prod.fst).Nodup :=
    Table.nodup_keys_rebind proper.distinct
  have mem_rebound : ∀ {placing}, placing ∈ (ranking.place member score).placings →
      placing ∈ Table.rebind ranking.placings member score := Sorted.mem_sort.mp
  have pair := (ahead_iff_placings rebound
    (mem_rebound (placed.score?_eq_some_iff.mp firstRanked))
    (mem_rebound (placed.score?_eq_some_iff.mp secondRanked))).mp before
  have may : notBelow (first, firstScore) (second, secondScore) = true :=
    decide_eq_true_eq.mpr atMost
  exact (Sorted.pair_sublist_sort pair may).map Prod.fst

/-- A member that is ranked keeps its place among those whose scores allow it. -/
theorem Proper.ahead_place_of_ahead (proper : ranking.Proper) (number : score.isNaN = false)
    (firstRanked : (ranking.place member score).score? first = some firstScore)
    (secondRanked : (ranking.place member score).score? second = some secondScore)
    (atMost : secondScore.rank ≤ firstScore.rank) (before : ranking.ahead first second) :
    (ranking.place member score).ahead first second := by
  apply proper.ahead_place number firstRanked secondRanked atMost
  rw [Table.keys_rebind]
  split
  · exact before
  · exact before.trans (List.sublist_append_left ..)

/-- A new member is put behind all others whose scores allow it. -/
theorem Proper.ahead_place_of_new (proper : ranking.Proper) (number : score.isNaN = false)
    (new : ranking.score? second = none) (there : ranking.score? first ≠ none)
    (firstRanked : (ranking.place second score).score? first = some firstScore)
    (atMost : score.rank ≤ firstScore.rank) :
    (ranking.place second score).ahead first second := by
  have secondRanked : (ranking.place second score).score? second = some score := by
    rw [proper.score?_place second second number, if_pos rfl]
  apply proper.ahead_place number firstRanked secondRanked atMost
  have member : first ∈ ranking.placings.map Prod.fst := by
    by_contra absent
    exact there (score?_eq_none_iff.mpr absent)
  rw [Table.keys_rebind, if_neg (score?_eq_none_iff.mp new)]
  exact (List.singleton_sublist.mpr member).append (List.Sublist.refl [second])

/-- Taking members out leaves the others in their order. -/
theorem ahead_without {members : List String} (before : ranking.ahead first second)
    (firstStays : first ∉ members) (secondStays : second ∉ members) :
    (ranking.without members).ahead first second := by
  obtain ⟨pair, inside, names⟩ := List.sublist_map_iff.mp before
  have kept : pair.filter (fun placing => !members.contains placing.1) = pair := by
    rw [List.filter_eq_self]
    intro placing listed
    have named : placing.1 ∈ [first, second] := names ▸ List.mem_map_of_mem listed
    rcases List.mem_pair.mp named with same | same
    · simpa [same] using firstStays
    · simpa [same] using secondStays
  have sublist := inside.filter fun placing => !members.contains placing.1
  rw [kept] at sublist
  rw [ahead, names]
  exact sublist.map Prod.fst

end Ranking

/-! ## Who stands before whom after a run -/

namespace Rankings

variable {key first second : String} {score : Score} {steps : List (Upkeep Command)}

/-- A step leaves a member before another unless their scores forbid it. -/
theorem ahead_move {ranking : Ranking} (proper : ranking.Proper) (event : Upkeep Command)
    {firstScore secondScore : Score}
    (firstAfter : (move key ranking event).score? first = some firstScore)
    (secondAfter : (move key ranking event).score? second = some secondScore)
    (atMost : secondScore.rank ≤ firstScore.rank) (before : ranking.ahead first second) :
    (move key ranking event).ahead first second := by
  cases event with
  | clear => cases firstAfter
  | call command =>
      cases command with
      | members other start stop => exact before
      | placings other start stop => exact before
      | score other member => exact before
      | place other placed member =>
          by_cases here : other = key ∧ placed.isNaN = false
          · simp only [move, if_pos here] at firstAfter secondAfter ⊢
            exact proper.ahead_place_of_ahead here.2 firstAfter secondAfter atMost before
          · simpa only [move, if_neg here] using before
      | remove other members =>
          by_cases here : other = key
          · simp only [move, if_pos here, proper.score?_without] at firstAfter secondAfter ⊢
            have firstStays : first ∉ members := fun named => by simp [named] at firstAfter
            have secondStays : second ∉ members := fun named => by simp [named] at secondAfter
            exact Ranking.ahead_without before firstStays secondStays
          · simpa only [move, if_neg here] using before

/-- The ranking under a key after some steps. -/
def rankingAfter (key : String) (steps : List (Upkeep Command)) : Ranking :=
  (run step empty steps).2.ranking key

theorem rankingAfter_concat (key : String) (steps : List (Upkeep Command))
    (event : Upkeep Command) :
    rankingAfter key (steps ++ [event]) = move key (rankingAfter key steps) event := by
  rw [rankingAfter, run_append]
  exact ranking_step ..

theorem proper_rankingAfter (key : String) (steps : List (Upkeep Command)) :
    (rankingAfter key steps).Proper :=
  proper_run steps key

theorem score?_rankingAfter (key member : String) (steps : List (Upkeep Command)) :
    (rankingAfter key steps).score? member = standing key member steps :=
  score?_run steps key member

/-! ## Coming in and overtaking -/

/-- The step at an index is the placing with which a member came in: the member
was new, and nothing has taken it out since. -/
def CameIn (key member : String) (steps : List (Upkeep Command)) (index : Nat) : Prop :=
  ∃ before score after, steps = before ++ .call (.place key score member) :: after ∧
    before.length = index ∧
      (step (run step empty before).2 (.call (.place key score member))).1 = .flag true ∧
        ∀ event ∈ after, verdict key member event ≠ some none

/-- A step by which the second of two members gets in front of the first at a
score: the second comes down to the score, or the first comes up to it. -/
def Overtakes (key first second : String) (score : Score) (before : List (Upkeep Command))
    (event : Upkeep Command) : Prop :=
  (event = .call (.place key score second) ∧
      ∃ former, standing key second before = some former ∧ ¬former.atMost score) ∨
    event = .call (.place key score first) ∧
      ∃ former, standing key first before = some former ∧ ¬score.atMost former

/-- Whether a step leaves a member that has a score with this score. -/
def leavesAt (key member : String) (score : Score) (event : Upkeep Command) : Prop :=
  (verdict key member event).getD (some score) = some score

/-- The second of two members overtook the first at a score, and both have kept
the score since. -/
def Overtaken (key first second : String) (score : Score) (steps : List (Upkeep Command)) :
    Prop :=
  ∃ before event after, steps = before ++ event :: after ∧
    Overtakes key first second score before event ∧
      standing key first (before ++ [event]) = some score ∧
        standing key second (before ++ [event]) = some score ∧
          ∀ later ∈ after, leavesAt key first score later ∧ leavesAt key second score later

theorem leavesAt_of_standing {member : String} {event : Upkeep Command}
    (before : standing key member steps = some score)
    (after : standing key member (steps ++ [event]) = some score) :
    leavesAt key member score event := by
  rw [standing_concat, before] at after
  exact after

theorem standing_append_of_leavesAt {member : String} {after : List (Upkeep Command)}
    (start : standing key member steps = some score)
    (left : ∀ event ∈ after, leavesAt key member score event) :
    standing key member (steps ++ after) = some score := by
  induction after using List.reverseRecOn with
  | nil => rwa [List.append_nil]
  | append_singleton after event ih =>
      obtain ⟨earlier, last⟩ := List.forall_mem_append.mp left
      rw [← List.append_assoc, standing_concat, ih earlier]
      exact last event List.mem_cons_self

theorem isSome_standing_append {member : String} {after : List (Upkeep Command)}
    (start : (standing key member steps).isSome = true)
    (stays : ∀ event ∈ after, verdict key member event ≠ some none) :
    (standing key member (steps ++ after)).isSome = true := by
  induction after using List.reverseRecOn with
  | nil => rwa [List.append_nil]
  | append_singleton after event ih =>
      obtain ⟨earlier, last⟩ := List.forall_mem_append.mp stays
      have stays := last event List.mem_cons_self
      rw [← List.append_assoc, standing_concat]
      cases told : verdict key member event with
      | none => exact ih earlier
      | some outcome =>
          cases outcome with
          | none => exact absurd told stays
          | some score => rfl

/-- What it takes to be told that a member is new. -/
theorem place_eq_new_iff {member : String} {before : List (Upkeep Command)} :
    (step (run step empty before).2 (.call (.place key score member))).1 = .flag true ↔
      score.isNaN = false ∧ standing key member before = none := by
  rw [← score?_run]
  have told := place_fst key score member (run step empty before).2
  simp only [step, apply, told, Answer.flag.injEq, Bool.and_eq_true, Bool.not_eq_true',
    Option.isNone_iff_eq_none]

/-- The first of two members has been there since a time at which the second
was not. -/
def Senior (key first second : String) (steps : List (Upkeep Command)) : Prop :=
  ∃ before after, steps = before ++ after ∧ standing key second before = none ∧
    (standing key first before).isSome = true ∧
      ∀ event ∈ after, verdict key first event ≠ some none

theorem senior_of_cameIn {firstIndex secondIndex : Nat}
    (firstIn : CameIn key first steps firstIndex) (secondIn : CameIn key second steps secondIndex)
    (earlier : firstIndex < secondIndex) : Senior key first second steps := by
  obtain ⟨before, placed, after, split, rfl, new, stays⟩ := firstIn
  obtain ⟨laterBefore, laterPlaced, laterAfter, laterSplit, rfl, laterNew, -⟩ := secondIn
  obtain ⟨number, -⟩ := place_eq_new_iff.mp new
  -- The second placing comes behind the first.
  obtain ⟨between, rfl, rest⟩ : ∃ between,
      laterBefore = (before ++ [.call (.place key placed first)]) ++ between ∧
        after = between ++ .call (.place key laterPlaced second) :: laterAfter := by
    rcases List.append_eq_append_iff.mp (split.symm.trans laterSplit) with
      ⟨between, rfl, rest⟩ | ⟨between, rfl, -⟩
    · cases between with
      | nil => simp at earlier
      | cons head between =>
          obtain ⟨rfl, rfl⟩ := List.cons.inj rest
          exact ⟨between, by simp, rfl⟩
    · exact absurd earlier (by simp)
  refine ⟨_, _, laterSplit, (place_eq_new_iff.mp laterNew).2, ?_, ?_⟩
  · apply isSome_standing_append
    · rw [standing_concat]
      simp [verdict, number]
    · exact fun event member => stays event (rest ▸ List.mem_append_left _ member)
  · exact fun event member => stays event (rest ▸ List.mem_append_right _ member)

theorem Senior.isSome_standing (senior : Senior key first second steps) :
    (standing key first steps).isSome = true := by
  obtain ⟨before, after, rfl, -, there, stays⟩ := senior
  exact isSome_standing_append there stays

theorem Senior.of_concat {event : Upkeep Command}
    (senior : Senior key first second (steps ++ [event]))
    (tied : standing key second (steps ++ [event]) = some score) :
    Senior key first second steps := by
  obtain ⟨before, after, split, absent, there, stays⟩ := senior
  rcases List.eq_nil_or_concat after with rfl | ⟨front, last, rfl⟩
  · rw [List.append_nil] at split
    rw [split, absent] at tied
    cases tied
  · rw [List.concat_eq_append, ← List.append_assoc] at split
    obtain ⟨rfl, -⟩ := List.append_inj' split rfl
    exact ⟨before, front, rfl, absent, there, fun event member =>
      stays event (by simp [member])⟩

theorem Senior.different (senior : Senior key first second steps) : first ≠ second := by
  rintro rfl
  obtain ⟨before, -, -, absent, there, -⟩ := senior
  rw [absent] at there
  cases there

/-! ## The order of members with one score -/

/-- While two members keep one score, none overtakes the other. -/
theorem overtaken_concat_of_tied {event : Upkeep Command}
    (firstTied : standing key first steps = some score)
    (secondTied : standing key second steps = some score)
    (firstLeft : leavesAt key first score event)
    (secondLeft : leavesAt key second score event) :
    Overtaken key first second score (steps ++ [event]) ↔
      Overtaken key first second score steps := by
  constructor
  · rintro ⟨before, overtaking, after, split, overtakes, firstAt, secondAt, left⟩
    rcases List.eq_nil_or_concat after with rfl | ⟨front, last, rfl⟩
    · obtain ⟨rfl, -⟩ := List.append_inj' split rfl
      have reflexive : score.atMost score := Score.rank_le_iff_atMost.mp (Nat.le_refl _)
      rcases overtakes with ⟨-, former, stood, above⟩ | ⟨-, former, stood, below⟩
      · cases stood.symm.trans secondTied
        exact absurd reflexive above
      · cases stood.symm.trans firstTied
        exact absurd reflexive below
    · rw [List.concat_eq_append, ← List.cons_append, ← List.append_assoc] at split
      obtain ⟨rfl, -⟩ := List.append_inj' split rfl
      exact ⟨before, overtaking, front, rfl, overtakes, firstAt, secondAt, fun later member =>
        left later (by simp [member])⟩
  · rintro ⟨before, overtaking, after, rfl, overtakes, firstAt, secondAt, left⟩
    refine ⟨before, overtaking, after ++ [event], by simp, overtakes, firstAt, secondAt, ?_⟩
    rw [List.forall_mem_append]
    exact ⟨left, List.forall_mem_singleton.mpr ⟨firstLeft, secondLeft⟩⟩

/-- When two members come to have one score, the last step decides. -/
theorem overtaken_concat_of_not_tied {event : Upkeep Command}
    (apart : ¬(standing key first steps = some score ∧ standing key second steps = some score))
    (firstTied : standing key first (steps ++ [event]) = some score)
    (secondTied : standing key second (steps ++ [event]) = some score) :
    Overtaken key first second score (steps ++ [event]) ↔
      Overtakes key first second score steps event := by
  constructor
  · rintro ⟨before, overtaking, after, split, overtakes, firstAt, secondAt, left⟩
    rcases List.eq_nil_or_concat after with rfl | ⟨front, last, rfl⟩
    · obtain ⟨rfl, same⟩ := List.append_inj' split rfl
      cases same
      exact overtakes
    · rw [List.concat_eq_append, ← List.cons_append, ← List.append_assoc] at split
      obtain ⟨rfl, -⟩ := List.append_inj' split rfl
      rw [← List.singleton_append, ← List.append_assoc] at apart
      exact absurd
        ⟨standing_append_of_leavesAt firstAt fun later member => (left later (by simp [member])).1,
          standing_append_of_leavesAt secondAt fun later member =>
            (left later (by simp [member])).2⟩ apart
  · exact fun overtakes =>
      ⟨steps, event, [], rfl, overtakes, firstTied, secondTied, fun _ member => nomatch member⟩

/-- Of two members with one score exactly one stands before the other. -/
theorem ahead_iff_not_ahead (different : first ≠ second)
    (firstTied : standing key first steps = some score)
    (secondTied : standing key second steps = some score) :
    (rankingAfter key steps).ahead first second ↔
      ¬(rankingAfter key steps).ahead second first := by
  rw [← score?_rankingAfter] at firstTied secondTied
  exact (proper_rankingAfter key steps).ahead_iff_not_ahead different firstTied secondTied

/-- A member that comes to the score of another is put behind it, unless it
comes down to the score. -/
theorem ahead_arrival {member other : String} (number : score.isNaN = false)
    (different : other ≠ member) (there : standing key other steps = some score)
    (elsewhere : standing key member steps ≠ some score) :
    (rankingAfter key (steps ++ [.call (.place key score member)])).ahead other member ↔
      ¬∃ former, standing key member steps = some former ∧ ¬former.atMost score := by
  have proper := proper_rankingAfter key steps
  have moved := rankingAfter_concat key steps (.call (.place key score member))
  have otherTied : standing key other (steps ++ [.call (.place key score member)]) = some score := by
    rw [standing_concat]
    simp [verdict, Ne.symm different, there]
  have memberTied :
      standing key member (steps ++ [.call (.place key score member)]) = some score := by
    rw [standing_concat]
    simp [verdict, number]
  have otherAfter := otherTied
  have memberAfter := memberTied
  rw [← score?_rankingAfter, moved] at otherAfter memberAfter
  rw [← score?_rankingAfter] at there
  cases stood : standing key member steps with
  | none =>
      have new : (rankingAfter key steps).score? member = none :=
        (score?_rankingAfter key member steps).trans stood
      have known : (rankingAfter key steps).score? other ≠ none := by simp [there]
      simp only [move, number, and_self, if_true] at moved otherAfter
      rw [moved]
      simp [proper.ahead_place_of_new number new known otherAfter (Nat.le_refl _)]
  | some former =>
      have ranked : (rankingAfter key steps).score? member = some former :=
        (score?_rankingAfter key member steps).trans stood
      have ranksDiffer : former.rank ≠ score.rank := fun same =>
        elsewhere (stood.trans (congrArg some (Score.rank_injective same)))
      rw [ahead_iff_not_ahead different otherTied memberTied, moved]
      simp only [Option.some.injEq, exists_eq_left', not_iff_not, ← Score.rank_le_iff_atMost]
      constructor
      · intro before below
        have behind := proper.ahead_of_rank_lt there ranked
          (Nat.lt_of_le_of_ne below ranksDiffer)
        have stays := ahead_move proper _ otherAfter memberAfter (Nat.le_refl _) behind
        rw [← moved] at before stays
        exact (proper_rankingAfter key _).not_ahead stays before
      · intro above
        exact ahead_move proper _ memberAfter otherAfter (Nat.le_refl _)
          (proper.ahead_of_rank_lt ranked there (Nat.lt_of_not_le above))

/-- Two members come to have one score when one of them is placed at the score
that the other has. -/
theorem tied_concat_cases {event : Upkeep Command} (different : first ≠ second)
    (apart : ¬(standing key first steps = some score ∧ standing key second steps = some score))
    (firstTied : standing key first (steps ++ [event]) = some score)
    (secondTied : standing key second (steps ++ [event]) = some score) :
    score.isNaN = false ∧
      ((event = .call (.place key score second) ∧ standing key first steps = some score ∧
          standing key second steps ≠ some score) ∨
        event = .call (.place key score first) ∧ standing key second steps = some score ∧
          standing key first steps ≠ some score) := by
  rw [standing_concat] at firstTied secondTied
  cases secondTold : verdict key second event with
  | some told =>
      rw [secondTold] at secondTied
      cases secondTied
      obtain ⟨rfl, number⟩ := verdict_eq_some_iff.mp secondTold
      simp only [verdict, Ne.symm different, false_and, and_false, if_false,
        Option.getD_none] at firstTied
      exact ⟨number, Or.inl ⟨rfl, firstTied, fun tied => apart ⟨firstTied, tied⟩⟩⟩
  | none =>
      rw [secondTold] at secondTied
      have firstApart : standing key first steps ≠ some score := fun tied =>
        apart ⟨tied, secondTied⟩
      cases firstTold : verdict key first event with
      | none =>
          rw [firstTold] at firstTied
          exact absurd firstTied firstApart
      | some told =>
          rw [firstTold] at firstTied
          cases firstTied
          obtain ⟨rfl, number⟩ := verdict_eq_some_iff.mp firstTold
          exact ⟨number, Or.inr ⟨rfl, secondTied, firstApart⟩⟩

/-- A member that was there before another with the same score stands before
it, unless it was overtaken. -/
theorem ahead_iff_not_overtaken (senior : Senior key first second steps)
    (firstTied : standing key first steps = some score)
    (secondTied : standing key second steps = some score) :
    (rankingAfter key steps).ahead first second ↔
      ¬Overtaken key first second score steps := by
  have different := senior.different
  induction steps using List.reverseRecOn with
  | nil => cases firstTied
  | append_singleton steps event ih =>
      have seniorBefore := senior.of_concat secondTied
      by_cases tied : standing key first steps = some score ∧
          standing key second steps = some score
      · -- No order changes between members that keep their score.
        have proper := proper_rankingAfter key steps
        have firstAfter := firstTied
        have secondAfter := secondTied
        rw [← score?_rankingAfter, rankingAfter_concat] at firstAfter secondAfter
        have unchanged := overtaken_concat_of_tied tied.1 tied.2
          (leavesAt_of_standing tied.1 firstTied) (leavesAt_of_standing tied.2 secondTied)
        refine Iff.trans ?_ ((ih seniorBefore tied.1 tied.2).trans (not_congr unchanged.symm))
        constructor
        · intro after
          rw [ahead_iff_not_ahead different tied.1 tied.2]
          intro behind
          have stays := ahead_move proper event secondAfter firstAfter (Nat.le_refl _) behind
          rw [← rankingAfter_concat] at stays
          exact (proper_rankingAfter key _).not_ahead stays after
        · intro before
          rw [rankingAfter_concat]
          exact ahead_move proper event firstAfter secondAfter (Nat.le_refl _) before
      · rw [overtaken_concat_of_not_tied tied firstTied secondTied]
        obtain ⟨number, ⟨rfl, there, elsewhere⟩ | ⟨rfl, there, elsewhere⟩⟩ :=
          tied_concat_cases different tied firstTied secondTied
        · rw [ahead_arrival number different there elsewhere]
          simp [Overtakes, Ne.symm different]
        · obtain ⟨former, stood⟩ := Option.isSome_iff_exists.mp seniorBefore.isSome_standing
          have ranksDiffer : former.rank ≠ score.rank := fun same =>
            elsewhere (stood.trans (congrArg some (Score.rank_injective same)))
          rw [ahead_iff_not_ahead different firstTied secondTied,
            ahead_arrival number (Ne.symm different) there elsewhere]
          simp only [Overtakes, stood, Option.some.injEq, exists_eq_left',
            ← Score.rank_le_iff_atMost]
          simp only [Upkeep.call.injEq, Command.place.injEq, different, and_false, false_and,
            true_and, false_or, not_not]
          omega

theorem standing_of_score {member : String}
    (told : (step (run step empty steps).2 (.call (.score key member))).1 = .score score) :
    standing key member steps = some score := by
  have elim := score_eq_elim key member (run step empty steps).2
  rw [score?_run] at elim
  replace told := elim.symm.trans told
  cases stood : standing key member steps with
  | none => simp [stood] at told
  | some other => simpa [stood] using told

/-- Take any run, and two members that have one score after it. Wherever both
are listed, the one that came in first stands before the other exactly if it
was not overtaken: if the other did not come down to the score from a higher
one, nor the first come up to it from a lower one, as the last of the two to
get there. -/
theorem ties_in_order_iff_not_overtaken {firstIndex secondIndex : Nat}
    (firstIn : CameIn key first steps firstIndex)
    (secondIn : CameIn key second steps secondIndex) (earlier : firstIndex < secondIndex)
    (firstTied : (step (run step empty steps).2 (.call (.score key first))).1 = .score score)
    (secondTied : (step (run step empty steps).2 (.call (.score key second))).1 = .score score)
    {start stop : Int} {names : List String}
    (listed :
      (step (run step empty steps).2 (.call (.members key start stop))).1 = .members names)
    (firstListed : first ∈ names) (secondListed : second ∈ names) :
    [first, second].Sublist names ↔ ¬Overtaken key first second score steps := by
  have senior := senior_of_cameIn firstIn secondIn earlier
  have inside : names.Sublist ((rankingAfter key steps).placings.map Prod.fst) := by
    cases listed
    exact (IndexRange.select_sublist _ start stop).map Prod.fst
  rw [← ahead_iff_not_overtaken senior (standing_of_score firstTied)
    (standing_of_score secondTied)]
  constructor
  · exact fun before => before.trans inside
  · intro before
    rcases pair_sublist_or firstListed secondListed senior.different with here | swapped
    · exact here
    · exact absurd (swapped.trans inside) ((proper_rankingAfter key steps).not_ahead before)

/-- A member that goes up and comes back down to the score of a later one still
stands before it. -/
theorem ties_in_order_iff_not_overtaken_back :
    let steps : List (Upkeep Command) :=
      [.call (.place "k" ⟨0x4024000000000000⟩ "a"), .call (.place "k" ⟨0x4024000000000000⟩ "b"),
        .call (.place "k" ⟨0x4034000000000000⟩ "a"), .call (.place "k" ⟨0x4024000000000000⟩ "a")]
    CameIn "k" "a" steps 0 ∧ CameIn "k" "b" steps 1 ∧
      (step (run step empty steps).2 (.call (.members "k" 0 1))).1 = .members ["a", "b"] ∧
        ¬Overtaken "k" "a" "b" ⟨0x4024000000000000⟩ steps := by
  intro steps
  have firstIn : CameIn "k" "a" steps 0 :=
    ⟨[], ⟨0x4024000000000000⟩, _, rfl, rfl, by decide, by decide⟩
  have secondIn : CameIn "k" "b" steps 1 :=
    ⟨[.call (.place "k" ⟨0x4024000000000000⟩ "a")], ⟨0x4024000000000000⟩, _, rfl, rfl,
      by decide, by decide⟩
  have firstTied : (step (run step empty steps).2 (.call (.score "k" "a"))).1 =
      .score ⟨0x4024000000000000⟩ := by decide
  have secondTied : (step (run step empty steps).2 (.call (.score "k" "b"))).1 =
      .score ⟨0x4024000000000000⟩ := by decide
  have listed :
      (step (run step empty steps).2 (.call (.members "k" 0 1))).1 = .members ["a", "b"] := by
    decide
  have inOrder := ties_in_order_iff_not_overtaken firstIn secondIn (by decide)
    firstTied secondTied listed (by decide) (by decide)
  exact ⟨firstIn, secondIn, listed, inOrder.mp (List.Sublist.refl _)⟩

/-- A member that goes up and comes back down to the score of an earlier one
stands before it from then on, although it came in later. -/
theorem tie_out_of_order :
    let steps : List (Upkeep Command) :=
      [.call (.place "k" ⟨0x4024000000000000⟩ "a"), .call (.place "k" ⟨0x4024000000000000⟩ "b"),
        .call (.place "k" ⟨0x4034000000000000⟩ "b"), .call (.place "k" ⟨0x4024000000000000⟩ "b")]
    CameIn "k" "a" steps 0 ∧ CameIn "k" "b" steps 1 ∧
      (step (run step empty steps).2 (.call (.score "k" "a"))).1 = .score ⟨0x4024000000000000⟩ ∧
      (step (run step empty steps).2 (.call (.score "k" "b"))).1 = .score ⟨0x4024000000000000⟩ ∧
      (step (run step empty steps).2 (.call (.members "k" 0 (-1)))).1 = .members ["b", "a"] ∧
      ¬["a", "b"].Sublist ["b", "a"] := by
  intro steps
  have firstIn : CameIn "k" "a" steps 0 :=
    ⟨[], ⟨0x4024000000000000⟩, _, rfl, rfl, by decide, by decide⟩
  have secondIn : CameIn "k" "b" steps 1 :=
    ⟨[.call (.place "k" ⟨0x4024000000000000⟩ "a")], ⟨0x4024000000000000⟩, _, rfl, rfl,
      by decide, by decide⟩
  exact ⟨firstIn, secondIn, by decide, by decide, by decide, by decide⟩

end Rankings

end SharedState
