import SharedState.Proofs.IndexRange
import SharedState.Proofs.Rankings.Standings

/-!
# Rankings page by page

Whoever shows a ranking reads it in pages of one width, each by its first and
its last position. Two indices resolve to the positions between them and to no
others, so a page holds the members at its positions that there are, and one
after the other the pages list the whole ranking. No number on the way leaves
the machine words.
-/

namespace SharedState

namespace Rankings

variable {width : Nat}

/-- The calls that read the first pages of a ranking. -/
def pageCalls (key : String) (width count : Nat) : List (Upkeep Command) :=
  (List.range count).map fun page : Nat =>
    .call (.members key (page * width) (page * width + width - 1))

/-- The members on the first pages of a ranking. -/
def pages (key : String) (width count : Nat) (rankings : Rankings) : List (List String) :=
  (List.range count).map fun page : Nat =>
    (rankings.select key (page * width) (page * width + width - 1)).map Prod.fst

theorem run_pageCalls (rankings : Rankings) (key : String) (width count : Nat) :
    run step rankings (pageCalls key width count) =
      ((rankings.pages key width count).map .members, rankings) := by
  have unmoved : ∀ event ∈ pageCalls key width count, (step rankings event).2 = rankings := by
    intro event called
    obtain ⟨page, -, rfl⟩ := List.mem_map.mp called
    rfl
  rw [run_of_unmoved unmoved, pageCalls, pages, List.map_map, List.map_map]
  rfl

/-- The pages are the front of the ranking. -/
theorem flatten_pages (rankings : Rankings) (key : String) (positive : 1 ≤ width) (count : Nat) :
    (rankings.pages key width count).flatten =
      ((rankings.ranking key).placings.map Prod.fst).take (count * width) := by
  rw [← List.map_take, ← IndexRange.flatten_windows _ positive, List.map_flatten, List.map_map]
  rfl

/-- Whatever the length of a sequence in memory, any two words resolve without
leaving the words: to nothing if no position lies between them, and else to the
range of those positions. What they select of a ranking is copied in words as
well. So pages of any width, read one after the other, list the front of a
ranking; and as soon as there are enough of them they list all of it, each member
once. -/
theorem pages_cover_once :
    (∀ (length : Nat) (start stop : Int),
      length ≤ IndexRange.longest → IsWord start → IsWord stop →
        IndexRange.resolveWords? length start stop = some (IndexRange.resolve? length start stop) ∧
          (IndexRange.resolve? length start stop = none ↔
            IndexRange.span length start stop = ∅) ∧
          ∀ range, IndexRange.resolve? length start stop = some range →
            range.first ≤ range.last ∧ range.last < length ∧
              range.places = IndexRange.span length start stop) ∧
    (∀ (rankings : Rankings) (key : String) (start stop : Int),
      (rankings.ranking key).placings.length ≤ IndexRange.longest →
        IsWord start → IsWord stop →
          IndexRange.selectWords? (rankings.ranking key).placings start stop =
            some (rankings.select key start stop)) ∧
    ∀ (steps : List (Upkeep Command)) (key : String) (width : Nat), 1 ≤ width →
      let rankings := (run step empty steps).2
      ∃ members, (step rankings (.call (.members key 0 (-1)))).1 = .members members ∧
        members.Nodup ∧
        ∀ count, ∃ shown : List (List String),
          run step rankings (pageCalls key width count) = (shown.map .members, rankings) ∧
            shown.flatten = members.take (count * width) ∧
            (members.length ≤ count * width → shown.flatten = members) := by
  refine ⟨?_, ?_, ?_⟩
  · intro length start stop fits startWord stopWord
    refine ⟨IndexRange.resolveWords?_eq fits startWord stopWord,
      IndexRange.resolve?_eq_none_iff, ?_⟩
    intro range resolved
    obtain ⟨-, -, ordered, inside⟩ := IndexRange.resolve?_eq_some_iff.mp resolved
    exact ⟨ordered, inside, IndexRange.places_eq_span resolved⟩
  · intro rankings key start stop fits startWord stopWord
    exact IndexRange.selectWords?_eq fits startWord stopWord
  · intro steps key width positive rankings
    let members := (rankings.ranking key).placings.map Prod.fst
    have listed : (step rankings (.call (.members key 0 (-1)))).1 = .members members :=
      congrArg (Answer.members ∘ List.map Prod.fst) (IndexRange.select_all _)
    refine ⟨members, listed, (proper_run steps key).distinct, fun count => ?_⟩
    have front := flatten_pages rankings key positive count
    refine ⟨rankings.pages key width count, run_pageCalls rankings key width count, front, ?_⟩
    intro enough
    rw [front, List.take_of_length_le enough]

/-- The ends of the words as indices of a sequence of the greatest length; and a
ranking whose last page is not full. -/
theorem pages_cover_once_uneven :
    let least : Int := -0x8000000000000000
    let greatest : Int := 0x7FFFFFFFFFFFFFFF
    let one : Score := ⟨0x3FF0000000000000⟩
    let two : Score := ⟨0x4000000000000000⟩
    let three : Score := ⟨0x4008000000000000⟩
    let steps : List (Upkeep Command) :=
      [.call (.place "k" one "low"), .call (.place "k" three "high"),
        .call (.place "k" two "middle")]
    let rankings := (run step empty steps).2
    let range : IndexRange := ⟨0, 0x7FFFFFFFFFFFFFFD⟩
    (IndexRange.longest ≤ IndexRange.longest ∧ IsWord least ∧ IsWord greatest ∧ IsWord (-2) ∧
        IndexRange.resolveWords? IndexRange.longest least (-2) = some (some range) ∧
        range.places = IndexRange.span IndexRange.longest least (-2) ∧
        IndexRange.span IndexRange.longest greatest least = ∅) ∧
      ((rankings.ranking "k").placings.length ≤ IndexRange.longest ∧ IsWord 1 ∧
        IndexRange.selectWords? (rankings.ranking "k").placings 1 greatest =
          some [("middle", two), ("low", one)]) ∧
      1 ≤ 2 ∧ ∃ shown : List (List String),
        run step rankings (pageCalls "k" 2 2) = (shown.map .members, rankings) ∧
          shown.flatten = ["high", "middle", "low"] := by
  intro least greatest one two three steps rankings range
  have leastWord : IsWord least := by decide
  have greatestWord : IsWord greatest := by decide
  have oneWord : IsWord 1 := by decide
  have behindWord : IsWord (-2) := by decide
  have positive : 1 ≤ 2 := by decide
  have fits : (rankings.ranking "k").placings.length ≤ IndexRange.longest := by decide
  have resolved : IndexRange.resolve? IndexRange.longest least (-2) = some range := by decide
  have unresolved : IndexRange.resolve? IndexRange.longest greatest least = none := by decide
  obtain ⟨resolving, reading, paging⟩ := pages_cover_once
  obtain ⟨words, -, found⟩ :=
    resolving IndexRange.longest least (-2) (Nat.le_refl _) leastWord behindWord
  obtain ⟨-, nothing, -⟩ :=
    resolving IndexRange.longest greatest least (Nat.le_refl _) greatestWord leastWord
  obtain ⟨members, listed, -, pages⟩ := paging steps "k" 2 positive
  obtain ⟨shown, answered, -, whole⟩ := pages 2
  obtain rfl : members = ["high", "middle", "low"] :=
    Answer.members.inj (listed.symm.trans (by decide))
  refine ⟨⟨Nat.le_refl _, leastWord, greatestWord, behindWord, ?_, ?_, ?_⟩, ⟨fits, oneWord, ?_⟩,
    positive, shown, answered, ?_⟩
  · rw [words, resolved]
  · exact (found range resolved).2.2
  · exact nothing.mp unresolved
  · rw [reading rankings "k" 1 greatest fits oneWord greatestWord]
    decide
  · exact whole (by decide)

end Rankings

end SharedState
