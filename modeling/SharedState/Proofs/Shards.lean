import Mathlib.Algebra.BigOperators.Fin
import SharedState.Proofs.Tables
import SharedState.Shards

/-!
# Shards as one table

Shards make up a table if each of them binds, of the keys that are kept in it,
those that the table binds, and to the same values. What is done under a key then
comes to the same in its shard as in the whole table, and so do counting, clearing
and discarding, whatever the hash is.
-/

namespace SharedState

variable {Value Result : Type}

/-! ## What is done under a key -/

namespace Table

/-- Something is done to a table under one key. What is found there decides on the
result and on what is there afterwards, and what is under other keys stays. -/
def Confined (key : String) (act : Table String Value → Result × Table String Value) : Prop :=
  ∃ (result : Option Value → Result) (next : Option Value → Option Value), ∀ table,
    (act table).1 = result (table.get? key) ∧
      ∀ other, (act table).2.get? other =
        if other = key then next (table.get? key) else table.get? other

theorem size_filter_le (table : Table String Value) (kept : String → Value → Bool) :
    (table.filter kept).size ≤ table.size :=
  List.length_filter_le ..

end Table

/-! ## Shards that make up a table -/

namespace Shards

variable {hash : String → Nat} {table : Table String Value} {shards : Shards Value}

/-- Each shard binds what the table binds of the keys that are kept in it. -/
def MakesUp (hash : String → Nat) (table : Table String Value) (shards : Shards Value) : Prop :=
  ∀ (number : Fin About.shards) (key : String),
    shards.tables[number].get? key = if index hash key = number then table.get? key else none

theorem total_eq (count : Table String Value → Nat) (shards : Shards Value) :
    shards.total count = ∑ number : Fin About.shards, count shards.tables[number] := by
  have listed : shards.tables.toList.map count =
      List.ofFn fun number : Fin About.shards => count shards.tables[number] := by
    apply List.ext_getElem <;> simp
  rw [total, ← Vector.foldl_toList, ← List.foldl_map, ← List.sum_eq_foldl, listed, List.sum_ofFn]

theorem makesUp_empty (hash : String → Nat) :
    MakesUp hash Table.empty (empty : Shards Value) := by
  intro number key
  simp [empty]

theorem makesUp_clear (hash : String → Nat) (shards : Shards Value) :
    MakesUp hash Table.empty shards.clear := by
  intro number key
  simp [clear]

namespace MakesUp

theorem get?_shard (makesUp : MakesUp hash table shards) (key : String) :
    (shards.shard hash key).get? key = table.get? key :=
  (makesUp _ key).trans (if_pos rfl)

/-- Only what the table binds to its keys matters, and not in which order. -/
theorem of_get?_eq (makesUp : MakesUp hash table shards) {other : Table String Value}
    (same : ∀ key, table.get? key = other.get? key) : MakesUp hash other shards := by
  intro number key
  rw [makesUp, same]

/-- What is done under a key comes to the same in its shard as in the table. -/
theorem access (makesUp : MakesUp hash table shards) {key : String}
    {act : Table String Value → Result × Table String Value} (confined : Table.Confined key act) :
    (shards.access hash key act).1 = (act table).1 ∧
      MakesUp hash (act table).2 (shards.access hash key act).2 := by
  obtain ⟨result, next, acts⟩ := confined
  have found := makesUp.get?_shard key
  refine ⟨?_, fun number other => ?_⟩
  · rw [Shards.access, (acts table).1, (acts (shards.shard hash key)).1, found]
  · rw [(acts table).2]
    by_cases here : index hash key = number
    · subst here
      have replaced : (shards.access hash key act).2.tables[index hash key] =
          (act (shards.shard hash key)).2 := by simp [Shards.access]
      rw [replaced, (acts (shards.shard hash key)).2, found]
      by_cases same : other = key
      · simp [same]
      · rw [if_neg same, if_neg same]
        exact makesUp _ other
    · have untouched : (shards.access hash key act).2.tables[number] = shards.tables[number] := by
        simpa [Shards.access, Vector.getElem_set] using fun equal => absurd (Fin.ext equal) here
      rw [untouched, makesUp]
      by_cases same : other = key
      · subst same
        rw [if_neg here, if_neg here]
      · rw [if_neg same]

theorem retain_snd (makesUp : MakesUp hash table shards) (kept : String → Value → Bool) :
    MakesUp hash (table.filter kept) (shards.retain kept).2 := by
  intro number key
  have filtered : (shards.retain kept).2.tables[number] = shards.tables[number].filter kept := by
    simp [retain]
  rw [filtered, Table.get?_filter, Table.get?_filter, makesUp]
  split <;> rfl

/-- A shard binds the keys of the table that are kept in it, and so the shards
together bind as many keys as the table. -/
theorem size_eq (makesUp : MakesUp hash table shards) : shards.size = table.size := by
  have names (number : Fin About.shards) : shards.tables[number].names =
      table.names.filter fun key => index hash key = number := by
    ext key
    rw [Finset.mem_filter, Table.mem_names, Table.mem_names, makesUp]
    split <;> simp [*]
  calc shards.size = ∑ number : Fin About.shards, shards.tables[number].size :=
        total_eq Table.size shards
    _ = ∑ number : Fin About.shards, (table.names.filter fun key => index hash key = number).card :=
        Finset.sum_congr rfl fun number _ => by rw [← names, Table.card_names]
    _ = table.names.card :=
        (Finset.card_eq_sum_card_fiberwise fun _ _ => Finset.mem_coe.mpr (Finset.mem_univ _)).symm
    _ = table.size := Table.card_names table

theorem retain_fst (makesUp : MakesUp hash table shards) (kept : String → Value → Bool) :
    (shards.retain kept).1 = table.size - (table.filter kept).size := by
  have left : ∑ number : Fin About.shards, (shards.tables[number].filter kept).size =
      (table.filter kept).size := by
    rw [← (makesUp.retain_snd kept).size_eq, size, total_eq]
    simp [retain]
  have all : (shards.retain kept).1 + (table.filter kept).size = table.size := by
    rw [← left, ← makesUp.size_eq, size, total_eq, retain, total_eq, ← Finset.sum_add_distrib]
    exact Finset.sum_congr rfl fun number _ =>
      Nat.sub_add_cancel (Table.size_filter_le _ kept)
  exact Nat.eq_sub_of_add_eq all

end MakesUp

end Shards

end SharedState
