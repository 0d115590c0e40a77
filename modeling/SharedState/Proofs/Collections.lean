import Mathlib.Data.Finmap
import Mathlib.Data.Finset.Sort
import Mathlib.Data.String.Basic
import SharedState.Hashes
import SharedState.Proofs.Refinement
import SharedState.Proofs.Workload.Moves

/-!
# Hashes are finite maps and sets are finite sets

The reference for hashes is a family of finite maps, one under every key, and
for sets a family of finite sets. A key that is not in use has the empty one,
so nothing is said of when a container comes into being or goes away. What a
call counts is by how much its map or set grows or shrinks, and a listing goes
through the fields or members in ascending order, each of them once.
-/

namespace SharedState

open SharedState.Workload

/-! ## Tables -/

namespace Table

variable {Key Value : Type} [DecidableEq Key]

/-- The finite map that a table is. -/
def toFinmap (table : Table Key Value) : Finmap fun _ : Key => Value :=
  (table.bindings.map Prod.toSigma).toFinmap

theorem dlookup_toSigma (bindings : List (Key × Value)) (key : Key) :
    (bindings.map Prod.toSigma).dlookup key = find? bindings key := by
  induction bindings with
  | nil => rfl
  | cons binding rest ih =>
      obtain ⟨bound, value⟩ := binding
      by_cases same : bound = key
      · subst same
        simp [find?]
      · rw [List.map_cons, List.dlookup_cons_ne _ _ (Ne.symm same), ih, find?, if_neg same]

@[simp]
theorem lookup_toFinmap (table : Table Key Value) (key : Key) :
    table.toFinmap.lookup key = table.get? key := by
  rw [toFinmap, Finmap.dlookup_list_toFinmap, dlookup_toSigma, get?]

theorem keys_toFinmap (table : Table Key Value) : table.toFinmap.keys = table.names := by
  ext key
  rw [Finmap.mem_keys, ← Finmap.lookup_isSome, lookup_toFinmap, mem_names]

theorem mem_toFinmap_iff {table : Table Key Value} {key : Key} :
    key ∈ table.toFinmap ↔ table.contains key = true := by
  rw [← Finmap.lookup_isSome, lookup_toFinmap, contains]

@[simp]
theorem toFinmap_empty : (empty : Table Key Value).toFinmap = ∅ :=
  rfl

theorem toFinmap_put (table : Table Key Value) (key : Key) (value : Value) :
    (table.put key value).toFinmap = table.toFinmap.insert key value := by
  apply Finmap.ext_lookup
  intro other
  by_cases same : other = key
  · subst same
    simp
  · simp [same, Finmap.lookup_insert_of_ne]

theorem toFinmap_erase (table : Table Key Value) (key : Key) :
    (table.erase key).toFinmap = table.toFinmap.erase key := by
  apply Finmap.ext_lookup
  intro other
  by_cases same : other = key
  · subst same
    simp
  · simp [same, Finmap.lookup_erase_ne]

theorem toFinmap_eraseAll (table : Table Key Value) (keys : List Key) :
    (table.eraseAll keys).2.toFinmap =
      keys.foldl (fun map key => map.erase key) table.toFinmap := by
  induction keys generalizing table with
  | nil => rfl
  | cons key rest ih => rw [eraseAll, List.foldl_cons, ← toFinmap_erase, ← ih]

theorem toFinmap_of_isEmpty {table : Table Key Value} (nothing : table.isEmpty = true) :
    table.toFinmap = ∅ := by
  obtain ⟨bindings, distinct⟩ := table
  obtain rfl : bindings = [] := List.isEmpty_iff.mp nothing
  rfl

theorem eraseAll_empty (keys : List Key) :
    (empty : Table Key Value).eraseAll keys = (0, empty) := by
  induction keys with
  | nil => rfl
  | cons key rest ih =>
      have nothing : (empty : Table Key Value).erase key = empty := rfl
      rw [eraseAll, nothing, ih]
      rfl

theorem names_empty : (empty : Table Key Value).names = ∅ :=
  rfl

theorem names_eraseAll {Value : Type} (table : Table String Value) (keys : List String) :
    (table.eraseAll keys).2.names = table.names \ keys.toFinset :=
  congrArg Prod.snd (eraseAll_moves table keys)

/-- Unbinding keys counts what the table shrinks by. -/
theorem eraseAll_fst {Value : Type} (table : Table String Value) (keys : List String) :
    (table.eraseAll keys).1 = table.names.card - (table.eraseAll keys).2.names.card := by
  have counted := Move.step_withdraw_add_card table.names keys.toFinset
  rw [← eraseAll_moves] at counted
  exact Nat.eq_sub_of_add_eq counted

end Table

namespace NameSet

theorem names_insertAll (names : NameSet) (added : List String) :
    (names.insertAll added).2.names = names.names ∪ added.toFinset :=
  congrArg Prod.snd (insertAll_moves names added)

/-- Adding names counts what the set grows by. -/
theorem insertAll_fst (names : NameSet) (added : List String) :
    (names.insertAll added).1 = (names.insertAll added).2.names.card - names.names.card := by
  have counted := Move.step_gather_add_card names.names added.toFinset
  rw [← insertAll_moves, ← names_insertAll] at counted
  exact Nat.eq_sub_of_add_eq counted

end NameSet

/-! ## Listings -/

namespace Answer

theorem notAbove_iff {left right : String} : notAbove left right = true ↔ left ≤ right := by
  rw [notAbove, Bool.not_eq_true', decide_eq_false_iff_not, not_lt]

theorem notAbove_total (left right : String) :
    notAbove left right = true ∨ notAbove right left = true := by
  simpa only [notAbove_iff] using le_total left right

theorem notAbove_trans {left middle right : String} (lower : notAbove left middle = true)
    (upper : notAbove middle right = true) : notAbove left right = true :=
  notAbove_iff.mpr ((notAbove_iff.mp lower).trans (notAbove_iff.mp upper))

/-- Names in ascending order and without repetition are told by their set. -/
theorem eq_sort_of_ascending {names : List String} {set : Finset String}
    (ascending : names.Pairwise (· ≤ ·)) (distinct : names.Nodup)
    (same : ∀ name, name ∈ names ↔ name ∈ set) : names = set.sort := by
  have rearranged : names.Perm set.sort := by
    rw [List.perm_ext_iff_of_nodup distinct (Finset.sort_nodup ..)]
    simpa using same
  exact rearranged.eq_of_pairwise' ascending (Finset.pairwise_sort ..)

/-- Members are listed in ascending order, each of them once. -/
theorem sortedMembers_keys {Value : Type} (table : Table String Value) :
    sortedMembers table.keys = members table.names.sort := by
  have ascending : Sorted.Ordered notAbove (Sorted.sort notAbove table.keys) :=
    Sorted.ordered_sort notAbove_total notAbove_trans _
  have distinct : (Sorted.sort notAbove table.keys).Nodup :=
    (Sorted.perm_sort ..).nodup_iff.mpr table.distinct
  refine congrArg members (eq_sort_of_ascending (ascending.imp notAbove_iff.mp) distinct ?_)
  intro name
  rw [Sorted.mem_sort, Table.names, List.mem_toFinset]

/-- Whether a binding may stand before another. -/
def listedBefore (left right : String × String) : Bool := notAbove left.1 right.1

theorem ascending_sort (bindings : List (String × String)) :
    ((Sorted.sort listedBefore bindings).map Prod.fst).Pairwise (· ≤ ·) := by
  have total : ∀ left right, listedBefore left right = true ∨ listedBefore right left = true :=
    fun left right => notAbove_total left.1 right.1
  have transitive : ∀ {left middle right}, listedBefore left middle = true →
      listedBefore middle right = true → listedBefore left right = true :=
    fun lower upper => notAbove_trans lower upper
  have ordered : Sorted.Ordered listedBefore (Sorted.sort listedBefore bindings) :=
    Sorted.ordered_sort total transitive bindings
  exact List.pairwise_map.mpr (ordered.imp fun below => notAbove_iff.mp below)

/-- Fields are listed in ascending order, each of them once and with its value. -/
theorem sortedFields_bindings (table : Table String String) :
    sortedFields table.bindings =
      fields (table.names.sort.filterMap fun field =>
        (table.get? field).map fun value => (field, value)) := by
  let listed := Sorted.sort listedBefore table.bindings
  have rearranged : listed.Perm table.bindings := Sorted.perm_sort listedBefore table.bindings
  have renamed : (listed.map Prod.fst).Perm table.keys := rearranged.map Prod.fst
  have names : listed.map Prod.fst = table.names.sort := by
    apply eq_sort_of_ascending (ascending_sort table.bindings)
      (renamed.nodup_iff.mpr table.distinct)
    intro name
    rw [renamed.mem_iff, Table.names, List.mem_toFinset]
  have bound : ∀ binding ∈ listed,
      (table.get? binding.1).map (fun value => (binding.1, value)) = some binding := by
    intro binding member
    rw [Table.get?_eq_some_iff.mpr (rearranged.mem_iff.mp member), Option.map_some]
  have relisted : listed = table.names.sort.filterMap fun field =>
      (table.get? field).map fun value => (field, value) := by
    calc listed
        = listed.filterMap some := List.filterMap_some.symm
      _ = listed.filterMap fun binding =>
            (table.get? binding.1).map fun value => (binding.1, value) :=
          List.filterMap_congr fun binding member => (bound binding member).symm
      _ = (listed.map Prod.fst).filterMap fun field =>
            (table.get? field).map fun value => (field, value) := by
          rw [List.filterMap_map]
          rfl
      _ = _ := by rw [names]
  exact congrArg fields relisted

end Answer

/-! ## Hashes -/

/-- Finite maps under keys. -/
abbrev FiniteMaps := String → Finmap fun _ : String => String

namespace FiniteMaps

/-- The empty map under every key. -/
def empty : FiniteMaps := fun _ => ∅

/-- The fields of a map in ascending order, each with its value. -/
def listing (map : Finmap fun _ : String => String) : List (String × String) :=
  map.keys.sort.filterMap fun field => (map.lookup field).map fun value => (field, value)

/-- Takes one step. -/
def step (maps : FiniteMaps) : Upkeep Hashes.Command → Answer × FiniteMaps
  | .call (.put key field value) =>
      (.flag (field ∉ maps key), Function.update maps key ((maps key).insert field value))
  | .call (.get key field) => (.ofText? ((maps key).lookup field), maps)
  | .call (.list key) => (.fields (listing (maps key)), maps)
  | .call (.remove key fields) =>
      let left := fields.foldl (fun map field => map.erase field) (maps key)
      (.count ((maps key).keys.card - left.keys.card), Function.update maps key left)
  | .clear => (.done, empty)

end FiniteMaps

namespace Hashes

/-- The finite maps that hashes are. -/
def maps (hashes : Hashes) : FiniteMaps := fun key => (hashes.fields key).toFinmap

theorem maps_put (hashes : Hashes) (key : String) (table : Table String String) :
    maps ⟨hashes.tables.put key table⟩ = Function.update hashes.maps key table.toFinmap := by
  funext other
  by_cases same : other = key
  · subst same
    simp [maps, fields]
  · simp [maps, fields, same]

theorem maps_erase (hashes : Hashes) (key : String) :
    maps ⟨hashes.tables.erase key⟩ = Function.update hashes.maps key ∅ := by
  funext other
  by_cases same : other = key
  · subst same
    simp [maps, fields]
  · simp [maps, fields, same]

theorem list_eq (hashes : Hashes) (key : String) :
    hashes.list key = .fields (FiniteMaps.listing (hashes.maps key)) := by
  rw [list, Answer.sortedFields_bindings, FiniteMaps.listing, maps, Table.keys_toFinmap]
  simp only [Table.lookup_toFinmap]

theorem put_eq (key field value : String) (hashes : Hashes) :
    ((hashes.put key field value).1, (hashes.put key field value).2.maps) =
      FiniteMaps.step hashes.maps (.call (.put key field value)) := by
  have new : (!(hashes.fields key).contains field) = decide (field ∉ hashes.maps key) := by
    rw [Bool.eq_iff_iff]
    simp [maps, Table.mem_toFinmap_iff]
  simp only [put, maps_put, Table.toFinmap_put, FiniteMaps.step, new]
  rfl

theorem remove_eq (key : String) (names : List String) (hashes : Hashes) :
    ((hashes.remove key names).1, (hashes.remove key names).2.maps) =
      FiniteMaps.step hashes.maps (.call (.remove key names)) := by
  have kept : FiniteMaps.step hashes.maps (.call (.remove key names)) =
      (.count ((hashes.fields key).eraseAll names).1,
        Function.update hashes.maps key ((hashes.fields key).eraseAll names).2.toFinmap) := by
    simp only [FiniteMaps.step, maps, ← Table.toFinmap_eraseAll, Table.keys_toFinmap,
      ← Table.eraseAll_fst]
  rw [kept, remove]
  cases found : hashes.tables.get? key with
  | none =>
      have nothing : hashes.fields key = Table.empty := by simp [fields, found]
      have unchanged : Function.update hashes.maps key ∅ = hashes.maps := by
        rw [Function.update_eq_self_iff, maps, nothing, Table.toFinmap_empty]
      rw [nothing, Table.eraseAll_empty, Table.toFinmap_empty, unchanged]
  | some table =>
      have there : hashes.fields key = table := by simp [fields, found]
      rw [there]
      by_cases emptied : (table.eraseAll names).2.isEmpty = true
      · simp only [if_pos emptied, maps_erase, Table.toFinmap_of_isEmpty emptied]
      · simp only [if_neg emptied, maps_put]

theorem step_eq (hashes : Hashes) (event : Upkeep Command) :
    ((step hashes event).1, (step hashes event).2.maps) = FiniteMaps.step hashes.maps event := by
  cases event with
  | clear => rfl
  | call command =>
      cases command with
      | put key field value => exact put_eq key field value hashes
      | get key field =>
          simp only [step, apply, get, FiniteMaps.step, maps, Table.lookup_toFinmap]
      | list key => simp only [step, apply, FiniteMaps.step, list_eq]
      | remove key names => exact remove_eq key names hashes

end Hashes

/-! ## Sets -/

/-- Finite sets under keys. -/
abbrev FiniteSets := String → Finset String

namespace FiniteSets

/-- The empty set under every key. -/
def empty : FiniteSets := fun _ => ∅

/-- Takes one step. -/
def step (sets : FiniteSets) : Upkeep Sets.Command → Answer × FiniteSets
  | .call (.add key names) =>
      let grown := sets key ∪ names.toFinset
      (.count (grown.card - (sets key).card), Function.update sets key grown)
  | .call (.remove key names) =>
      let left := sets key \ names.toFinset
      (.count ((sets key).card - left.card), Function.update sets key left)
  | .call (.list key) => (.members (sets key).sort, sets)
  | .call (.contains key name) => (.flag (name ∈ sets key), sets)
  | .clear => (.done, empty)

end FiniteSets

namespace Sets

/-- The finite sets that sets are. -/
def finite (sets : Sets) : FiniteSets := fun key => (sets.members key).names

theorem finite_put (sets : Sets) (key : String) (names : NameSet) :
    finite ⟨sets.tables.put key names⟩ = Function.update sets.finite key names.names := by
  funext other
  by_cases same : other = key
  · subst same
    simp [finite, members]
  · simp [finite, members, same]

theorem finite_erase (sets : Sets) (key : String) :
    finite ⟨sets.tables.erase key⟩ = Function.update sets.finite key ∅ := by
  funext other
  by_cases same : other = key
  · subst same
    simp [finite, members, Table.names_empty]
  · simp [finite, members, same]

theorem add_eq (key : String) (names : List String) (sets : Sets) :
    ((sets.add key names).1, (sets.add key names).2.finite) =
      FiniteSets.step sets.finite (.call (.add key names)) := by
  cases names with
  | nil => simp [add, FiniteSets.step]
  | cons name rest =>
      have any : ¬(name :: rest).isEmpty = true := nofun
      simp only [add, if_neg any, finite_put, FiniteSets.step, NameSet.insertAll_fst,
        NameSet.names_insertAll, finite]

theorem remove_eq (key : String) (names : List String) (sets : Sets) :
    ((sets.remove key names).1, (sets.remove key names).2.finite) =
      FiniteSets.step sets.finite (.call (.remove key names)) := by
  have kept : FiniteSets.step sets.finite (.call (.remove key names)) =
      (.count ((sets.members key).eraseAll names).1,
        Function.update sets.finite key ((sets.members key).eraseAll names).2.names) := by
    simp only [FiniteSets.step, finite, Table.eraseAll_fst, Table.names_eraseAll]
  rw [kept, remove]
  cases found : sets.tables.get? key with
  | none =>
      have nothing : sets.members key = Table.empty := by simp [members, found]
      have unchanged : Function.update sets.finite key ∅ = sets.finite := by
        rw [Function.update_eq_self_iff, finite, nothing, Table.names_empty]
      rw [nothing, Table.eraseAll_empty, Table.names_empty, unchanged]
  | some present =>
      have there : sets.members key = present := by simp [members, found]
      rw [there]
      by_cases emptied : (present.eraseAll names).2.isEmpty = true
      · simp only [if_pos emptied, finite_erase, Table.names_eq_empty_iff.mpr emptied]
      · simp only [if_neg emptied, finite_put]

theorem contains_eq (key name : String) (sets : Sets) :
    sets.contains key name = .flag (name ∈ sets.finite key) := by
  have same : (sets.members key).contains name = decide (name ∈ sets.finite key) := by
    rw [Bool.eq_iff_iff, decide_eq_true_iff, finite, Table.mem_names_iff_contains]
  rw [contains, same]

theorem step_eq (sets : Sets) (event : Upkeep Command) :
    ((step sets event).1, (step sets event).2.finite) = FiniteSets.step sets.finite event := by
  cases event with
  | clear => rfl
  | call command =>
      cases command with
      | add key names => exact add_eq key names sets
      | remove key names => exact remove_eq key names sets
      | list key => simp only [step, apply, list, FiniteSets.step, Answer.sortedMembers_keys, finite]
      | contains key name => simp only [step, apply, FiniteSets.step, contains_eq]

end Sets

/-- Every run of calls on hashes is answered as by finite maps, and every run of
calls on sets as by finite sets: writing a field tells whether it is new, adding
and removing tell what the map or set grows or shrinks by, and listings name
what is there once. A map or set that holds nothing, be it that it never did or
that it was emptied, is read as one that is not there. -/
theorem collections_are_finite (onHashes : List (Upkeep Hashes.Command))
    (onSets : List (Upkeep Sets.Command)) :
    (run Hashes.step Hashes.empty onHashes).1 =
        (run FiniteMaps.step FiniteMaps.empty onHashes).1 ∧
      (run Sets.step Sets.empty onSets).1 = (run FiniteSets.step FiniteSets.empty onSets).1 :=
  ⟨congrArg Prod.fst (run_eq_of_step Hashes.step_eq Hashes.empty onHashes),
    congrArg Prod.fst (run_eq_of_step Sets.step_eq Sets.empty onSets)⟩

end SharedState
