import Mathlib.Data.Finset.Card
import SharedState.Table

/-!
# What all values of a table have in common, and which keys are bound

A property of all values is kept when a value that has it is put under a key,
and whenever keys are unbound. The bound keys are a finite set, to which
putting a value under a key adds that key. Where one key only is ever in use,
a table is what is under this key.
-/

namespace SharedState.Table

variable {Key Value : Type} [DecidableEq Key]

/-- Every bound value has a property. -/
def All (holds : Value → Prop) (table : Table Key Value) : Prop :=
  ∀ key value, table.get? key = some value → holds value

variable {holds further : Value → Prop} {table : Table Key Value}

theorem all_empty (holds : Value → Prop) : (empty : Table Key Value).All holds := by
  intro key value found
  cases found

theorem All.imp (all : table.All holds) (follows : ∀ value, holds value → further value) :
    table.All further :=
  fun key value found => follows value (all key value found)

theorem All.put (all : table.All holds) (key : Key) {value : Value} (new : holds value) :
    (table.put key value).All holds := by
  intro other present found
  rw [get?_put] at found
  split at found
  · cases found
    exact new
  · exact all other present found

theorem All.filter (all : table.All holds) (kept : Key → Value → Bool) :
    (table.filter kept).All holds := by
  intro key value found
  rw [get?_filter, Option.filter_eq_some_iff] at found
  exact all key value found.1

theorem All.erase (all : table.All holds) (key : Key) : (table.erase key).All holds :=
  all.filter _

/-- What is left by a filter passes the test. -/
theorem all_filter (table : Table Key Value) (kept : Value → Bool) :
    (table.filter fun _ value => kept value).All fun value => kept value = true := by
  intro key value found
  rw [get?_filter, Option.filter_eq_some_iff] at found
  exact found.2

omit [DecidableEq Key] in
/-- A filter that every binding passes leaves the table as it is. -/
theorem filter_eq_self {kept : Key → Value → Bool}
    (all : ∀ binding ∈ table.bindings, kept binding.1 binding.2 = true) :
    table.filter kept = table := by
  obtain ⟨bindings, distinct⟩ := table
  simp only [filter, Table.mk.injEq]
  exact List.filter_eq_self.mpr all

theorem rebind_rebind (bindings : List (Key × Value)) (key : Key) (first second : Value) :
    rebind (rebind bindings key first) key second = rebind bindings key second := by
  induction bindings with
  | nil => simp [rebind]
  | cons binding rest ih =>
      obtain ⟨bound, old⟩ := binding
      by_cases same : bound = key
      · simp [rebind, same]
      · simp [rebind, same, ih]

/-- Of two values for one key the second stays. -/
theorem put_put (table : Table Key Value) (key : Key) (first second : Value) :
    (table.put key first).put key second = table.put key second := by
  obtain ⟨bindings, distinct⟩ := table
  simp only [put, rebind_rebind]

/-- Where a key was bound, something is. -/
@[simp]
theorem isEmpty_put (table : Table Key Value) (key : Key) (value : Value) :
    (table.put key value).isEmpty = false := by
  obtain ⟨bindings, distinct⟩ := table
  cases bindings with
  | nil => rfl
  | cons binding rest =>
      simp only [isEmpty, Table.put, rebind]
      split <;> rfl

/-- A key is dropped when nothing is left to keep under it. -/
theorem All.replace (all : table.All holds) (key : Key) {value : Value} {nothing : Bool}
    (new : nothing = false → holds value) :
    (if nothing then table.erase key else table.put key value).All holds := by
  cases nothing with
  | true => exact all.erase key
  | false => exact all.put key (new rfl)

/-- Where no bound value is vacant, what is found under a key, or else nothing, is
vacant only if the key is not bound. -/
theorem All.vacant_getD {vacant : Value → Bool} (all : table.All fun value => vacant value = false)
    (nothing : Value) (blank : vacant nothing = true) (key : Key) :
    vacant ((table.get? key).getD nothing) = (table.get? key).isNone := by
  cases found : table.get? key with
  | none => exact blank
  | some value => exact all key value found

/-! ## The bound keys -/

/-- The bound keys as a set. -/
def names (table : Table Key Value) : Finset Key := table.keys.toFinset

theorem mem_names {key : Key} : key ∈ table.names ↔ (table.get? key).isSome = true := by
  rw [names, List.mem_toFinset, mem_keys_iff, contains]

theorem mem_names_iff_contains {key : Key} : key ∈ table.names ↔ table.contains key = true :=
  mem_names

@[simp]
theorem card_names (table : Table Key Value) : table.names.card = table.size := by
  rw [names, keys, List.toFinset_card_of_nodup table.distinct, List.length_map, size]

theorem names_put (table : Table Key Value) (key : Key) (value : Value) :
    (table.put key value).names = insert key table.names := by
  ext other
  rw [Finset.mem_insert, mem_names, mem_names, get?_put]
  by_cases same : other = key <;> simp [same]

theorem names_erase (table : Table Key Value) (key : Key) :
    (table.erase key).names = table.names.erase key := by
  ext other
  rw [Finset.mem_erase, mem_names, mem_names, get?_erase]
  by_cases same : other = key <;> simp [same]

theorem names_eq_empty_iff {table : Table Key Value} : table.names = ∅ ↔ table.isEmpty = true := by
  rw [← Finset.card_eq_zero, card_names, isEmpty_iff_size]

/-! ## One key -/

/-- The table that binds nothing but one key, if anything. -/
def only (key : Key) (held : Option Value) : Table Key Value :=
  held.elim empty (empty.put key)

@[simp]
theorem get?_only (key : Key) (held : Option Value) : (only key held).get? key = held := by
  cases held <;> simp [only]

@[simp]
theorem put_only (key : Key) (held : Option Value) (value : Value) :
    (only key held).put key value = only key (some value) := by
  cases held <;> simp [only, Table.put, rebind, empty]

end SharedState.Table
