/-!
# Finite tables

A table is a list of bindings whose keys are pairwise distinct, in the order
in which the keys were first bound. Rebinding a key keeps its place. The
operations are described by what they do to `get?` and to the keys; nothing
else needs to look at the list.
-/

namespace SharedState

/-- A finite map from `Key` to `Value`, kept as a list of bindings. -/
structure Table (Key : Type) (Value : Type) where
  /-- The bindings, oldest key first. -/
  bindings : List (Key × Value)
  /-- No key is bound twice. -/
  distinct : (bindings.map Prod.fst).Nodup
deriving DecidableEq

namespace Table

variable {Key Value : Type} [DecidableEq Key]

/-- The table with no binding. -/
def empty : Table Key Value where
  bindings := []
  distinct := List.nodup_nil

/-- The bound keys, oldest first. -/
def keys (table : Table Key Value) : List Key := table.bindings.map Prod.fst

/-- How many keys are bound. -/
def size (table : Table Key Value) : Nat := table.bindings.length

/-- Whether no key is bound. -/
def isEmpty (table : Table Key Value) : Bool := table.bindings.isEmpty

/-- The value bound to a key in a list of bindings. -/
def find? : List (Key × Value) → Key → Option Value
  | [], _ => none
  | (bound, value) :: rest, key => if bound = key then some value else find? rest key

/-- The value bound to a key. -/
def get? (table : Table Key Value) (key : Key) : Option Value := find? table.bindings key

/-- Whether a key is bound. -/
def contains (table : Table Key Value) (key : Key) : Bool := (table.get? key).isSome

/-- Binds a key in a list of bindings: in place if it is bound, else at the end. -/
def rebind : List (Key × Value) → Key → Value → List (Key × Value)
  | [], key, value => [(key, value)]
  | (bound, old) :: rest, key, value =>
      if bound = key then (key, value) :: rest else (bound, old) :: rebind rest key value

/-! ## Lists of bindings -/

theorem mem_keys_rebind {bindings : List (Key × Value)} {key other : Key} {value : Value} :
    other ∈ (rebind bindings key value).map Prod.fst ↔
      other ∈ bindings.map Prod.fst ∨ other = key := by
  induction bindings with
  | nil => simp [rebind]
  | cons binding rest ih =>
      obtain ⟨bound, old⟩ := binding
      by_cases same : bound = key
      · subst same
        simp only [rebind, if_pos, List.map_cons, List.mem_cons]
        constructor
        · exact fun member => Or.inl member
        · rintro (member | rfl)
          · exact member
          · exact Or.inl rfl
      · simp only [rebind, if_neg same, List.map_cons, List.mem_cons, ih, or_assoc]

theorem mem_rebind {bindings : List (Key × Value)} {key : Key} {value : Value}
    {binding : Key × Value} (bound : binding ∈ rebind bindings key value) :
    binding = (key, value) ∨ binding ∈ bindings := by
  induction bindings with
  | nil => exact Or.inl (List.mem_singleton.mp bound)
  | cons first rest ih =>
      rw [rebind] at bound
      split at bound
      · exact (List.mem_cons.mp bound).imp_right (List.mem_cons_of_mem _)
      · rcases List.mem_cons.mp bound with rfl | later
        · exact Or.inr List.mem_cons_self
        · exact (ih later).imp_right (List.mem_cons_of_mem _)

theorem nodup_keys_rebind {bindings : List (Key × Value)} {key : Key} {value : Value}
    (distinct : (bindings.map Prod.fst).Nodup) :
    ((rebind bindings key value).map Prod.fst).Nodup := by
  induction bindings with
  | nil => simp [rebind]
  | cons binding rest ih =>
      obtain ⟨bound, old⟩ := binding
      simp only [List.map_cons, List.nodup_cons] at distinct
      by_cases same : bound = key
      · subst same
        simpa [rebind] using distinct
      · simp only [rebind, if_neg same, List.map_cons, List.nodup_cons, mem_keys_rebind, not_or]
        exact ⟨⟨distinct.1, same⟩, ih distinct.2⟩

theorem find?_rebind (bindings : List (Key × Value)) (key other : Key) (value : Value) :
    find? (rebind bindings key value) other =
      if other = key then some value else find? bindings other := by
  induction bindings with
  | nil =>
      by_cases same : other = key
      · simp [rebind, find?, same]
      · simp [rebind, find?, same, Ne.symm same]
  | cons binding rest ih =>
      obtain ⟨bound, old⟩ := binding
      by_cases same : bound = key
      · subst same
        by_cases hit : other = bound
        · simp [rebind, find?, hit]
        · simp [rebind, find?, hit, Ne.symm hit]
      · by_cases hit : bound = other
        · subst hit
          simp [rebind, find?, same]
        · simp [rebind, find?, same, hit, ih]

theorem find?_eq_none_iff {bindings : List (Key × Value)} {key : Key} :
    find? bindings key = none ↔ key ∉ bindings.map Prod.fst := by
  induction bindings with
  | nil => simp [find?]
  | cons binding rest ih =>
      obtain ⟨bound, old⟩ := binding
      by_cases same : bound = key
      · simp [find?, same]
      · simp only [find?, if_neg same, ih, List.map_cons, List.mem_cons, not_or]
        exact ⟨fun absent => ⟨Ne.symm same, absent⟩, fun absent => absent.2⟩

theorem find?_eq_some_iff {bindings : List (Key × Value)} {key : Key} {value : Value}
    (distinct : (bindings.map Prod.fst).Nodup) :
    find? bindings key = some value ↔ (key, value) ∈ bindings := by
  induction bindings with
  | nil => simp [find?]
  | cons binding rest ih =>
      obtain ⟨bound, old⟩ := binding
      simp only [List.map_cons, List.nodup_cons] at distinct
      by_cases same : bound = key
      · subst same
        simp only [find?, if_pos, Option.some.injEq, List.mem_cons, Prod.mk.injEq, true_and]
        constructor
        · exact fun equal => Or.inl equal.symm
        · rintro (equal | member)
          · exact equal.symm
          · exact absurd (List.mem_map.mpr ⟨_, member, rfl⟩) distinct.1
      · simp only [find?, if_neg same, ih distinct.2, List.mem_cons, Prod.mk.injEq]
        exact ⟨Or.inr, fun member => member.resolve_left fun equal => same equal.1.symm⟩

theorem find?_filter (bindings : List (Key × Value)) (kept : Key → Value → Bool) (key : Key)
    (distinct : (bindings.map Prod.fst).Nodup) :
    find? (bindings.filter fun binding => kept binding.1 binding.2) key =
      (find? bindings key).filter (kept key) := by
  induction bindings with
  | nil => simp [find?]
  | cons binding rest ih =>
      obtain ⟨bound, old⟩ := binding
      simp only [List.map_cons, List.nodup_cons] at distinct
      by_cases same : bound = key
      · subst same
        by_cases keep : kept bound old = true
        · simp [Option.filter, find?, keep]
        · have absent : find? rest bound = none := find?_eq_none_iff.mpr distinct.1
          simp [Option.filter, keep, find?, ih distinct.2, absent]
      · by_cases keep : kept bound old = true
        · simp [keep, find?, same, ih distinct.2]
        · simp [keep, find?, same, ih distinct.2]

theorem find?_mapValues {Image : Type} (bindings : List (Key × Value)) (image : Value → Image)
    (key : Key) :
    find? (bindings.map fun binding => (binding.1, image binding.2)) key =
      (find? bindings key).map image := by
  induction bindings with
  | nil => rfl
  | cons binding rest ih =>
      obtain ⟨bound, old⟩ := binding
      by_cases same : bound = key
      · simp [find?, same]
      · simp [find?, same, ih]

/-! ## Tables -/

/-- Binds a key, replacing the value it had. -/
def put (table : Table Key Value) (key : Key) (value : Value) : Table Key Value where
  bindings := rebind table.bindings key value
  distinct := nodup_keys_rebind table.distinct

/-- Keeps the bindings that pass a test. -/
def filter (table : Table Key Value) (kept : Key → Value → Bool) : Table Key Value where
  bindings := table.bindings.filter fun binding => kept binding.1 binding.2
  distinct := table.distinct.sublist ((List.filter_sublist).map Prod.fst)

/-- Unbinds a key. -/
def erase (table : Table Key Value) (key : Key) : Table Key Value :=
  table.filter fun bound _ => bound ≠ key

/-- Applies a function to every bound value. -/
def mapValues {Image : Type} (table : Table Key Value) (image : Value → Image) :
    Table Key Image where
  bindings := table.bindings.map fun binding => (binding.1, image binding.2)
  distinct := by
    have same : (table.bindings.map fun binding => (binding.1, image binding.2)).map Prod.fst =
        table.bindings.map Prod.fst := by simp [List.map_map, Function.comp_def]
    rw [same]
    exact table.distinct

/-- Unbinds keys one after the other and counts those that were bound, so a
key that is listed twice counts once. -/
def eraseAll (table : Table Key Value) : List Key → Nat × Table Key Value
  | [] => (0, table)
  | key :: rest =>
      let later := (table.erase key).eraseAll rest
      (later.1 + (if table.contains key then 1 else 0), later.2)

instance : Inhabited (Table Key Value) := ⟨empty⟩

@[simp]
theorem get?_empty (key : Key) : (empty : Table Key Value).get? key = none :=
  rfl

@[simp]
theorem get?_put (table : Table Key Value) (key other : Key) (value : Value) :
    (table.put key value).get? other = if other = key then some value else table.get? other :=
  find?_rebind ..

@[simp]
theorem get?_filter (table : Table Key Value) (kept : Key → Value → Bool) (key : Key) :
    (table.filter kept).get? key = (table.get? key).filter (kept key) :=
  find?_filter _ _ _ table.distinct

@[simp]
theorem get?_erase (table : Table Key Value) (key other : Key) :
    (table.erase key).get? other = if other = key then none else table.get? other := by
  rw [erase, get?_filter]
  by_cases same : other = key
  · cases table.get? other <;> simp [same]
  · cases table.get? other <;> simp [same]

@[simp]
theorem get?_mapValues {Image : Type} (table : Table Key Value) (image : Value → Image)
    (key : Key) : (table.mapValues image).get? key = (table.get? key).map image :=
  find?_mapValues ..

theorem get?_eq_some_iff {table : Table Key Value} {key : Key} {value : Value} :
    table.get? key = some value ↔ (key, value) ∈ table.bindings :=
  find?_eq_some_iff table.distinct

theorem get?_eq_none_iff {table : Table Key Value} {key : Key} :
    table.get? key = none ↔ key ∉ table.keys :=
  find?_eq_none_iff

theorem mem_keys_iff {table : Table Key Value} {key : Key} :
    key ∈ table.keys ↔ table.contains key = true := by
  rw [contains, Option.isSome_iff_ne_none, ne_eq, get?_eq_none_iff, Decidable.not_not]

omit [DecidableEq Key] in
theorem isEmpty_iff_size {table : Table Key Value} :
    table.isEmpty = true ↔ table.size = 0 := by
  simp [isEmpty, size]

end Table

end SharedState
