import Mathlib.Data.Set.Card
import SharedState.Answer
import SharedState.Proofs.Refinement
import SharedState.Table

/-!
# Totals of tables and of runs

What is kept in a table adds up to a total, and so does what the steps of a
run bring and take. The total of a table depends on what is under each key and
on nothing else, so a change under one key changes it by what is there. Where
every step changes a measure of the state by what it brings and takes, a run
changes it by the totals of both.
-/

namespace SharedState

/-- An answer as a number: a count, or one for yes. -/
def Answer.number : Answer → Nat
  | .count number => number
  | .flag holds => holds.toNat
  | _ => 0

/-- Counting is adding up ones. -/
theorem countP_eq_sum {Element : Type} (counts : Element → Bool) (elements : List Element) :
    elements.countP counts = (elements.map fun element => (counts element).toNat).sum := by
  induction elements with
  | nil => rfl
  | cons first rest ih =>
      rw [List.countP_cons, ih, List.map_cons, List.sum_cons, Nat.add_comm]
      cases counts first <;> rfl

/-! ## Tables -/

namespace Table

variable {Key Value : Type}

/-- What the bindings of a table weigh together. -/
def sum (table : Table Key Value) (weight : Key → Value → Nat) : Nat :=
  (table.bindings.map fun binding => weight binding.1 binding.2).sum

/-- How many bindings pass a test. -/
def count (table : Table Key Value) (counts : Key → Value → Bool) : Nat :=
  table.bindings.countP fun binding => counts binding.1 binding.2

theorem size_eq_sum (table : Table Key Value) : table.size = table.sum fun _ _ => 1 := by
  simp [size, sum]

theorem count_eq_sum (table : Table Key Value) (counts : Key → Value → Bool) :
    table.count counts = table.sum fun key value => (counts key value).toNat :=
  countP_eq_sum _ _

theorem sum_add (table : Table Key Value) (left right : Key → Value → Nat) :
    (table.sum fun key value => left key value + right key value) =
      table.sum left + table.sum right :=
  List.sum_map_add

variable [DecidableEq Key]

/-- What is under a key weighs, nothing if nothing is there. -/
def weightAt (table : Table Key Value) (weight : Key → Value → Nat) (key : Key) : Nat :=
  (table.get? key).elim 0 (weight key)

/-- A total is the sum over all keys, among which there may be unbound ones. -/
theorem sum_weightAt {table : Table Key Value} (weight : Key → Value → Nat) (keys : Finset Key)
    (covers : ∀ key ∈ table.keys, key ∈ keys) :
    ∑ key ∈ keys, table.weightAt weight key = table.sum weight := by
  obtain ⟨bindings, distinct⟩ := table
  simp only [weightAt, get?, sum]
  induction bindings with
  | nil => simp [find?]
  | cons binding rest ih =>
      obtain ⟨bound, value⟩ := binding
      obtain ⟨fresh, distinct⟩ := List.nodup_cons.mp distinct
      obtain ⟨here, later⟩ := List.forall_mem_cons.mp covers
      have absent : find? rest bound = none := find?_eq_none_iff.mpr fresh
      have split : ∀ key, (find? ((bound, value) :: rest) key).elim 0 (weight key) =
          (if bound = key then weight bound value else 0) +
            (find? rest key).elim 0 (weight key) := by
        intro key
        by_cases same : bound = key
        · subst same
          simp [find?, absent]
        · simp [find?, same]
      rw [List.map_cons, List.sum_cons, ← ih distinct later, Finset.sum_congr rfl fun key _ =>
        split key, Finset.sum_add_distrib, Finset.sum_ite_eq, if_pos here]

variable {left right : Table Key Value} {leftWeight rightWeight : Key → Value → Nat}

/-- Tables in which every key weighs the same weigh the same. -/
theorem sum_congr
    (same : ∀ key, left.weightAt leftWeight key = right.weightAt rightWeight key) :
    left.sum leftWeight = right.sum rightWeight := by
  let keys : Finset Key := left.keys.toFinset ∪ right.keys.toFinset
  calc left.sum leftWeight
      = ∑ key ∈ keys, left.weightAt leftWeight key :=
        (sum_weightAt leftWeight keys (by simp +contextual [keys])).symm
    _ = ∑ key ∈ keys, right.weightAt rightWeight key := Finset.sum_congr rfl fun key _ => same key
    _ = right.sum rightWeight := sum_weightAt rightWeight keys (by simp +contextual [keys])

/-- Tables that bind the same keys are of one size. -/
theorem size_congr (same : ∀ key, (left.get? key).isSome = (right.get? key).isSome) :
    left.size = right.size := by
  rw [size_eq_sum, size_eq_sum]
  apply sum_congr
  intro key
  have ones : ∀ table : Table Key Value,
      table.weightAt (fun _ _ => 1) key = (table.get? key).isSome.toNat := by
    intro table
    rw [weightAt]
    cases table.get? key <;> rfl
  rw [ones, ones, same]

/-- Tables that differ under one key differ in their totals by what is there. -/
theorem sum_of_others (key : Key) (same : ∀ other ≠ key,
      left.weightAt leftWeight other = right.weightAt rightWeight other) :
    left.sum leftWeight + right.weightAt rightWeight key =
      right.sum rightWeight + left.weightAt leftWeight key := by
  let keys : Finset Key := insert key (left.keys.toFinset ∪ right.keys.toFinset)
  have member : key ∈ keys := Finset.mem_insert_self ..
  have others : ∑ other ∈ keys.erase key, left.weightAt leftWeight other =
      ∑ other ∈ keys.erase key, right.weightAt rightWeight other :=
    Finset.sum_congr rfl fun other inside => same other (Finset.ne_of_mem_erase inside)
  rw [← sum_weightAt leftWeight keys (by simp +contextual [keys]),
    ← sum_weightAt rightWeight keys (by simp +contextual [keys]),
    ← Finset.add_sum_erase keys _ member, ← Finset.add_sum_erase keys _ member, others]
  omega

theorem sum_put (table : Table Key Value) (weight : Key → Value → Nat) (key : Key)
    (value : Value) :
    (table.put key value).sum weight + table.weightAt weight key =
      table.sum weight + weight key value := by
  have others : ∀ other ≠ key,
      (table.put key value).weightAt weight other = table.weightAt weight other := by
    intro other different
    rw [weightAt, get?_put, if_neg different, weightAt]
  have here : (table.put key value).weightAt weight key = weight key value := by
    rw [weightAt, get?_put, if_pos rfl, Option.elim_some]
  rw [sum_of_others key others, here]

theorem sum_erase (table : Table Key Value) (weight : Key → Value → Nat) (key : Key) :
    (table.erase key).sum weight + table.weightAt weight key = table.sum weight := by
  have others : ∀ other ≠ key,
      (table.erase key).weightAt weight other = table.weightAt weight other := by
    intro other different
    rw [weightAt, get?_erase, if_neg different, weightAt]
  have here : (table.erase key).weightAt weight key = 0 := by
    rw [weightAt, get?_erase, if_pos rfl, Option.elim_none]
  rw [sum_of_others key others, here, Nat.add_zero]

theorem sum_filter (table : Table Key Value) (kept : Key → Value → Bool)
    (weight : Key → Value → Nat) :
    (table.filter kept).sum weight =
      table.sum fun key value => if kept key value then weight key value else 0 := by
  apply sum_congr
  intro key
  rw [weightAt, weightAt, get?_filter]
  cases table.get? key with
  | none => rfl
  | some value => cases keeps : kept key value <;> simp [Option.filter, keeps]

/-- How many bindings pass a test is how many keys are bound to what passes it. -/
theorem encard_eq_count (table : Table Key Value) (counts : Key → Value → Bool) :
    {key | ∃ value, table.get? key = some value ∧ counts key value = true}.encard =
      table.count counts := by
  let passing := table.bindings.filter fun binding => counts binding.1 binding.2
  have distinct : (passing.map Prod.fst).Nodup :=
    table.distinct.sublist (List.filter_sublist.map Prod.fst)
  have keys : {key | ∃ value, table.get? key = some value ∧ counts key value = true} =
      ↑(passing.map Prod.fst).toFinset := by
    ext key
    simp [passing, get?_eq_some_iff]
  rw [keys, Set.encard_coe_eq_coe_finsetCard, List.toFinset_card_of_nodup distinct,
    List.length_map, count, List.countP_eq_length_filter]

/-- How many keys are bound. -/
theorem encard_keys (table : Table Key Value) :
    {key | (table.get? key).isSome = true}.encard = table.size := by
  have everything : (table.count fun _ _ => true) = table.size := congrFun List.countP_true _
  rw [← everything, ← encard_eq_count]
  congr 1
  ext key
  simp [Option.isSome_iff_exists]

end Table

/-! ## Runs -/

variable {State Step Result : Type}

/-- What the steps of a run weigh together, each in the state in which it is
taken. -/
def total (step : State → Step → Result × State) (weight : State → Step → Nat) (state : State) :
    List Step → Nat
  | [] => 0
  | first :: rest => weight state first + total step weight (step state first).2 rest

theorem total_append (step : State → Step → Result × State) (weight : State → Step → Nat)
    (state : State) (front back : List Step) :
    total step weight state (front ++ back) =
      total step weight state front + total step weight (run step state front).2 back := by
  induction front generalizing state with
  | nil => simp [total]
  | cons first rest ih => rw [List.cons_append, total, ih, total, run_cons, Nat.add_assoc]

@[simp]
theorem total_zero (step : State → Step → Result × State) (state : State) (events : List Step) :
    total step (fun _ _ => 0) state events = 0 := by
  induction events generalizing state with
  | nil => rfl
  | cons first rest ih => rw [total, ih]

theorem total_add (step : State → Step → Result × State) (left right : State → Step → Nat)
    (state : State) (events : List Step) :
    total step (fun state event => left state event + right state event) state events =
      total step left state events + total step right state events := by
  induction events generalizing state with
  | nil => rfl
  | cons first rest ih =>
      simp only [total, ih]
      omega

/-- What weighs by its result weighs together what the results of the run do. -/
theorem total_eq_sum_map (step : State → Step → Result × State) (weight : Result → Nat)
    (state : State) (events : List Step) :
    total step (fun state event => weight (step state event).1) state events =
      ((run step state events).1.map weight).sum := by
  induction events generalizing state with
  | nil => rfl
  | cons first rest ih => rw [total, ih, run_cons, List.map_cons, List.sum_cons]

/-- A measure of the states of a machine that changes by what a step brings
and takes, as long as the steps are of some kind. The states are those in which
`Holds`, which every such step keeps. -/
structure Balanced (step : State → Step → Result × State) (Kind : Step → Prop)
    (Holds : State → Prop) (measure : State → Nat) (gain loss : State → Step → Nat) : Prop where
  kept : ∀ {state event}, Kind event → Holds state → Holds (step state event).2
  balance : ∀ {state event}, Kind event → Holds state →
    measure (step state event).2 + loss state event = measure state + gain state event

/-- What the steps keep holds after a run. -/
theorem Balanced.run_holds {step : State → Step → Result × State} {Kind : Step → Prop}
    {Holds : State → Prop} {measure : State → Nat} {gain loss : State → Step → Nat}
    (balanced : Balanced step Kind Holds measure gain loss) {state : State} (holds : Holds state)
    {events : List Step} (kinds : ∀ event ∈ events, Kind event) :
    Holds (run step state events).2 :=
  run_invariant_of_forall Holds balanced.kept holds kinds

/-- Over a run a measure changes by all that the steps bring and take. -/
theorem Balanced.run_balance {step : State → Step → Result × State} {Kind : Step → Prop}
    {Holds : State → Prop} {measure : State → Nat} {gain loss : State → Step → Nat}
    (balanced : Balanced step Kind Holds measure gain loss) (state : State) (holds : Holds state)
    {events : List Step} (kinds : ∀ event ∈ events, Kind event) :
    measure (run step state events).2 + total step loss state events =
      measure state + total step gain state events := by
  induction events generalizing state with
  | nil => rfl
  | cons event rest ih =>
      obtain ⟨first, later⟩ := List.forall_mem_cons.mp kinds
      have here := balanced.balance first holds
      have rest := ih _ (balanced.kept first holds) later
      simp only [run_cons, total]
      omega

/-- Weights that depend on what a step means and on what is seen add up to the
total of the specification. -/
theorem Refines.total_eq {Output View Label : Type} {step : State → Step → Result × State}
    {Holds : State → Prop} {view : State → View} {meaning : Step → Option Label}
    {read : Result → Output} {specification : View → Label → Output × View}
    (refines : Refines step Holds view meaning read specification)
    {weight : State → Step → Nat} (viewed : View → Label → Nat)
    (agree : ∀ {state event}, Holds state →
      weight state event = (meaning event).elim 0 (viewed (view state)))
    (state : State) (holds : Holds state) (events : List Step) :
    total step weight state events =
      total specification viewed (view state) (events.filterMap meaning) := by
  induction events generalizing state with
  | nil => rfl
  | cons event rest ih =>
      have later := ih _ (refines.kept holds : Holds (step state event).2)
      rw [total, agree holds, later]
      cases means : meaning event with
      | none =>
          rw [refines.hidden holds means, List.filterMap_cons_none means, Option.elim_none,
            Nat.zero_add]
      | some label =>
          rw [refines.next holds means, List.filterMap_cons_some means, Option.elim_some, total]

end SharedState
