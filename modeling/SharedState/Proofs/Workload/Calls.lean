import SharedState.Proofs.KeyValue.Lapsing
import SharedState.Proofs.Rankings.Standings
import SharedState.Proofs.Tables
import SharedState.Proofs.Workload.Moves
import SharedState.Workload

/-!
# What the actions of a workload do

Most calls of a workload move names: keys of values, fields of one hash,
members of one set or of one ranking. What else is kept, such as values,
deadlines and scores, has no influence on what is counted, as long as no time
passes. Pushes make one list longer, and messages fill one mailbox.
-/

namespace SharedState

open SharedState.Workload

/-- How many of the listed names are there. -/
theorem card_inter_toFinset {names : Finset String} (listed : List String) {there : String → Bool}
    (same : ∀ {name}, name ∈ names ↔ there name = true) :
    (names ∩ listed.toFinset).card = listed.dedup.countP there := by
  have found : names ∩ listed.toFinset = (listed.dedup.filter there).toFinset := by
    ext name
    simp [same, and_comm]
  rw [found, List.toFinset_card_of_nodup (listed.nodup_dedup.filter there),
    List.countP_eq_length_filter]

/-! ## Values -/

namespace KeyValue

/-- Nothing in memory has lapsed, and nothing did before. -/
structure Fresh (store : KeyValue) : Prop where
  discarded : store.discarded = 0
  clean : store.Clean 0

theorem fresh_empty : empty.Fresh where
  discarded := rfl
  clean := clean_empty 0

variable {store : KeyValue} {command : Command} {key : String}

theorem Fresh.apply (fresh : store.Fresh) (command : Command) :
    (store.apply 0 command).2.Fresh where
  discarded := by
    have kept : Event.call command ≠ .clear := nofun
    have books : (step (0, store) (.call command)).2.2.discarded +
        overwritten (0, store) (.call command) =
          store.discarded + lost (0, store) (.call command) :=
      discarded_balanced.balance kept trivial
    have spent := lost_add_lapsed (0, store) (.call command)
    rw [fresh.clean.lapsed_eq_zero] at spent
    rw [fresh.discarded] at books
    change (step (0, store) (.call command)).2.2.discarded = 0
    omega
  clean := fresh.clean.of_sheds (sheds_apply 0 store command)

theorem Fresh.mem_names (fresh : store.Fresh) :
    key ∈ store.entries.names ↔ (store.live? 0 key).isSome = true := by
  rw [fresh.clean.live?_eq, Table.mem_names]

/-- What a call means to the keys under which there is a value. -/
def Command.move? : Command → Option Move
  | .setIfAbsent key _ _ => some (.gather {key})
  | .set key _ _ => some (.keep key)
  | .delete keys => some (.withdraw keys.toFinset)
  | _ => none

theorem Fresh.number_apply (fresh : store.Fresh) {move : Move} (means : command.move? = some move) :
    (store.apply 0 command).1.number = (move.step store.entries.names).1 := by
  cases command with
  | setIfAbsent key value lifetime =>
      cases means
      simp only [KeyValue.apply, setIfAbsent_fst, Move.step_gather_singleton fresh.mem_names,
        Answer.number, Option.not_isSome]
  | set key value lifetime =>
      cases means
      rfl
  | delete keys =>
      cases means
      simp only [KeyValue.apply, removeAll_fst, Move.step, Answer.number]
      exact (card_inter_toFinset keys fun {_} => fresh.mem_names).symm
  | _ => cases means

theorem Fresh.names_apply (fresh : store.Fresh) {move : Move} (means : command.move? = some move) :
    (store.apply 0 command).2.entries.names = (move.step store.entries.names).2 := by
  ext other
  rw [(fresh.apply command).mem_names]
  cases command with
  | setIfAbsent key value lifetime =>
      cases means
      simp only [KeyValue.apply, live?_setIfAbsent, Move.step, Finset.mem_union, fresh.mem_names,
        Finset.mem_singleton]
      by_cases same : other = key <;> simp [same]
  | set key value lifetime =>
      cases means
      simp only [KeyValue.apply, live?_set, Move.step, Finset.mem_insert, fresh.mem_names]
      by_cases same : other = key <;> simp [same]
  | delete keys =>
      cases means
      simp only [KeyValue.apply, live?_removeAll, Move.step, Finset.mem_sdiff, fresh.mem_names,
        List.mem_toFinset]
      by_cases named : other ∈ keys <;> simp [named]
  | _ => cases means

end KeyValue

/-! ## Rankings -/

namespace Ranking

/-- The members of a ranking. -/
def names (ranking : Ranking) : Finset String := (ranking.placings.map Prod.fst).toFinset

variable {ranking : Ranking} {member : String}

theorem mem_names : member ∈ ranking.names ↔ ranking.contains member = true := by
  rw [names, List.mem_toFinset, contains, Option.isSome_iff_ne_none, ne_eq, score?,
    Table.find?_eq_none_iff, Decidable.not_not]

theorem Proper.card_names (proper : ranking.Proper) :
    ranking.names.card = ranking.placings.length := by
  rw [names, List.toFinset_card_of_nodup proper.distinct, List.length_map]

theorem names_place (ranking : Ranking) (member : String) (score : Score) :
    (ranking.place member score).names = insert member ranking.names := by
  have sorted := Sorted.perm_sort notBelow (Table.rebind ranking.placings member score)
  ext other
  rw [names, List.mem_toFinset, place, (sorted.map Prod.fst).mem_iff, Table.mem_keys_rebind,
    Finset.mem_insert, names, List.mem_toFinset, or_comm]

end Ranking

/-! ## Actions on a ground -/

namespace Workload

/-- What an action means to the names in the place that it is about. -/
def Action.move? : Action → Option Move
  | .call (.value command) => command.move?
  | .call (.hash (.put _ field _)) => some (.gather {field})
  | .call (.set (.add _ names)) => some (.gather names.toFinset)
  | .call (.ranking (.place _ _ member)) => some (.gather {member})
  | _ => none

/-- On every ground that holds names, an action gives what its move gives and
leaves a ground that holds the names that its move leaves. -/
def Action.MovesIn (Holds : Finset String → Ground → Prop) (action : Action) : Prop :=
  ∃ move, action.move? = some move ∧ ∀ names ground, Holds names ground →
    (step ground action).1 = (move.step names).1 ∧
      Holds (move.step names).2 (step ground action).2

variable {Holds : Finset String → Ground → Prop} {names : Finset String} {ground : Ground}
  {actions : List Action}

/-- Actions that move names give together what their moves give. -/
theorem run_moves (moving : ∀ action ∈ actions, action.MovesIn Holds) (holds : Holds names ground) :
    (run step ground actions).1 = (run Move.step names (actions.filterMap Action.move?)).1 ∧
      Holds (run Move.step names (actions.filterMap Action.move?)).2
        (run step ground actions).2 := by
  induction actions generalizing names ground with
  | nil => exact ⟨rfl, holds⟩
  | cons first rest ih =>
      obtain ⟨⟨move, means, moves⟩, movingRest⟩ := List.forall_mem_cons.mp moving
      obtain ⟨same, kept⟩ := moves names ground holds
      obtain ⟨sameRest, keptRest⟩ := ih movingRest kept
      rw [List.filterMap_cons_some means, run_cons, run_cons, same, sameRest]
      exact ⟨rfl, keptRest⟩

/-- Outside of lists a call adds the number that it is answered with. -/
theorem step_call_fst (ground : Ground) {call : Call} (other : ∀ command, call ≠ .list command) :
    (step ground (.call call)).1 = (ground.store.apply 0 call).1.number := by
  have added (answer : Answer) : weight (.call call) answer = answer.number := by
    cases call with
    | list command => exact absurd rfl (other command)
    | _ => cases answer <;> rfl
  exact added (ground.store.apply 0 call).1

/-- A ground on which there is nothing but values. -/
def Ground.ofValues (bus : Bus) (values : KeyValue) : Ground := ⟨{ Store.empty with values }, bus⟩

/-- A ground on which there is nothing but hashes. -/
def Ground.ofHashes (bus : Bus) (hashes : Hashes) : Ground := ⟨{ Store.empty with hashes }, bus⟩

/-- A ground on which there is nothing but sets. -/
def Ground.ofSets (bus : Bus) (sets : Sets) : Ground := ⟨{ Store.empty with sets }, bus⟩

/-- A ground on which there is nothing but rankings. -/
def Ground.ofRankings (bus : Bus) (rankings : Rankings) : Ground :=
  ⟨{ Store.empty with rankings }, bus⟩

/-- A ground on which there is nothing but lists. -/
def Ground.ofLists (bus : Bus) (lists : Lists) : Ground := ⟨{ Store.empty with lists }, bus⟩

/-- There is nothing but values under keys. -/
def Keys (bus : Bus) (names : Finset String) (ground : Ground) : Prop :=
  ∃ values : KeyValue, values.Fresh ∧ values.entries.names = names ∧
    ground = .ofValues bus values

/-- There is nothing but the fields of one hash. -/
def Fields (bus : Bus) (key : String) (names : Finset String) (ground : Ground) : Prop :=
  ∃ held : Option (Table String String), (held.getD Table.empty).names = names ∧
    ground = .ofHashes bus ⟨Table.only key held⟩

/-- There is nothing but the members of one set. -/
def Members (bus : Bus) (key : String) (names : Finset String) (ground : Ground) : Prop :=
  ∃ held : Option NameSet, (held.getD Table.empty).names = names ∧
    ground = .ofSets bus ⟨Table.only key held⟩

/-- There is nothing but the members of one ranking. -/
def Ranked (bus : Bus) (key : String) (names : Finset String) (ground : Ground) : Prop :=
  ∃ held : Option Ranking, (held.getD Ranking.empty).Proper ∧
    (held.getD Ranking.empty).names = names ∧
      ground = .ofRankings bus ⟨Table.only key held⟩

theorem movesIn_keys (bus : Bus) {command : KeyValue.Command} (means : command.move?.isSome = true) :
    Action.MovesIn (Keys bus) (.call (.value command)) := by
  obtain ⟨move, means⟩ := Option.isSome_iff_exists.mp means
  refine ⟨move, means, ?_⟩
  rintro _ _ ⟨values, fresh, rfl, rfl⟩
  constructor
  · exact (step_call_fst _ (by simp)).trans (fresh.number_apply means)
  · exact ⟨(values.apply 0 command).2, fresh.apply command, fresh.names_apply means, rfl⟩

theorem movesIn_fields (bus : Bus) (key field value : String) :
    Action.MovesIn (Fields bus key) (.call (.hash (.put key field value))) := by
  refine ⟨.gather {field}, rfl, ?_⟩
  rintro _ _ ⟨held, rfl, rfl⟩
  have present : (⟨Table.only key held⟩ : Hashes).fields key = held.getD Table.empty := by
    rw [Hashes.fields, Table.get?_only]
  have stored : Hashes.put key field value ⟨Table.only key held⟩ =
      (.flag (!(held.getD Table.empty).contains field),
        ⟨Table.only key (some ((held.getD Table.empty).put field value))⟩) := by
    simp only [Hashes.put, present, Table.put_only]
  rw [Move.step_gather_singleton Table.mem_names_iff_contains]
  refine ⟨(step_call_fst _ (by simp)).trans (congrArg (Answer.number ∘ Prod.fst) stored), ?_⟩
  exact ⟨some ((held.getD Table.empty).put field value), Table.names_put _ field value,
    congrArg (Ground.ofHashes bus ∘ Prod.snd) stored⟩

theorem movesIn_members (bus : Bus) (key : String) {added : List String}
    (any : added.isEmpty = false) :
    Action.MovesIn (Members bus key) (.call (.set (.add key added))) := by
  refine ⟨.gather added.toFinset, rfl, ?_⟩
  rintro _ _ ⟨held, rfl, rfl⟩
  have present : (⟨Table.only key held⟩ : Sets).members key = held.getD Table.empty := by
    rw [Sets.members, Table.get?_only]
  have moves := NameSet.insertAll_moves (held.getD Table.empty) added
  have stored : Sets.add key added ⟨Table.only key held⟩ =
      (.count ((held.getD Table.empty).insertAll added).1,
        ⟨Table.only key (some ((held.getD Table.empty).insertAll added).2)⟩) := by
    simp only [Sets.add, any, Bool.false_eq_true, if_false, present, Table.put_only]
  rw [← moves]
  refine ⟨(step_call_fst _ (by simp)).trans (congrArg (Answer.number ∘ Prod.fst) stored), ?_⟩
  exact ⟨some ((held.getD Table.empty).insertAll added).2, rfl,
    congrArg (Ground.ofSets bus ∘ Prod.snd) stored⟩

theorem movesIn_ranked (bus : Bus) (key member : String) {score : Score}
    (number : score.isNaN = false) :
    Action.MovesIn (Ranked bus key) (.call (.ranking (.place key score member))) := by
  refine ⟨.gather {member}, rfl, ?_⟩
  rintro _ _ ⟨held, proper, rfl, rfl⟩
  have present : (⟨Table.only key held⟩ : Rankings).ranking key = held.getD Ranking.empty := by
    rw [Rankings.ranking, Table.get?_only]
  have stored : Rankings.place key score member ⟨Table.only key held⟩ =
      (.flag (!(held.getD Ranking.empty).contains member),
        ⟨Table.only key (some ((held.getD Ranking.empty).place member score))⟩) := by
    simp only [Rankings.place, number, Bool.false_eq_true, if_false, present, Table.put_only]
  rw [Move.step_gather_singleton Ranking.mem_names]
  refine ⟨(step_call_fst _ (by simp)).trans (congrArg (Answer.number ∘ Prod.fst) stored), ?_⟩
  exact ⟨some ((held.getD Ranking.empty).place member score), proper.place member number,
    Ranking.names_place _ member score,
    congrArg (Ground.ofRankings bus ∘ Prod.snd) stored⟩

/-! ## Pushes -/

theorem step_push (bus : Bus) (key first second : String) (held : Option (List String)) :
    step (.ofLists bus ⟨Table.only key held⟩) (.call (.list (.push key [first, second]))) =
      (2, .ofLists bus ⟨Table.only key (some (second :: first :: held.getD []))⟩) := by
  have present : (⟨Table.only key held⟩ : Lists).elements key = held.getD [] := by
    rw [Lists.elements, Table.get?_only]
  have stored : Lists.push key [first, second] ⟨Table.only key held⟩ =
      (.count (held.getD []).length.succ.succ,
        ⟨Table.only key (some (second :: first :: held.getD []))⟩) := by
    simp only [Lists.push, present, Lists.pushAll, Table.put_only, List.length_cons]
    rfl
  exact congrArg (fun next => (2, Ground.ofLists bus next.2)) stored

/-- Pushes of two elements make a list longer by two each. -/
theorem run_push (bus : Bus) {key : String}
    (pushes : ∀ action ∈ actions, ∃ first second, action = .call (.list (.push key [first, second])))
    (held : Option (List String)) :
    ∃ final : Option (List String),
      (run step (.ofLists bus ⟨Table.only key held⟩) actions).2 =
        .ofLists bus ⟨Table.only key final⟩ ∧
      (final.getD []).length = (held.getD []).length + 2 * actions.length ∧
      total (run step (.ofLists bus ⟨Table.only key held⟩) actions).1 = 2 * actions.length := by
  induction actions generalizing held with
  | nil => exact ⟨held, rfl, rfl, rfl⟩
  | cons action rest ih =>
      obtain ⟨⟨first, second, rfl⟩, pushesRest⟩ := List.forall_mem_cons.mp pushes
      obtain ⟨final, reached, long, added⟩ := ih pushesRest (some (second :: first :: held.getD []))
      rw [run_cons, step_push]
      refine ⟨final, reached, ?_, ?_⟩
      · rw [long, Option.getD_some, List.length_cons, List.length_cons, List.length_cons]
        omega
      · rw [total, List.foldr_cons, ← total, added, List.length_cons]
        omega

/-! ## Publications -/

/-- A bus with one subscription, which was there all the time. -/
def listening (capacity : Nat) (messages : List Message) (dropped : Nat) : Bus where
  capacity := max 1 capacity
  nextTicket := 2
  channels := Table.only channel (some [1])
  subscriptions :=
    Table.only 1 (some ⟨[channel], ⟨max 1 capacity, messages, true, .idle⟩, false⟩)
  subscribers := 1
  delivered := messages.length
  dropped := dropped
  running := true

theorem start?_eq {capacity : Nat} (fits : capacity ≤ Bus.greatestCapacity) :
    start? capacity = some ⟨Store.empty, listening capacity [] 0⟩ := by
  have room : ¬ Bus.greatestCapacity < max 1 capacity :=
    Nat.not_lt_of_le (Nat.max_le.mpr ⟨by decide, fits⟩)
  simp only [start?, Bus.subscribe, Bus.create, List.isEmpty_cons, Bool.false_eq_true, if_false,
    room]
  rfl

/-- A message is read later or lost. -/
theorem step_publish (store : Store) (capacity : Nat) (messages : List Message) (dropped : Nat)
    (payload : List UInt8) :
    step ⟨store, listening capacity messages dropped⟩ (.publish ⟨channel, payload⟩) =
      if messages.length < max 1 capacity then
        (1, ⟨store, listening capacity (messages ++ [⟨channel, payload⟩]) dropped⟩)
      else (0, ⟨store, listening capacity messages (dropped + 1)⟩) := by
  have registered : (listening capacity messages dropped).registered channel = [1] := rfl
  have there : (listening capacity messages dropped).subscriptions.get? 1 =
      some ⟨[channel], ⟨max 1 capacity, messages, true, .idle⟩, false⟩ := rfl
  by_cases room : messages.length < max 1 capacity
  · have accepted : ¬ max 1 capacity ≤ messages.length := Nat.not_le_of_lt room
    have delivered : (messages ++ [(⟨channel, payload⟩ : Message)]).length = messages.length + 1 :=
      List.length_append
    simp only [step, Bus.publish, registered, Bus.deliver, there, Mailbox.offer, accepted, room,
      Bool.not_true, Bool.false_eq_true, if_false, if_true]
    simp only [listening, delivered]
    rfl
  · have full : max 1 capacity ≤ messages.length := Nat.le_of_not_lt room
    simp only [step, Bus.publish, registered, Bus.deliver, there, Mailbox.offer, full, room,
      Bool.not_true, Bool.false_eq_true, if_false, if_true]
    rfl

/-- Of all messages as many are delivered as there is room for. -/
theorem run_publish (store : Store) (capacity : Nat)
    (publishes : ∀ action ∈ actions, ∃ payload, action = .publish ⟨channel, payload⟩)
    (messages : List Message) (dropped : Nat) (fits : messages.length ≤ max 1 capacity) :
    ∃ final lost,
      (run step ⟨store, listening capacity messages dropped⟩ actions).2 =
        ⟨store, listening capacity final lost⟩ ∧
      final.length = min (messages.length + actions.length) (max 1 capacity) ∧
      final.length + lost = messages.length + dropped + actions.length ∧
      total (run step ⟨store, listening capacity messages dropped⟩ actions).1 + messages.length =
        final.length := by
  induction actions generalizing messages dropped with
  | nil => exact ⟨messages, dropped, rfl, (Nat.min_eq_left fits).symm, rfl, Nat.zero_add _⟩
  | cons action rest ih =>
      obtain ⟨⟨payload, rfl⟩, publishesRest⟩ := List.forall_mem_cons.mp publishes
      rw [run_cons, step_publish]
      by_cases room : messages.length < max 1 capacity
      · have longer : (messages ++ [(⟨channel, payload⟩ : Message)]).length = messages.length + 1 :=
          List.length_append
        obtain ⟨final, lost, reached, long, all, added⟩ :=
          ih publishesRest (messages ++ [⟨channel, payload⟩]) dropped (longer ▸ room)
        rw [longer] at long all added
        simp only [room, if_true]
        refine ⟨final, lost, reached, ?_, ?_, ?_⟩
        · rw [long, List.length_cons]
          congr 1
          omega
        · rw [all, List.length_cons]
          omega
        · rw [total, List.foldr_cons, ← total]
          omega
      · obtain ⟨final, lost, reached, long, all, added⟩ :=
          ih publishesRest messages (dropped + 1) fits
        simp only [room, if_false]
        refine ⟨final, lost, reached, ?_, ?_, ?_⟩
        · rw [long, List.length_cons]
          omega
        · rw [all, List.length_cons]
          omega
        · rw [total, List.foldr_cons, ← total]
          omega

end Workload

end SharedState
