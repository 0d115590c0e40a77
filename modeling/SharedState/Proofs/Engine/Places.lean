import SharedState.Proofs.Engine.Reclaiming
import SharedState.Proofs.Totals

/-!
# Keys that do not interfere

A place is a key in one of the five parts of a store. A call names places, and
what is at any other place it leaves alone; what it answers, and what it leaves
at a place that it names, depends on what is there and not on any other place.
A script can therefore be confined to a place: the calls on other places are
left out, and a deletion of many keys becomes the deletion of one.
-/

namespace SharedState

/-! ## Places -/

/-- The parts of a store. -/
inductive Part where
  | values
  | hashes
  | sets
  | rankings
  | lists
deriving DecidableEq

/-- A key in a part of a store. -/
structure Place where
  part : Part
  key : String
deriving DecidableEq

/-- The keys that a call on values names. -/
def KeyValue.Command.keys : KeyValue.Command → List String
  | .get key => [key]
  | .set key _ _ => [key]
  | .delete keys => keys
  | .contains key => [key]
  | .setIfAbsent key _ _ => [key]
  | .expire key _ => [key]
  | .lifetime key => [key]

/-- The key of a call on hashes. -/
def Hashes.Command.key : Hashes.Command → String
  | .put key _ _ => key
  | .get key _ => key
  | .list key => key
  | .remove key _ => key

/-- The key of a call on sets. -/
def Sets.Command.key : Sets.Command → String
  | .add key _ => key
  | .remove key _ => key
  | .list key => key
  | .contains key _ => key

/-- The key of a call on rankings. -/
def Rankings.Command.key : Rankings.Command → String
  | .place key _ _ => key
  | .members key _ _ => key
  | .placings key _ _ => key
  | .score key _ => key
  | .remove key _ => key

/-- The key of a call on lists. -/
def Lists.Command.key : Lists.Command → String
  | .push key _ => key
  | .range key _ _ => key
  | .trim key _ _ => key
  | .length key => key

/-- The places that a call names. -/
def Call.places : Call → List Place
  | .value command => command.keys.map (⟨.values, ·⟩)
  | .hash command => [⟨.hashes, command.key⟩]
  | .set command => [⟨.sets, command.key⟩]
  | .ranking command => [⟨.rankings, command.key⟩]
  | .list command => [⟨.lists, command.key⟩]

/-- What a call comes to at one of the keys that it names: of a deletion, the
deletion of that key. -/
def Call.only (key : String) : Call → Call
  | .value (.delete _) => .value (.delete [key])
  | call => call

/-- What a call comes to at a place, if it names it. -/
def Call.within (place : Place) (call : Call) : Option Call :=
  if place ∈ call.places then some (call.only place.key) else none

/-- What a step comes to at a place: only calls are about places. -/
def Engine.Event.within (place : Place) : Engine.Event → Option Engine.Event
  | .call asked => (asked.within place).map .call
  | event => some event

/-- The same of a step of the content. -/
def Content.Event.within (place : Place) : Content.Event → Option Content.Event
  | .call asked => (asked.within place).map .call
  | event => some event

/-! ## Tables under keys -/

/-- Calls that act on what is under one key. What is there decides on the answer
and on what is there afterwards, and what is under other keys stays. -/
def Keyed {Kept Command Found : Type} (apply : Kept → Command → Answer × Kept)
    (under : Kept → String → Found) (key : Command → String) : Prop :=
  ∀ command, ∃ (answer : Found → Answer) (next : Found → Found), ∀ kept,
    (apply kept command).1 = answer (under kept (key command)) ∧
      ∀ other, under (apply kept command).2 other =
        if other = key command then next (under kept (key command)) else under kept other

namespace Keyed

variable {Kept Command Found : Type} {apply : Kept → Command → Answer × Kept}
  {under : Kept → String → Found} {key : Command → String}

theorem apart (keyed : Keyed apply under key) (kept : Kept) (command : Command) {other : String}
    (different : other ≠ key command) : under (apply kept command).2 other = under kept other := by
  obtain ⟨answer, next, acts⟩ := keyed command
  exact ((acts kept).2 other).trans (if_neg different)

theorem alike (keyed : Keyed apply under key) {left right : Kept} {command : Command}
    (same : under left (key command) = under right (key command)) :
    (apply left command).1 = (apply right command).1 ∧
      under (apply left command).2 (key command) =
        under (apply right command).2 (key command) := by
  obtain ⟨answer, next, acts⟩ := keyed command
  constructor
  · rw [(acts left).1, (acts right).1, same]
  · rw [(acts left).2, (acts right).2, same]

end Keyed

/-- A call that only reads leaves under its key what it finds there. -/
theorem Table.get?_unchanged {Value : Type} (table : Table String Value) (key other : String) :
    table.get? other = if other = key then id (table.get? key) else table.get? other := by
  split
  · next same => exact congrArg table.get? same
  · rfl

/-- What is left under a key is kept unless nothing is left. -/
theorem Table.get?_replace {Value : Type} (table : Table String Value) (key other : String)
    (nothing : Prop) [Decidable nothing] (value : Value) :
    (if nothing then table.erase key else table.put key value).get? other =
      if other = key then (if nothing then none else some value) else table.get? other := by
  split
  · exact Table.get?_erase ..
  · exact Table.get?_put ..

/-- Where nothing is under a key, there is nothing to remove. -/
theorem Table.get?_of_absent {Value : Type} {table : Table String Value} {key : String}
    (absent : table.get? key = none) (other : String) :
    table.get? other = if other = key then none else table.get? other := by
  split
  · next same => exact same ▸ absent
  · rfl

-- Each call is given by what it makes of what is found under its key, so that a key
-- under which there is nothing is no case of its own until something is removed.

theorem keyed_hashes :
    Keyed Hashes.apply (fun hashes => hashes.tables.get?) Hashes.Command.key := by
  intro command
  cases command with
  | put key field value =>
      exact ⟨fun found => .flag (!(found.getD .empty).contains field),
        fun found => some ((found.getD .empty).put field value),
        fun hashes => ⟨rfl, fun other => Table.get?_put ..⟩⟩
  | get key field =>
      exact ⟨fun found => .ofText? ((found.getD .empty).get? field), id,
        fun hashes => ⟨rfl, hashes.tables.get?_unchanged key⟩⟩
  | list key =>
      exact ⟨fun found => .sortedFields (found.getD .empty).bindings, id,
        fun hashes => ⟨rfl, hashes.tables.get?_unchanged key⟩⟩
  | remove key fields =>
      refine ⟨fun found => .count (found.elim 0 fun table => (table.eraseAll fields).1),
        fun found => found.bind fun table =>
          if (table.eraseAll fields).2.isEmpty then none else some (table.eraseAll fields).2,
        fun hashes => ?_⟩
      simp only [Hashes.apply, Hashes.remove, Hashes.Command.key]
      cases found : hashes.tables.get? key with
      | none => exact ⟨rfl, Table.get?_of_absent found⟩
      | some table => exact ⟨rfl, fun other => Table.get?_replace ..⟩

theorem keyed_sets : Keyed Sets.apply (fun sets => sets.tables.get?) Sets.Command.key := by
  intro command
  cases command with
  | add key names =>
      by_cases nothing : names.isEmpty = true
      · refine ⟨fun _ => .count 0, id, fun sets => ?_⟩
        rw [Sets.apply, Sets.add, if_pos nothing]
        exact ⟨rfl, sets.tables.get?_unchanged key⟩
      · refine ⟨fun found => .count (NameSet.insertAll (found.getD .empty) names).1,
          fun found => some (NameSet.insertAll (found.getD .empty) names).2, fun sets => ?_⟩
        rw [Sets.apply, Sets.add, if_neg nothing]
        exact ⟨rfl, fun other => Table.get?_put ..⟩
  | remove key names =>
      refine ⟨fun found => .count (found.elim 0 fun present => (present.eraseAll names).1),
        fun found => found.bind fun present =>
          if (present.eraseAll names).2.isEmpty then none else some (present.eraseAll names).2,
        fun sets => ?_⟩
      simp only [Sets.apply, Sets.remove, Sets.Command.key]
      cases found : sets.tables.get? key with
      | none => exact ⟨rfl, Table.get?_of_absent found⟩
      | some present => exact ⟨rfl, fun other => Table.get?_replace ..⟩
  | list key =>
      exact ⟨fun found => .sortedMembers (found.getD .empty).keys, id,
        fun sets => ⟨rfl, sets.tables.get?_unchanged key⟩⟩
  | contains key name =>
      exact ⟨fun found => .flag ((found.getD .empty).contains name), id,
        fun sets => ⟨rfl, sets.tables.get?_unchanged key⟩⟩

theorem keyed_rankings :
    Keyed Rankings.apply (fun rankings => rankings.tables.get?) Rankings.Command.key := by
  intro command
  cases command with
  | place key score member =>
      by_cases isNaN : score.isNaN = true
      · refine ⟨fun _ => .flag false, id, fun rankings => ?_⟩
        rw [Rankings.apply, Rankings.place, if_pos isNaN]
        exact ⟨rfl, rankings.tables.get?_unchanged key⟩
      · refine ⟨fun found => .flag (!(found.getD .empty).contains member),
          fun found => some ((found.getD .empty).place member score), fun rankings => ?_⟩
        rw [Rankings.apply, Rankings.place, if_neg isNaN]
        exact ⟨rfl, fun other => Table.get?_put ..⟩
  | members key start stop =>
      exact ⟨fun found => .members
          ((IndexRange.select (found.getD .empty).placings start stop).map Prod.fst), id,
        fun rankings => ⟨rfl, rankings.tables.get?_unchanged key⟩⟩
  | placings key start stop =>
      exact ⟨fun found => .ranking (IndexRange.select (found.getD .empty).placings start stop), id,
        fun rankings => ⟨rfl, rankings.tables.get?_unchanged key⟩⟩
  | score key member =>
      refine ⟨fun found => ((found.getD .empty).score? member).elim .missing .score, id,
        fun rankings => ⟨?_, rankings.tables.get?_unchanged key⟩⟩
      simp only [Rankings.apply, Rankings.score, Rankings.ranking, Rankings.Command.key]
      cases ((rankings.tables.get? key).getD .empty).score? member <;> rfl
  | remove key members =>
      refine ⟨fun found => .count (found.elim 0 fun ranking =>
          ranking.placings.length - (ranking.without members).placings.length),
        fun found => found.bind fun ranking =>
          if (ranking.without members).placings.isEmpty then none
          else some (ranking.without members),
        fun rankings => ?_⟩
      simp only [Rankings.apply, Rankings.remove, Rankings.Command.key]
      cases found : rankings.tables.get? key with
      | none => exact ⟨rfl, Table.get?_of_absent found⟩
      | some ranking => exact ⟨rfl, fun other => Table.get?_replace ..⟩

theorem keyed_lists : Keyed Lists.apply (fun lists => lists.tables.get?) Lists.Command.key := by
  intro command
  cases command with
  | push key values =>
      by_cases nothing : values.isEmpty = true
      · refine ⟨fun found => .count (found.getD []).length, id, fun lists => ?_⟩
        rw [Lists.apply, Lists.push, if_pos nothing]
        exact ⟨rfl, lists.tables.get?_unchanged key⟩
      · refine ⟨fun found => .count (Lists.pushAll (found.getD []) values).length,
          fun found => some (Lists.pushAll (found.getD []) values), fun lists => ?_⟩
        rw [Lists.apply, Lists.push, if_neg nothing]
        exact ⟨rfl, fun other => Table.get?_put ..⟩
  | range key start stop =>
      exact ⟨fun found => .members (IndexRange.select (found.getD []) start stop), id,
        fun lists => ⟨rfl, lists.tables.get?_unchanged key⟩⟩
  | trim key start stop =>
      refine ⟨fun _ => .done, fun found => found.bind fun elements =>
          (IndexRange.resolve? elements.length start stop).map fun range => range.cut elements,
        fun lists => ?_⟩
      simp only [Lists.apply, Lists.trim, Lists.Command.key]
      cases found : lists.tables.get? key with
      | none => exact ⟨rfl, Table.get?_of_absent found⟩
      | some elements =>
          cases kept : IndexRange.resolve? elements.length start stop with
          | none =>
              simp only [kept, Option.bind_some, Option.map_none, true_and]
              exact Table.get?_erase lists.tables key
          | some range =>
              simp only [kept, Option.bind_some, Option.map_some, true_and]
              exact fun other => Table.get?_put ..
  | length key =>
      exact ⟨fun found => .count (found.getD []).length, id,
        fun lists => ⟨rfl, lists.tables.get?_unchanged key⟩⟩

/-! ## Values -/

namespace Vanishing

variable {key : String} {left right map : Vanishing} {command : KeyValue.Command}

@[simp]
theorem now_apply (map : Vanishing) (command : KeyValue.Command) :
    (map.apply command).2.now = map.now := by
  cases command with
  | setIfAbsent key value lifetime =>
      rw [apply]
      split <;> rfl
  | expire key lifetime =>
      rw [apply]
      cases map.held key <;> rfl
  | lifetime key =>
      rw [apply]
      cases map.held key <;> rfl
  | _ => rfl

/-- A call leaves alone what is held under the keys that it does not name. -/
theorem held_apply_of_notMem (apart : key ∉ command.keys) :
    (map.apply command).2.held key = map.held key := by
  cases command with
  | get other => rfl
  | set other value lifetime => exact if_neg (mt List.mem_singleton.mpr apart)
  | delete keys => exact if_neg apart
  | contains other => rfl
  | setIfAbsent other value lifetime =>
      rw [apply]
      split
      · rfl
      · exact if_neg (mt List.mem_singleton.mpr apart)
  | expire other lifetime =>
      rw [apply]
      cases map.held other with
      | none => rfl
      | some entry => exact if_neg (mt List.mem_singleton.mpr apart)
  | lifetime other =>
      rw [apply]
      cases map.held other <;> rfl

/-- What is held under the one key that a call names decides on its answer and on
what is held there afterwards. -/
theorem apply_alike (named : command.keys = [key]) (now : left.now = right.now)
    (held : left.held key = right.held key) :
    (left.apply command).1 = (right.apply command).1 ∧
      (left.apply command).2.held key = (right.apply command).2.held key := by
  have contained : left.contains key = right.contains key := congrArg Option.isSome held
  cases command with
  | get other =>
      obtain rfl : other = key := List.singleton_injective named
      simp only [apply, held, and_self]
  | set other value lifetime =>
      obtain rfl : other = key := List.singleton_injective named
      simp only [apply, put, now, if_pos, and_self]
  | delete keys =>
      obtain rfl : keys = [key] := named
      simp [apply, contained]
  | contains other =>
      obtain rfl : other = key := List.singleton_injective named
      simp only [apply, contained, held, and_self]
  | setIfAbsent other value lifetime =>
      obtain rfl : other = key := List.singleton_injective named
      simp only [apply, contained]
      split
      · exact ⟨rfl, held⟩
      · simp only [put, now, if_pos, and_self]
  | expire other lifetime =>
      obtain rfl : other = key := List.singleton_injective named
      simp only [apply, held]
      cases right.held other with
      | none => exact ⟨rfl, held⟩
      | some entry => simp only [put, now, if_pos, and_self]
  | lifetime other =>
      obtain rfl : other = key := List.singleton_injective named
      simp only [apply, held, now]
      cases right.held other <;> exact ⟨rfl, held⟩

end Vanishing

/-! ## What is at a place -/

/-- What is at a place, if anything is. -/
inductive Cell where
  | value (entry : Option Entry)
  | hash (fields : Option (Table String String))
  | set (members : Option NameSet)
  | ranking (ranking : Option Ranking)
  | list (elements : Option (List String))

theorem Call.delete_or_only (call : Call) :
    (∃ keys, call = .value (.delete keys)) ∨
      ∃ place, call.places = [place] ∧ call.only place.key = call := by
  cases call with
  | value command =>
      cases command with
      | delete keys => exact Or.inl ⟨keys, rfl⟩
      | _ => exact Or.inr ⟨_, rfl, rfl⟩
  | _ => exact Or.inr ⟨_, rfl, rfl⟩

namespace Content

variable {content left right : Content} {place : Place} {call : Call}

/-- What the content has at a place. -/
def cell (content : Content) (place : Place) : Cell :=
  match place.part with
  | .values => .value (content.values.held place.key)
  | .hashes => .hash (content.hashes.tables.get? place.key)
  | .sets => .set (content.sets.tables.get? place.key)
  | .rankings => .ranking (content.rankings.tables.get? place.key)
  | .lists => .list (content.lists.tables.get? place.key)

/-- What can be told of the content from one place: the time, and what is there. -/
def seen (place : Place) (content : Content) : Instant × Cell :=
  (content.values.now, content.cell place)

/-- A call changes nothing at a place that it does not name. -/
theorem seen_apply_of_notMem (apart : place ∉ call.places) :
    (content.apply call).2.seen place = content.seen place := by
  obtain ⟨part, key⟩ := place
  cases call with
  | value command =>
      have now := content.values.now_apply command
      cases part with
      | values =>
          have unnamed : key ∉ command.keys := fun member => apart (List.mem_map_of_mem member)
          exact Prod.ext now (congrArg Cell.value (Vanishing.held_apply_of_notMem unnamed))
      | _ => exact Prod.ext now rfl
  | hash command =>
      cases part with
      | hashes =>
          have different : key ≠ command.key := fun same =>
            apart (List.mem_singleton.mpr (congrArg (Place.mk .hashes) same))
          exact Prod.ext rfl (congrArg Cell.hash (keyed_hashes.apart _ command different))
      | _ => rfl
  | set command =>
      cases part with
      | sets =>
          have different : key ≠ command.key := fun same =>
            apart (List.mem_singleton.mpr (congrArg (Place.mk .sets) same))
          exact Prod.ext rfl (congrArg Cell.set (keyed_sets.apart _ command different))
      | _ => rfl
  | ranking command =>
      cases part with
      | rankings =>
          have different : key ≠ command.key := fun same =>
            apart (List.mem_singleton.mpr (congrArg (Place.mk .rankings) same))
          exact Prod.ext rfl (congrArg Cell.ranking (keyed_rankings.apart _ command different))
      | _ => rfl
  | list command =>
      cases part with
      | lists =>
          have different : key ≠ command.key := fun same =>
            apart (List.mem_singleton.mpr (congrArg (Place.mk .lists) same))
          exact Prod.ext rfl (congrArg Cell.list (keyed_lists.apart _ command different))
      | _ => rfl

/-- What is seen from the one place that a call names decides on its answer and on
what is seen from there afterwards. -/
theorem apply_alike (named : call.places = [place]) (same : left.seen place = right.seen place) :
    (left.apply call).1 = (right.apply call).1 ∧
      (left.apply call).2.seen place = (right.apply call).2.seen place := by
  obtain ⟨now, there⟩ := Prod.mk.inj same
  cases call with
  | value command =>
      obtain ⟨key, keys, rfl⟩ := List.map_eq_singleton_iff.mp named
      obtain ⟨answer, held⟩ := Vanishing.apply_alike keys now (Cell.value.inj there)
      refine ⟨answer, Prod.ext ?_ (congrArg Cell.value held)⟩
      exact (Vanishing.now_apply ..).trans (now.trans (Vanishing.now_apply ..).symm)
  | hash command =>
      obtain rfl : _ = place := List.singleton_injective named
      obtain ⟨answer, left⟩ := keyed_hashes.alike (Cell.hash.inj there)
      exact ⟨answer, Prod.ext now (congrArg Cell.hash left)⟩
  | set command =>
      obtain rfl : _ = place := List.singleton_injective named
      obtain ⟨answer, left⟩ := keyed_sets.alike (Cell.set.inj there)
      exact ⟨answer, Prod.ext now (congrArg Cell.set left)⟩
  | ranking command =>
      obtain rfl : _ = place := List.singleton_injective named
      obtain ⟨answer, left⟩ := keyed_rankings.alike (Cell.ranking.inj there)
      exact ⟨answer, Prod.ext now (congrArg Cell.ranking left)⟩
  | list command =>
      obtain rfl : _ = place := List.singleton_injective named
      obtain ⟨answer, left⟩ := keyed_lists.alike (Cell.list.inj there)
      exact ⟨answer, Prod.ext now (congrArg Cell.list left)⟩

/-- What a call leaves at a place that it names is what it leaves there when it is
confined to it. -/
theorem seen_apply_only (named : place ∈ call.places)
    (same : left.seen place = right.seen place) :
    (left.apply call).2.seen place = (right.apply (call.only place.key)).2.seen place := by
  rcases call.delete_or_only with ⟨keys, rfl⟩ | ⟨other, places, only⟩
  · obtain ⟨key, member, rfl⟩ := List.mem_map.mp named
    have listed : key ∈ keys := member
    have taken : (if key ∈ keys then none else left.values.held key) =
        if key ∈ [key] then none else right.values.held key := by
      rw [if_pos listed, if_pos (List.mem_singleton_self key)]
    exact Prod.ext (Prod.mk.inj same).1 (congrArg Cell.value taken)
  · rw [places, List.mem_singleton] at named
    subst named
    rw [only]
    exact (apply_alike places same).2

theorem seen_advance (same : left.seen place = right.seen place) (duration : Duration) :
    (left.step (.advance duration)).2.seen place =
      (right.step (.advance duration)).2.seen place := by
  obtain ⟨part, key⟩ := place
  obtain ⟨now, there⟩ := Prod.mk.inj same
  cases part with
  | values =>
      have held : (left.values.advance duration).held key =
          (right.values.advance duration).held key := by
        simp only [Vanishing.advance, now, Cell.value.inj there]
      exact Prod.ext (congrArg (· + duration) now) (congrArg Cell.value held)
  | _ => exact Prod.ext (congrArg (· + duration) now) there

theorem seen_flush (same : left.seen place = right.seen place) :
    left.flush.seen place = right.flush.seen place := by
  obtain ⟨part, key⟩ := place
  cases part <;> exact Prod.ext (Prod.mk.inj same).1 rfl

/-- A step that comes to nothing at a place changes nothing there. -/
theorem seen_step_of_none {event : Event} (outside : event.within place = none) :
    (content.step event).2.seen place = content.seen place := by
  cases event with
  | call asked =>
      refine seen_apply_of_notMem fun named => ?_
      simp [Event.within, Call.within, named] at outside
  | flush => cases outside
  | advance duration => cases outside

/-- Any other leaves there what it comes to. -/
theorem seen_step_of_some {event confined : Event} (inside : event.within place = some confined)
    (same : left.seen place = right.seen place) :
    (left.step event).2.seen place = (right.step confined).2.seen place := by
  cases event with
  | call asked =>
      by_cases named : place ∈ asked.places
      · simp only [Event.within, Call.within, if_pos named, Option.map_some,
          Option.some.injEq] at inside
        subst inside
        exact seen_apply_only named same
      · simp [Event.within, Call.within, named] at inside
  | flush =>
      cases inside
      exact seen_flush same
  | advance duration =>
      cases inside
      exact seen_advance same duration

/-- What is seen from a place after a run is what is seen after its steps were
confined to the place. -/
theorem seen_run (same : left.seen place = right.seen place) (events : List Event) :
    (run step left events).2.seen place =
      (run step right (events.filterMap (Event.within place))).2.seen place := by
  induction events generalizing left right with
  | nil => exact same
  | cons event rest ih =>
      cases comes : event.within place with
      | none =>
          rw [List.filterMap_cons_none comes]
          exact ih ((seen_step_of_none comes).trans same)
      | some confined =>
          rw [List.filterMap_cons_some comes]
          exact ih (seen_step_of_some comes same)

end Content

namespace Engine

/-- What a call is answered after a script, by an engine under some regime. -/
def answer (regime : Option Duration) (script : List Event) (call : Call) : Answer :=
  (step (run step (under regime) script).2 (.call call)).1

/-- A script that does to a place what another one does, and nothing to any other
place. Memory may be swept at other times. -/
def Confines (place : Place) (script alone : List Event) : Prop :=
  alone.filterMap Event.data? = (script.filterMap (Event.within place)).filterMap Event.data?

instance (place : Place) (script alone : List Event) : Decidable (Confines place script alone) :=
  inferInstanceAs (Decidable (_ = _))

/-- Such a script is left when all calls are confined to the place. -/
theorem confines_within (place : Place) (script : List Event) :
    Confines place script (script.filterMap (Event.within place)) :=
  rfl

theorem data?_within (place : Place) (event : Event) :
    (event.within place).bind Event.data? = event.data?.bind (Content.Event.within place) := by
  cases event with
  | call asked =>
      by_cases named : place ∈ asked.places <;>
        simp [Event.within, Content.Event.within, Call.within, Event.data?, named]
  | _ => rfl

theorem filterMap_data?_within (place : Place) (script : List Event) :
    (script.filterMap (Event.within place)).filterMap Event.data? =
      (script.filterMap Event.data?).filterMap (Content.Event.within place) := by
  simp only [List.filterMap_filterMap, data?_within]

/-- A call is answered by the content that its data calls left. -/
theorem answer_eq (regime : Option Duration) (script : List Event) (call : Call) :
    answer regime script call =
      ((run Content.step create.content (script.filterMap Event.data?)).2.apply call).1 := by
  have start : (under regime).content = create.content := content_under regime none
  have reached : (run step (under regime) script).2.content = _ :=
    refines_content.view_run trivial script
  have means : Event.data? (.call call) = some (.call call) := rfl
  rw [answer, ← start, ← reached]
  exact refines_content.result trivial means

/-- What is seen from a place does not tell a script from what it does there. -/
theorem Confines.seen_eq {place : Place} {script alone : List Event}
    (confines : Confines place script alone) :
    (run Content.step create.content (script.filterMap Event.data?)).2.seen place =
      (run Content.step create.content (alone.filterMap Event.data?)).2.seen place := by
  rw [confines, filterMap_data?_within]
  exact Content.seen_run rfl _

theorem answer_delete (regime : Option Duration) (script : List Event) (keys : List String) :
    answer regime script (.value (.delete keys)) =
      .count (keys.dedup.countP
        (run Content.step create.content (script.filterMap Event.data?)).2.values.contains) :=
  answer_eq ..

/-- Deleting keys comes to deleting each of them by itself where nothing else is
done. -/
theorem answer_delete_eq_sum {second : Option Duration} {script : List Event}
    {keys : List String} {alone : String → List Event}
    (confines : ∀ key ∈ keys, Confines ⟨.values, key⟩ script (alone key))
    (first : Option Duration) :
    answer first script (.value (.delete keys)) =
      .count ((keys.dedup.map fun key =>
        (answer second (alone key) (.value (.delete [key]))).number).sum) := by
  let reached := (run Content.step create.content (script.filterMap Event.data?)).2
  have each : ∀ key ∈ keys.dedup,
      (answer second (alone key) (.value (.delete [key]))).number =
        (reached.values.contains key).toNat := by
    intro key member
    have seen := (confines key (List.mem_dedup.mp member)).seen_eq
    have held := Cell.value.inj (Prod.mk.inj seen).2
    have contained : reached.values.contains key = _ := congrArg Option.isSome held
    have single : [key].dedup = [key] := (List.nodup_singleton key).dedup
    rw [answer_delete, contained, single, countP_eq_sum]
    exact Nat.add_zero _
  rw [answer_delete, countP_eq_sum, List.map_congr_left each]

/-- No place interferes with another. Wherever a script leads, a call that names
one place is answered as after a script that does the same to this place and
nothing to any other; and a deletion counts, for each of the distinct keys that
it names, what the deletion of this key is answered after such a script. It does
not matter when memory is swept. -/
theorem places_independent (first second : Option Duration) (script : List Event) :
    (∀ place call alone, call.places = [place] → Confines place script alone →
        answer first script call = answer second alone call) ∧
      ∀ (keys : List String) (alone : String → List Event),
        (∀ key ∈ keys, Confines ⟨.values, key⟩ script (alone key)) →
          answer first script (.value (.delete keys)) =
            .count ((keys.dedup.map fun key =>
              (answer second (alone key) (.value (.delete [key]))).number).sum) := by
  constructor
  · intro place call alone named confines
    rw [answer_eq, answer_eq]
    exact (Content.apply_alike named confines.seen_eq).1
  · intro keys alone confines
    exact answer_delete_eq_sum confines first

/-- A deletion of two keys, one of them named twice and the other lapsed, in a
script that uses the same key in two parts. -/
theorem places_independent_shared :
    let script : List Event :=
      [.call (.value (.set "a" "v" 0)), .call (.hash (.put "a" "f" "w")),
        .call (.value (.set "b" "v" 5)), .advance 9, .call (.value (.delete ["b", "c"])),
        .call (.list (.push "a" ["x"]))]
    let alone : List Event :=
      [.sweep, .call (.hash (.put "a" "f" "w")), .advance 9]
    let apart : String → List Event := fun key =>
      script.filterMap (Event.within ⟨.values, key⟩)
    (Call.hash (.get "a" "f")).places = [⟨.hashes, "a"⟩] ∧ Confines ⟨.hashes, "a"⟩ script alone ∧
      answer none script (.hash (.get "a" "f")) = .text "w" ∧
      answer (some 7) alone (.hash (.get "a" "f")) = .text "w" ∧
      answer none script (.value (.delete ["a", "b", "a"])) = .count 1 ∧
      (((["a", "b", "a"] : List String).dedup.map fun key =>
        (answer (some 7) (apart key) (.value (.delete [key]))).number).sum) = 1 := by
  intro script alone apart
  have confines : Confines ⟨.hashes, "a"⟩ script alone := by decide
  have text : answer none script (.hash (.get "a" "f")) = .text "w" := by decide
  have one : answer none script (.value (.delete ["a", "b", "a"])) = .count 1 := by decide
  obtain ⟨calls, deletions⟩ := places_independent none (some 7) script
  have summed := deletions ["a", "b", "a"] apart fun key _ => confines_within ⟨.values, key⟩ script
  rw [one] at summed
  exact ⟨rfl, confines, text, (calls _ _ _ rfl confines).symm.trans text, one,
    (Answer.count.inj summed).symm⟩

end Engine

end SharedState
