import SharedState.Proofs.Engine.Places

/-!
# Contents that look alike

Two contents look alike if nothing can be told of one from any place that cannot
be told of the other. They answer every call alike and still look alike
afterwards. A place at which there is nothing is as if it had never been named,
whatever was done there before: a script leaves what looks alike when the calls
on that place are taken out of it.
-/

namespace SharedState

/-- Whether a call on values puts something under its key. -/
def KeyValue.Command.fills : KeyValue.Command → Bool
  | .set .. => true
  | .setIfAbsent .. => true
  | _ => false

/-- Whether a call on hashes does. -/
def Hashes.Command.fills : Hashes.Command → Bool
  | .put .. => true
  | _ => false

/-- Whether a call on sets does: not if it names no member. -/
def Sets.Command.fills : Sets.Command → Bool
  | .add _ names => !names.isEmpty
  | _ => false

/-- Whether a call on rankings does: not if the score is no number. -/
def Rankings.Command.fills : Rankings.Command → Bool
  | .place _ given _ => !given.isNaN
  | _ => false

/-- Whether a call on lists does: not if it has no elements. -/
def Lists.Command.fills : Lists.Command → Bool
  | .push _ values => !values.isEmpty
  | _ => false

/-- Whether a call puts something at the place that it names. -/
def Call.fills : Call → Bool
  | .value command => command.fills
  | .hash command => command.fills
  | .set command => command.fills
  | .ranking command => command.fills
  | .list command => command.fills

/-- What is at a place of some part when nothing is. -/
def Cell.nothing : Part → Cell
  | .values => .value none
  | .hashes => .hash none
  | .sets => .set none
  | .rankings => .ranking none
  | .lists => .list none

/-- Whether nothing is at a place. -/
def Cell.isVacant : Cell → Bool
  | .value found => found.isNone
  | .hash found => found.isNone
  | .set found => found.isNone
  | .ranking found => found.isNone
  | .list found => found.isNone

namespace Content

/-- Whether nothing is at a place of the content. -/
def isVacant (content : Content) (place : Place) : Bool := (content.cell place).isVacant

theorem cell_of_isVacant {content : Content} {place : Place}
    (vacant : content.isVacant place = true) : content.cell place = Cell.nothing place.part := by
  obtain ⟨part, key⟩ := place
  cases part with
  | values => exact congrArg Cell.value (Option.isNone_iff_eq_none.mp vacant)
  | hashes => exact congrArg Cell.hash (Option.isNone_iff_eq_none.mp vacant)
  | sets => exact congrArg Cell.set (Option.isNone_iff_eq_none.mp vacant)
  | rankings => exact congrArg Cell.ranking (Option.isNone_iff_eq_none.mp vacant)
  | lists => exact congrArg Cell.list (Option.isNone_iff_eq_none.mp vacant)

end Content

/-! ## Where nothing is, only some calls put something -/

theorem Vanishing.apply_of_free {map : Vanishing} {key : String} {command : KeyValue.Command}
    (named : key ∈ command.keys) (free : map.held key = none) (idle : command.fills = false) :
    (map.apply command).2.held key = none := by
  cases command with
  | get other => exact free
  | contains other => exact free
  | delete keys => exact if_pos named
  | set other value lifetime => cases idle
  | setIfAbsent other value lifetime => cases idle
  | expire other lifetime =>
      obtain rfl : key = other := List.mem_singleton.mp named
      simp [apply, free]
  | lifetime other =>
      rw [apply]
      cases map.held other <;> exact free

theorem Hashes.apply_of_absent {hashes : Hashes} {command : Hashes.Command}
    (absent : hashes.tables.get? command.key = none) (idle : command.fills = false) :
    (hashes.apply command).2 = hashes := by
  cases command with
  | put key field value => cases idle
  | get key field => rfl
  | list key => rfl
  | remove key fields =>
      rw [Command.key] at absent
      rw [apply, remove, absent]

theorem Sets.apply_of_absent {sets : Sets} {command : Sets.Command}
    (absent : sets.tables.get? command.key = none) (idle : command.fills = false) :
    (sets.apply command).2 = sets := by
  cases command with
  | add key names =>
      have nothing : names.isEmpty = true := by simpa [Command.fills] using idle
      rw [apply, add, if_pos nothing]
  | remove key names =>
      rw [Command.key] at absent
      rw [apply, remove, absent]
  | list key => rfl
  | contains key name => rfl

theorem Rankings.apply_of_absent {rankings : Rankings} {command : Rankings.Command}
    (absent : rankings.tables.get? command.key = none) (idle : command.fills = false) :
    (rankings.apply command).2 = rankings := by
  cases command with
  | place key score member =>
      have isNaN : score.isNaN = true := by simpa [Command.fills] using idle
      rw [apply, place, if_pos isNaN]
  | members key start stop => rfl
  | placings key start stop => rfl
  | score key member => rfl
  | remove key members =>
      rw [Command.key] at absent
      rw [apply, remove, absent]

theorem Lists.apply_of_absent {lists : Lists} {command : Lists.Command}
    (absent : lists.tables.get? command.key = none) (idle : command.fills = false) :
    (lists.apply command).2 = lists := by
  cases command with
  | push key values =>
      have nothing : values.isEmpty = true := by simpa [Command.fills] using idle
      rw [apply, push, if_pos nothing]
  | range key start stop => rfl
  | trim key start stop =>
      rw [Command.key] at absent
      rw [apply, trim, absent]
  | length key => rfl

namespace Content

variable {content left right : Content} {place : Place} {call : Call} {event : Event}

theorem isVacant_of_seen (same : left.seen place = right.seen place) :
    left.isVacant place = right.isVacant place :=
  congrArg Cell.isVacant (Prod.mk.inj same).2

/-- Where nothing is, a call that puts nothing there leaves nothing. -/
theorem isVacant_apply (idle : place ∈ call.places → call.fills = false)
    (vacant : content.isVacant place = true) : (content.apply call).2.isVacant place = true := by
  by_cases named : place ∈ call.places
  · replace idle := idle named
    cases call with
    | value command =>
        obtain ⟨key, member, rfl⟩ := List.mem_map.mp named
        exact Option.isNone_iff_eq_none.mpr
          (Vanishing.apply_of_free member (Option.isNone_iff_eq_none.mp vacant) idle)
    | hash command =>
        obtain rfl := List.mem_singleton.mp named
        have absent : content.hashes.tables.get? command.key = none :=
          Option.isNone_iff_eq_none.mp vacant
        simpa only [apply, Hashes.apply_of_absent absent idle] using vacant
    | set command =>
        obtain rfl := List.mem_singleton.mp named
        have absent : content.sets.tables.get? command.key = none :=
          Option.isNone_iff_eq_none.mp vacant
        simpa only [apply, Sets.apply_of_absent absent idle] using vacant
    | ranking command =>
        obtain rfl := List.mem_singleton.mp named
        have absent : content.rankings.tables.get? command.key = none :=
          Option.isNone_iff_eq_none.mp vacant
        simpa only [apply, Rankings.apply_of_absent absent idle] using vacant
    | list command =>
        obtain rfl := List.mem_singleton.mp named
        have absent : content.lists.tables.get? command.key = none :=
          Option.isNone_iff_eq_none.mp vacant
        simpa only [apply, Lists.apply_of_absent absent idle] using vacant
  · rw [isVacant_of_seen (seen_apply_of_notMem named), vacant]

/-- Where nothing is, a step puts something only by a call. -/
theorem isVacant_step
    (idle : ∀ call, event = .call call → place ∈ call.places → call.fills = false)
    (vacant : content.isVacant place = true) : (content.step event).2.isVacant place = true := by
  cases event with
  | call call => exact isVacant_apply (idle call rfl) vacant
  | flush =>
      obtain ⟨part, key⟩ := place
      cases part <;> rfl
  | advance duration =>
      obtain ⟨part, key⟩ := place
      cases part with
      | values =>
          have free : content.values.held key = none := Option.isNone_iff_eq_none.mp vacant
          apply Option.isNone_iff_eq_none.mpr
          simp [step, Vanishing.advance, free]
      | _ => exact vacant

/-! ## What looks alike from every place -/

/-- Nothing can be told of one content that cannot be told of another. -/
def Alike (left right : Content) : Prop := ∀ place, left.seen place = right.seen place

theorem Alike.apply_fst (alike : Alike left right) (call : Call) :
    (left.apply call).1 = (right.apply call).1 := by
  rcases call.delete_or_only with ⟨keys, rfl⟩ | ⟨place, named, -⟩
  · have contained : left.values.contains = right.values.contains := by
      funext key
      exact congrArg Option.isSome (Cell.value.inj (Prod.mk.inj (alike ⟨.values, key⟩)).2)
    simp only [apply, Vanishing.apply, contained]
  · exact (apply_alike named (alike place)).1

theorem seen_step_congr (same : left.seen place = right.seen place) (event : Event) :
    (left.step event).2.seen place = (right.step event).2.seen place := by
  cases comes : event.within place with
  | none => rw [seen_step_of_none comes, seen_step_of_none comes, same]
  | some confined => rw [seen_step_of_some comes same, seen_step_of_some comes rfl]

theorem Alike.step_fst (alike : Alike left right) (event : Event) :
    (left.step event).1 = (right.step event).1 := by
  cases event with
  | call call => exact alike.apply_fst call
  | flush => rfl
  | advance duration => rfl

/-- Runs from what looks alike give the same results and end in what looks
alike. -/
theorem Alike.run (alike : Alike left right) (events : List Event) :
    (SharedState.run step left events).1 = (SharedState.run step right events).1 ∧
      Alike (SharedState.run step left events).2 (SharedState.run step right events).2 := by
  induction events generalizing left right with
  | nil => exact ⟨rfl, alike⟩
  | cons event rest ih =>
      have next : Alike (left.step event).2 (right.step event).2 :=
        fun place => seen_step_congr (alike place) event
      obtain ⟨results, ends⟩ := ih next
      exact ⟨congrArg₂ List.cons (alike.step_fst event) results, ends⟩

/-- Whether a step is no call on a place. -/
def Event.spares (place : Place) : Event → Bool
  | .call asked => place ∉ asked.places
  | _ => true

theorem seen_step_of_not_spares {other : Place} (container : place.part ≠ .values)
    (different : other ≠ place) (named : event.spares place = false) :
    (content.step event).2.seen other = content.seen other := by
  cases event with
  | call asked =>
      have member : place ∈ asked.places := by simpa [Event.spares] using named
      rcases asked.delete_or_only with ⟨keys, rfl⟩ | ⟨only, places, -⟩
      · obtain ⟨key, -, rfl⟩ := List.mem_map.mp member
        exact absurd rfl container
      · obtain rfl : place = only := by simpa [places] using member
        exact seen_apply_of_notMem (by simpa [places] using different)
  | flush => cases named
  | advance duration => cases named

/-- The calls on a container are not seen from any other place. -/
theorem seen_run_of_spares {other : Place} (container : place.part ≠ .values)
    (different : other ≠ place) (same : left.seen other = right.seen other)
    (events : List Event) :
    (SharedState.run step left events).2.seen other =
      (SharedState.run step right (events.filter (Event.spares place))).2.seen other := by
  induction events generalizing left right with
  | nil => exact same
  | cons event rest ih =>
      cases spared : event.spares place with
      | true =>
          rw [List.filter_cons_of_pos spared]
          exact ih (seen_step_congr same event)
      | false =>
          rw [List.filter_cons_of_neg (by simp [spared])]
          exact ih ((seen_step_of_not_spares container different spared).trans same)

/-- Without a call on it, nothing comes to be at a place. -/
theorem isVacant_run_of_spares (vacant : content.isVacant place = true) (events : List Event) :
    (SharedState.run step content (events.filter (Event.spares place))).2.isVacant place =
      true := by
  apply run_invariant_of_forall (fun reached => isVacant reached place = true) _ vacant
    fun event member => (List.mem_filter.mp member).2
  intro reached event spared still
  refine isVacant_step (fun call same named => ?_) still
  subst same
  simp [Event.spares, named] at spared

/-- A container that is gone leaves no trace. -/
theorem alike_of_isVacant (container : place.part ≠ .values) {events : List Event}
    (start : content.isVacant place = true)
    (gone : (SharedState.run step content events).2.isVacant place = true) :
    Alike (SharedState.run step content events).2
      (SharedState.run step content (events.filter (Event.spares place))).2 := by
  have others : ∀ other ≠ place, (SharedState.run step content events).2.seen other =
      (SharedState.run step content (events.filter (Event.spares place))).2.seen other :=
    fun other different => seen_run_of_spares container different rfl events
  intro other
  by_cases same : other = place
  · subst same
    have elsewhere : (⟨.values, ""⟩ : Place) ≠ other := fun equal => container (equal ▸ rfl)
    have now := (Prod.mk.inj (others _ elsewhere)).1
    have never := isVacant_run_of_spares start events
    exact Prod.ext now ((cell_of_isVacant gone).trans (cell_of_isVacant never).symm)
  · exact others other same

end Content

end SharedState
