import SharedState.Proofs.KeyValue.Conservation
import SharedState.Proofs.Tables

/-!
# Lapsed values are lost once

A value that lapses while it is in memory is lost at some later step, whichever
step happens to take it out. Every step counts the values that it loses, with
one exception: a plain write over a lapsed value does not. When nothing lapsed
is left in memory, the values lost are those that vanished from the map of live
values, so that their number does not depend on when memory is swept.
-/

namespace SharedState

/-- How many keys vanish by a step. -/
noncomputable def Vanishing.expiring (map : Vanishing) : Event → Nat
  | .advance duration =>
      {key | ∃ entry, map.held key = some entry ∧
        entry.isLapsed (map.now + duration) = true}.ncard
  | _ => 0

namespace KeyValue

/-- How many lapsed values that are in memory before a step are not there any
more after it. -/
def lost (state : Instant × KeyValue) (event : Event) : Nat :=
  state.2.entries.count fun key entry =>
    entry.isLapsed state.1 && decide ((step state event).2.2.entries.get? key ≠ some entry)

/-- How many of them are written over by a plain write. -/
def overwritten (state : Instant × KeyValue) (event : Event) : Nat :=
  match event with
  | .call (.set ..) => lost state event
  | _ => 0

/-- How many values in memory lapse by a step. -/
def lapsing (state : Instant × KeyValue) : Event → Nat
  | .advance duration =>
      state.2.entries.count fun _ entry =>
        !entry.isLapsed state.1 && entry.isLapsed (state.1 + duration)
  | _ => 0

/-! ## Memory sheds what has lapsed -/

/-- What has lapsed and is in memory in the end was there to begin with. -/
def Sheds (now : Instant) (before after : KeyValue) : Prop :=
  ∀ key entry, after.entries.get? key = some entry → entry.isLapsed now = true →
    before.entries.get? key = some entry

variable {now : Instant} {key : String} {before middle after store : KeyValue}

theorem Sheds.refl (now : Instant) (store : KeyValue) : Sheds now store store :=
  fun _ _ found _ => found

theorem Sheds.trans (first : Sheds now before middle) (second : Sheds now middle after) :
    Sheds now before after :=
  fun key entry found lapsed => first key entry (second key entry found lapsed) lapsed

theorem sheds_erase (now : Instant) (key : String) (store : KeyValue) :
    Sheds now store { store with entries := store.entries.erase key } := by
  intro other entry found _
  rw [Table.get?_erase] at found
  split at found
  · cases found
  · exact found

theorem sheds_find (now : Instant) (key : String) (store : KeyValue) :
    Sheds now store (store.find now key).2 := by
  unfold find
  cases store.entries.get? key with
  | none => exact Sheds.refl now store
  | some entry =>
      cases lapsed : entry.isLapsed now with
      | true =>
          simp only [lapsed, if_true, discard]
          exact sheds_erase now key store
      | false =>
          simp only [lapsed, Bool.false_eq_true, if_false]
          exact Sheds.refl now store

theorem sheds_write (now : Instant) (key value : String) (lifetime : Duration)
    (store : KeyValue) : Sheds now store (store.write key (Entry.create now value lifetime)) := by
  intro other entry found lapsed
  rw [write, Table.get?_put] at found
  split at found
  · cases found
    simp at lapsed
  · exact found

theorem sheds_remove (now : Instant) (key : String) (store : KeyValue) :
    Sheds now store (store.remove now key).2 := by
  have looked := sheds_find now key store
  rw [remove, find_eq]
  cases store.live? now key with
  | none => exact looked
  | some entry => exact looked.trans (sheds_erase now key _)

theorem sheds_removeAll (now : Instant) (keys : List String) (store : KeyValue) :
    Sheds now store (store.removeAll now keys).2 := by
  induction keys generalizing store with
  | nil => exact Sheds.refl now store
  | cons key rest ih => exact (sheds_remove now key store).trans (ih _)

theorem sheds_apply (now : Instant) (store : KeyValue) (command : Command) :
    Sheds now store (store.apply now command).2 := by
  cases command with
  | get key => exact sheds_find now key store
  | contains key => exact sheds_find now key store
  | set key value lifetime => exact sheds_write now key value lifetime store
  | delete keys => exact sheds_removeAll now keys store
  | setIfAbsent key value lifetime =>
      have looked := sheds_find now key store
      rw [apply, setIfAbsent, find_eq]
      cases store.live? now key with
      | none => exact looked.trans (sheds_write now key value lifetime _)
      | some entry => exact looked
  | expire key lifetime =>
      have looked := sheds_find now key store
      rw [apply, expire, find_eq]
      cases store.live? now key with
      | none => exact looked
      | some entry => exact looked.trans (sheds_write now key entry.value lifetime _)
  | lifetime key =>
      rw [apply, lifetime, find_eq]
      cases store.live? now key <;> exact sheds_find now key store

theorem sheds_step (state : Instant × KeyValue) (event : Event) :
    Sheds state.1 state.2 (step state event).2.2 := by
  cases event with
  | call command => exact sheds_apply state.1 state.2 command
  | sweep =>
      intro key entry found _
      simp only [step, sweep, Table.get?_filter, Option.filter_eq_some_iff] at found
      exact found.1
  | clear =>
      intro key entry found
      cases found
  | advance duration => exact Sheds.refl state.1 state.2

/-! ## Memory in which nothing has lapsed -/

/-- Nothing in memory has lapsed. -/
def Clean (store : KeyValue) (now : Instant) : Prop :=
  store.entries.All fun entry => entry.isLapsed now = false

theorem clean_empty (now : Instant) : empty.Clean now :=
  Table.all_empty _

theorem clean_sweep (now : Instant) (store : KeyValue) : (store.sweep now).2.Clean now :=
  (Table.all_filter store.entries fun entry => !entry.isLapsed now).imp
    fun _ live => (Bool.not_eq_true' _).mp live

/-- A sweep of clean memory does nothing. -/
theorem Clean.sweep_eq (clean : store.Clean now) : (store.sweep now).2 = store := by
  have kept : store.entries.filter (fun _ entry => !entry.isLapsed now) = store.entries := by
    apply Table.filter_eq_self
    intro binding member
    rw [clean binding.1 binding.2 (Table.get?_eq_some_iff.mpr member)]
    rfl
  simp only [sweep, kept, Nat.sub_self, Nat.add_zero]

/-- What sheds only keeps memory clean. -/
theorem Clean.of_sheds (clean : before.Clean now) (sheds : Sheds now before after) :
    after.Clean now := by
  intro key entry there
  by_contra lapsed
  rw [Bool.not_eq_false] at lapsed
  have live : entry.isLapsed now = false := clean key entry (sheds key entry there lapsed)
  rw [live] at lapsed
  cases lapsed

/-- Then the values that are live are those in memory. -/
theorem Clean.live?_eq (clean : store.Clean now) (key : String) :
    store.live? now key = store.entries.get? key := by
  unfold live?
  cases there : store.entries.get? key with
  | none => rfl
  | some entry =>
      have live : entry.isLapsed now = false := clean key entry there
      simp [live]

theorem Clean.lapsed_eq_zero (clean : store.Clean now) : store.lapsed now = 0 := by
  rw [lapsed, Table.count, List.countP_eq_zero]
  intro binding member
  simp [clean binding.1 binding.2 (Table.get?_eq_some_iff.mpr member)]

/-! ## What is lost -/

/-- What has lapsed and is in memory in the end is what is still there. -/
theorem Sheds.lapsed_eq (sheds : Sheds now before after) :
    after.lapsed now = before.entries.count fun key entry =>
      entry.isLapsed now && decide (after.entries.get? key = some entry) := by
  simp only [lapsed, Table.count_eq_sum]
  apply Table.sum_congr
  intro key
  simp only [Table.weightAt]
  cases there : after.entries.get? key with
  | none => cases before.entries.get? key <;> simp
  | some entry =>
      cases lapses : entry.isLapsed now with
      | true => simp [sheds key entry there lapses, lapses]
      | false =>
          -- What is under the key now is live, so what was there before does not count either.
          cases before.entries.get? key with
          | none => simp [lapses]
          | some other =>
              by_cases same : entry = other
              · subst same
                simp [lapses]
              · simp [lapses, same]

/-- What had lapsed before a step is lost by it or still there after it. -/
theorem lost_add_lapsed (state : Instant × KeyValue) (event : Event) :
    lost state event + (step state event).2.2.lapsed state.1 = state.2.lapsed state.1 := by
  rw [(sheds_step state event).lapsed_eq, lost, lapsed]
  simp only [Table.count_eq_sum]
  rw [← Table.sum_add]
  congr 1
  funext key entry
  by_cases there : (step state event).2.2.entries.get? key = some entry <;> simp [there]

/-- The ledger in which what is live does not count. -/
theorem ledger_zero (now : Instant) (store : KeyValue) :
    store.ledger 0 now = store.discarded + store.lapsed now := by
  have counts : ∀ entry : Entry, entry.worth 0 now = (entry.isLapsed now).toNat := by
    intro entry
    cases lapses : entry.isLapsed now <;> simp [Entry.worth, lapses]
  simp only [ledger, counts, lapsed, Table.count_eq_sum]

/-- A step counts what it loses, unless it writes it over. -/
theorem discarded_balanced :
    Balanced step (· ≠ .clear) (fun _ => True) (fun state => state.2.discarded)
      lost overwritten where
  kept _ _ := trivial
  balance {state event} kept _ := by
    rcases set_or_guarded event with ⟨key, value, lifetime, rfl⟩ | guarded
    · rfl
    · have spared : overwritten state event = 0 := by
        unfold overwritten
        split
        · exact absurd rfl (guarded _ _ _)
        · rfl
      have books := ledger_step 0 state kept guarded
      have parts := lost_add_lapsed state event
      simp only [ledger_zero, Nat.zero_mul, Nat.add_zero] at books
      omega

/-- With time, what was live lapses and what had lapsed stays so. -/
theorem lapsed_later (now : Instant) (duration : Duration) (store : KeyValue) :
    store.lapsed (now + duration) =
      store.lapsed now + lapsing (now, store) (.advance duration) := by
  simp only [lapsed, lapsing, Table.count_eq_sum]
  rw [← Table.sum_add]
  congr 1
  funext key entry
  cases lapses : entry.isLapsed now with
  | true => simp [Entry.isLapsed_mono (Nat.le_add_right now duration) lapses]
  | false => simp

/-- What has lapsed and is in memory changes by what lapses and what is lost. -/
theorem lapsed_balanced :
    Balanced step (fun _ => True) (fun _ => True) (fun state => state.2.lapsed state.1)
      lapsing lost where
  kept _ _ := trivial
  balance {state event} _ _ := by
    obtain ⟨now, store⟩ := state
    have parts := lost_add_lapsed (now, store) event
    cases event with
    | advance duration =>
        have later := lapsed_later now duration store
        simp only [step] at parts ⊢
        omega
    | call command => exact (Nat.add_comm ..).trans parts
    | sweep => exact (Nat.add_comm ..).trans parts
    | clear => exact (Nat.add_comm ..).trans parts

@[simp]
theorem lapsed_sweep (now : Instant) (store : KeyValue) :
    (store.sweep now).2.lapsed now = 0 :=
  (clean_sweep now store).lapsed_eq_zero

/-- What lapses in memory vanishes from the map. -/
theorem lapsing_eq_expiring (state : Instant × KeyValue) (event : Event) :
    lapsing state event =
      (Vanishing.event? event).elim 0 (vanishing state).expiring := by
  obtain ⟨now, store⟩ := state
  cases event with
  | advance duration =>
      have counted := store.entries.encard_eq_count fun _ entry =>
        !entry.isLapsed now && entry.isLapsed (now + duration)
      have keys : {key | ∃ entry, (vanishing (now, store)).held key = some entry ∧
            entry.isLapsed ((vanishing (now, store)).now + duration) = true} =
          {key | ∃ entry, store.entries.get? key = some entry ∧
            (!entry.isLapsed now && entry.isLapsed (now + duration)) = true} := by
        ext key
        simp [vanishing, live?_eq_some_iff, and_assoc]
      simp only [Vanishing.event?, Option.elim_some, Vanishing.expiring, lapsing]
      rw [Set.ncard, keys, counted]
      rfl
  | call command => rfl
  | sweep => rfl
  | clear => rfl

/-- What a run that ends in a sweep loses has vanished from the map. -/
theorem total_lost_sweep (events : List Event) :
    total step lost ((0, empty) : Instant × KeyValue) (events ++ [.sweep]) =
      total Vanishing.step Vanishing.expiring Vanishing.empty
        (events.filterMap Vanishing.event?) := by
  have balance := lapsed_balanced.run_balance ((0, empty) : Instant × KeyValue) trivial
    fun event (_ : event ∈ events ++ [.sweep]) => trivial
  have nothing : (run step ((0, empty) : Instant × KeyValue) (events ++ [.sweep])).2.2.lapsed
      (run step ((0, empty) : Instant × KeyValue) (events ++ [.sweep])).2.1 = 0 := by
    rw [run_append]
    exact lapsed_sweep ..
  have meant : (events ++ [Event.sweep]).filterMap Vanishing.event? =
      events.filterMap Vanishing.event? := by
    rw [List.filterMap_append]
    exact List.append_nil _
  have vanished := refines_vanishing.total_eq Vanishing.expiring
    (fun _ => lapsing_eq_expiring _ _) ((0, empty) : Instant × KeyValue) trivial
    (events ++ [.sweep])
  rw [meant] at vanished
  rw [nothing, Nat.zero_add] at balance
  exact (balance.trans (Nat.zero_add _)).trans vanished

/-- A run that does not clear the store counts what it loses, unless it writes
it over. -/
theorem discarded_run {events : List Event} (kept : .clear ∉ events) :
    (run step ((0, empty) : Instant × KeyValue) events).2.2.discarded +
        total step overwritten (0, empty) events =
      total step lost (0, empty) events := by
  have balance := discarded_balanced.run_balance ((0, empty) : Instant × KeyValue) trivial
    (List.forall_mem_ne'.mpr kept)
  exact balance.trans (Nat.zero_add _)

/-- The same when it ends in a sweep, which writes nothing over. -/
theorem discarded_run_sweep {events : List Event} (kept : .clear ∉ events) :
    (run step ((0, empty) : Instant × KeyValue) (events ++ [.sweep])).2.2.discarded +
        total step overwritten (0, empty) events =
      total Vanishing.step Vanishing.expiring Vanishing.empty
        (events.filterMap Vanishing.event?) := by
  have swept : .clear ∉ events ++ [Event.sweep] := by simpa using kept
  have counted := discarded_run swept
  rw [total_append, total_lost_sweep] at counted
  exact counted

/-- In every run in which the store is not cleared, what was discarded is what
was lost but for the lapsed values that a plain write replaced. Runs of the same
calls at the same times lose the same number of values once memory is swept, so
that they differ in what they discarded only by those that were written over. -/
theorem lapsed_lost_once {events : List Event} (kept : .clear ∉ events) :
    let start : Instant × KeyValue := (0, empty)
    (run step start events).2.2.discarded + total step overwritten start events =
        total step lost start events ∧
      ∀ others : List Event,
        others.filterMap Vanishing.event? = events.filterMap Vanishing.event? →
          total step lost start (others ++ [.sweep]) = total step lost start (events ++ [.sweep]) ∧
            (run step start (others ++ [.sweep])).2.2.discarded +
                total step overwritten start others =
              (run step start (events ++ [.sweep])).2.2.discarded +
                total step overwritten start events := by
  intro start
  refine ⟨discarded_run kept, fun others same => ?_⟩
  have keptToo : .clear ∉ others := by
    intro member
    have means : .clear ∈ others.filterMap Vanishing.event? :=
      List.mem_filterMap.mpr ⟨.clear, member, rfl⟩
    rw [same] at means
    obtain ⟨event, among, cleared⟩ := List.mem_filterMap.mp means
    cases event <;> cases cleared
    exact kept among
  constructor
  · rw [total_lost_sweep, total_lost_sweep, same]
  · rw [discarded_run_sweep keptToo, discarded_run_sweep kept, same]

/-- One lapsed value is swept, one is met by a call and one is written over. -/
theorem lapsed_lost_once_overwritten :
    let start : Instant × KeyValue := (0, empty)
    let calls : List Event :=
      [.call (.set "a" "v" 2), .call (.set "b" "v" 3), .call (.set "c" "v" 5), .advance 4,
        .call (.get "a"), .call (.set "b" "w" 0), .advance 4]
    let swept : List Event :=
      [.call (.set "a" "v" 2), .call (.set "b" "v" 3), .call (.set "c" "v" 5), .advance 4,
        .sweep, .call (.get "a"), .call (.set "b" "w" 0), .advance 4]
    .clear ∉ calls ∧ swept.filterMap Vanishing.event? = calls.filterMap Vanishing.event? ∧
      total step lost start (swept ++ [.sweep]) = 3 ∧
      total step lost start (calls ++ [.sweep]) = 3 ∧
      (run step start (swept ++ [.sweep])).2.2.discarded + total step overwritten start swept =
        (run step start (calls ++ [.sweep])).2.2.discarded +
          total step overwritten start calls := by
  intro start calls swept
  have kept : .clear ∉ calls := by decide
  have same : swept.filterMap Vanishing.event? = calls.filterMap Vanishing.event? := by decide
  have three : total step lost start (swept ++ [.sweep]) = 3 := by decide
  obtain ⟨lost, discarded⟩ := (lapsed_lost_once kept).2 swept same
  exact ⟨kept, same, three, lost.symm.trans three, discarded⟩

/-- A plain write over a lapsed value loses it and does not count it, so an
extra sweep before the write makes a difference that a last sweep does not undo. -/
theorem lapsed_written_over_uncounted :
    let start : Instant × KeyValue := (0, empty)
    let calls : List Event := [.call (.set "k" "v" 5), .advance 9, .call (.set "k" "w" 0)]
    let swept : List Event := [.call (.set "k" "v" 5), .advance 9, .sweep, .call (.set "k" "w" 0)]
    total step lost start (calls ++ [.sweep]) = 1 ∧
      (run step start (calls ++ [.sweep])).2.2.discarded = 0 ∧
      (run step start (swept ++ [.sweep])).2.2.discarded = 1 := by
  decide

end KeyValue

end SharedState
