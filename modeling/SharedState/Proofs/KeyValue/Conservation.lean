import SharedState.Proofs.KeyValue.Vanishing
import SharedState.Proofs.Totals

/-!
# Conservation of values

Whatever was brought into memory is still there, or it was deleted while it was
live, or it was discarded because it had lapsed. The books are kept in a ledger
in which what has lapsed counts once, be it in memory or discarded, and what is
live counts by some share. Looking for a key and sweeping leave the ledger
alone: what they take out of memory they discard. Only a write and a deletion
change it, by the share of what they write or delete.
-/

namespace SharedState

/-- How much a value in memory counts where a live one counts by some share. -/
def Entry.worth (share : Nat) (now : Instant) (entry : Entry) : Nat :=
  if entry.isLapsed now then 1 else share

theorem Entry.worth_of_lapsed {entry : Entry} {now : Instant}
    (lapsed : entry.isLapsed now = true) (share : Nat) : entry.worth share now = 1 :=
  if_pos lapsed

theorem Entry.worth_of_live {entry : Entry} {now : Instant}
    (live : entry.isLapsed now = false) (share : Nat) : entry.worth share now = share :=
  if_neg (Bool.eq_false_iff.mp live)

@[simp]
theorem Entry.worth_create (share : Nat) (now : Instant) (value : String) (lifetime : Duration) :
    (Entry.create now value lifetime).worth share now = share :=
  Entry.worth_of_live (Entry.isLapsed_create now value lifetime) share

namespace KeyValue

variable {now : Instant} {key : String} {share : Nat} {store : KeyValue}

/-- The values discarded so far and the worth of those in memory. -/
def ledger (share : Nat) (now : Instant) (store : KeyValue) : Nat :=
  store.discarded + store.entries.sum fun _ entry => entry.worth share now

/-- How many values in memory have lapsed. -/
def lapsed (now : Instant) (store : KeyValue) : Nat :=
  store.entries.count fun _ entry => entry.isLapsed now

/-- Where live values count once, the ledger counts everything in memory. -/
theorem ledger_one (now : Instant) (store : KeyValue) :
    store.ledger 1 now = store.size + store.discarded := by
  have once : ∀ entry : Entry, entry.worth 1 now = 1 := fun entry => ite_self 1
  simp only [ledger, once, size, Table.size_eq_sum]
  exact Nat.add_comm ..

/-! ## What is under a key -/

theorem live?_eq_some_iff {entry : Entry} :
    store.live? now key = some entry ↔
      store.entries.get? key = some entry ∧ entry.isLapsed now = false := by
  simp [live?, Option.filter_eq_some_iff]

/-- When a key was looked for, what is under it in memory is live. -/
theorem get?_find (now : Instant) (key : String) (store : KeyValue) :
    (store.find now key).2.entries.get? key = store.live? now key := by
  unfold find live?
  cases found : store.entries.get? key with
  | none => simp [found]
  | some entry =>
      cases lapsed : entry.isLapsed now with
      | true => simp [discard, Option.filter, lapsed]
      | false => simp [found, Option.filter, lapsed]

/-- The worth of what is under a key in memory. -/
def worthAt (share : Nat) (now : Instant) (key : String) (store : KeyValue) : Nat :=
  store.entries.weightAt (fun _ entry => entry.worth share now) key

theorem worthAt_find (share : Nat) (now : Instant) (key : String) (store : KeyValue) :
    (store.find now key).2.worthAt share now key =
      share * (store.live? now key).isSome.toNat := by
  rw [worthAt, Table.weightAt, get?_find]
  cases live : store.live? now key with
  | none => rfl
  | some entry =>
      rw [Option.elim_some, Entry.worth_of_live (live?_eq_some_iff.mp live).2]
      exact (Nat.mul_one share).symm

/-! ## What is done to the ledger -/

theorem ledger_write (share : Nat) (now : Instant) (key : String) (entry : Entry)
    (store : KeyValue) :
    (store.write key entry).ledger share now + store.worthAt share now key =
      store.ledger share now + entry.worth share now := by
  have put := store.entries.sum_put (fun _ entry => entry.worth share now) key entry
  simp only [ledger, write, worthAt]
  omega

theorem ledger_erase (share : Nat) (now : Instant) (key : String) (store : KeyValue) :
    ledger share now { store with entries := store.entries.erase key } +
        store.worthAt share now key = store.ledger share now := by
  have erased := store.entries.sum_erase (fun _ entry => entry.worth share now) key
  simp only [ledger, worthAt]
  omega

/-- Looking for a key discards what it takes out. -/
@[simp]
theorem ledger_find (share : Nat) (now : Instant) (key : String) (store : KeyValue) :
    (store.find now key).2.ledger share now = store.ledger share now := by
  unfold find
  cases found : store.entries.get? key with
  | none => rfl
  | some entry =>
      cases lapsed : entry.isLapsed now with
      | false => simp [lapsed]
      | true =>
          have worth : store.worthAt share now key = 1 := by
            rw [worthAt, Table.weightAt, found, Option.elim_some, Entry.worth_of_lapsed lapsed]
          have erased := ledger_erase share now key store
          simp only [lapsed, if_true, discard, ledger] at erased ⊢
          omega

/-- In memory there is what a sweep keeps and what has lapsed. -/
theorem sum_worth_sweep (share : Nat) (now : Instant) (store : KeyValue) :
    (store.entries.sum fun _ entry => entry.worth share now) =
      ((store.sweep now).2.entries.sum fun _ entry => entry.worth share now) +
        store.lapsed now := by
  have parts : ∀ entry : Entry, entry.worth share now =
      (if (!entry.isLapsed now) = true then entry.worth share now else 0) +
        (entry.isLapsed now).toNat := by
    intro entry
    cases lapsed : entry.isLapsed now <;> simp [Entry.worth, lapsed]
  calc (store.entries.sum fun _ entry => entry.worth share now)
      = store.entries.sum fun _ entry =>
          (if (!entry.isLapsed now) = true then entry.worth share now else 0) +
            (entry.isLapsed now).toNat := by simp only [← parts]
    _ = (store.entries.sum fun _ entry =>
          if (!entry.isLapsed now) = true then entry.worth share now else 0) +
            store.lapsed now := by rw [Table.sum_add, lapsed, Table.count_eq_sum]
    _ = _ := by rw [sweep, Table.sum_filter]

/-- A sweep takes as many values out of memory as have lapsed. -/
theorem sweep_fst (now : Instant) (store : KeyValue) :
    (store.sweep now).1 = store.lapsed now ∧
      store.size = (store.sweep now).2.size + store.lapsed now := by
  have once : ∀ entry : Entry, entry.worth 1 now = 1 := fun entry => ite_self 1
  have sizes : store.size = (store.sweep now).2.size + store.lapsed now := by
    have parts := sum_worth_sweep 1 now store
    simp only [once, ← Table.size_eq_sum] at parts
    exact parts
  constructor
  · exact Nat.sub_eq_of_eq_add (sizes.trans (Nat.add_comm ..))
  · exact sizes

/-- A sweep discards what it takes out. -/
@[simp]
theorem ledger_sweep (share : Nat) (now : Instant) (store : KeyValue) :
    (store.sweep now).2.ledger share now = store.ledger share now := by
  have discarded : (store.sweep now).2.discarded = store.discarded + (store.sweep now).1 := rfl
  have swept := (sweep_fst now store).1
  have parts := sum_worth_sweep share now store
  simp only [ledger]
  omega

/-! ## What calls do to the ledger -/

/-- Every key that is taken out while it is live takes a share off the ledger. -/
theorem ledger_remove (share : Nat) (now : Instant) (key : String) (store : KeyValue) :
    (store.remove now key).2.ledger share now + share * (store.remove now key).1.toNat =
      store.ledger share now := by
  have erased := ledger_erase share now key (store.find now key).2
  have worth := worthAt_find share now key store
  rw [remove_fst, remove, find_eq]
  cases live : store.live? now key with
  | none => simp
  | some entry =>
      simp only [live, ledger_find] at erased worth ⊢
      exact worth ▸ erased

theorem ledger_removeAll (share : Nat) (now : Instant) (keys : List String) (store : KeyValue) :
    (store.removeAll now keys).2.ledger share now + share * (store.removeAll now keys).1 =
      store.ledger share now := by
  induction keys generalizing store with
  | nil => rfl
  | cons key rest ih =>
      have first := ledger_remove share now key store
      have later := ih (store.remove now key).2
      simp only [removeAll, Nat.mul_add]
      omega

/-- A write on a free key puts a share on the ledger. -/
theorem ledger_setIfAbsent (share : Nat) (now : Instant) (key value : String)
    (lifetime : Duration) (store : KeyValue) :
    (store.setIfAbsent now key value lifetime).2.ledger share now =
      store.ledger share now +
        share * (store.setIfAbsent now key value lifetime).1.number := by
  have written := ledger_write share now key (Entry.create now value lifetime)
    (store.find now key).2
  have worth := worthAt_find share now key store
  rw [setIfAbsent_fst, setIfAbsent, find_eq]
  cases live : store.live? now key with
  | none =>
      simp only [live, Entry.worth_create, ledger_find] at written worth
      simp only [worth, Option.isSome_none, Bool.toNat_false] at written
      simpa [Answer.number] using written
  | some entry => simp [Answer.number]

/-- A new lifetime leaves the ledger alone: a live value stays live. -/
theorem ledger_expire (share : Nat) (now : Instant) (key : String) (lifetime : Duration)
    (store : KeyValue) :
    (store.expire now key lifetime).2.ledger share now = store.ledger share now := by
  rw [expire, find_eq]
  cases live : store.live? now key with
  | none => exact ledger_find ..
  | some entry =>
      have written := ledger_write share now key (Entry.create now entry.value lifetime)
        (store.find now key).2
      have worth := worthAt_find share now key store
      simp only [live, Entry.worth_create, ledger_find] at written worth
      simp only [worth, Option.isSome_some, Bool.toNat_true, Nat.mul_one] at written
      exact Nat.add_right_cancel written

theorem ledger_lifetime (share : Nat) (now : Instant) (key : String) (store : KeyValue) :
    (store.lifetime now key).2.ledger share now = store.ledger share now := by
  rw [lifetime, find_eq]
  cases store.live? now key <;> exact ledger_find ..

/-! ## What steps do to the ledger -/

/-- How many values a step brings into memory. A write does so where none is in
memory, and a write that needs the key to be free where it succeeds. -/
def created (state : Instant × KeyValue) (event : Event) : Nat :=
  match event with
  | .call (.set key _ _) => (!state.2.entries.contains key).toNat
  | .call (.setIfAbsent ..) => (step state event).1.number
  | _ => 0

/-- How many values a step deletes by its own account. -/
def deleted (state : Instant × KeyValue) (event : Event) : Nat :=
  match event with
  | .call (.delete _) => (step state event).1.number
  | _ => 0

theorem set_or_guarded (event : Event) :
    (∃ key value lifetime, event = .call (.set key value lifetime)) ∨
      ∀ key value lifetime, event ≠ .call (.set key value lifetime) := by
  by_cases plain : ∃ key value lifetime, event = .call (.set key value lifetime)
  · exact Or.inl plain
  · exact Or.inr fun key value lifetime same => plain ⟨key, value, lifetime, same⟩

/-- A step other than a plain write changes the ledger by the shares of what it
brings and deletes. -/
theorem ledger_step (share : Nat) (state : Instant × KeyValue) {event : Event}
    (kept : event ≠ .clear)
    (guarded : ∀ key value lifetime, event ≠ .call (.set key value lifetime)) :
    (step state event).2.2.ledger share state.1 + share * deleted state event =
      state.2.ledger share state.1 + share * created state event := by
  obtain ⟨now, store⟩ := state
  cases event with
  | call command =>
      cases command with
      | get key => exact ledger_find ..
      | contains key => exact ledger_find ..
      | lifetime key => exact ledger_lifetime ..
      | expire key lifetime => exact ledger_expire ..
      | setIfAbsent key value lifetime => exact ledger_setIfAbsent ..
      | delete keys => exact ledger_removeAll ..
      | set key value lifetime => exact absurd rfl (guarded key value lifetime)
  | sweep => exact ledger_sweep ..
  | clear => exact absurd rfl kept
  | advance duration => rfl

/-- What is kept in memory and what was discarded change by what a step brings
and deletes. -/
theorem size_balanced :
    Balanced step (· ≠ .clear) (fun _ => True) (fun state => state.2.size + state.2.discarded)
      created deleted where
  kept _ _ := trivial
  balance {state event} kept _ := by
    obtain ⟨now, store⟩ := state
    rcases set_or_guarded event with ⟨key, value, lifetime, rfl⟩ | guarded
    · have written := ledger_write 1 now key (Entry.create now value lifetime) store
      have before : store.worthAt 1 now key + (!store.entries.contains key).toNat = 1 := by
        rw [worthAt, Table.weightAt, Table.contains]
        cases store.entries.get? key <;> simp [Entry.worth]
      simp only [ledger_one, Entry.worth_create] at written
      simp only [step, apply, set, created, deleted]
      omega
    · simpa only [ledger_one, Nat.one_mul] using ledger_step 1 (now, store) kept guarded

/-- After a sweep the keys in memory are those that are live. -/
theorem encard_live_sweep (now : Instant) (store : KeyValue) :
    {key | (store.live? now key).isSome = true}.encard = (store.sweep now).2.size := by
  have counted := (store.sweep now).2.entries.encard_eq_count fun _ _ => true
  have everything : ((store.sweep now).2.entries.count fun _ _ => true) =
      (store.sweep now).2.size :=
    congrFun List.countP_true _
  rw [← everything, ← counted]
  congr 1
  ext key
  simp [sweep, live?, Option.any_eq_true]

/-- In every run in which the store is not cleared, the values brought into
memory are still there, or were discarded, or were deleted. Wherever such a run
leads, a sweep tells how much less there is in memory after it, has discarded
just that, leaves in memory the keys that are live, and changes neither the
value nor the deadline of any of them. -/
theorem entries_conserved {events : List Event} (kept : .clear ∉ events) :
    let start : Instant × KeyValue := (0, empty)
    let reached := (run step start events).2
    total step created start events =
        reached.2.size + reached.2.discarded + total step deleted start events ∧
      ∃ swept number, step reached .sweep = (.count number, reached.1, swept) ∧
        reached.2.size = swept.size + number ∧
        swept.discarded = reached.2.discarded + number ∧
        {key | (swept.apply reached.1 (.contains key)).1 = .flag true}.encard = swept.size ∧
        ∀ key, swept.live? reached.1 key = reached.2.live? reached.1 key := by
  intro start reached
  obtain ⟨number, fewer⟩ := sweep_fst reached.1 reached.2
  refine ⟨?_, (reached.2.sweep reached.1).2, (reached.2.sweep reached.1).1, rfl, ?_, rfl, ?_, ?_⟩
  · have balance := size_balanced.run_balance start trivial (List.forall_mem_ne'.mpr kept)
    exact ((balance.trans (Nat.zero_add _)).symm)
  · rw [number]
    exact fewer
  · simp only [apply, contains_fst, Answer.flag.injEq, live?_sweep]
    exact encard_live_sweep ..
  · exact fun key => live?_sweep ..

/-- One value is written over while it is live, one lapses and is met by a
write, and one is deleted along with keys under which there is nothing. -/
theorem entries_conserved_swept :
    let start : Instant × KeyValue := (0, empty)
    let events : List Event :=
      [.call (.set "a" "v" 0), .call (.set "b" "v" 5), .call (.set "b" "w" 7),
        .call (.setIfAbsent "a" "w" 0), .advance 9, .call (.setIfAbsent "b" "x" 2),
        .call (.delete ["a", "a", "c"]), .advance 2]
    let reached := (run step start events).2
    .clear ∉ events ∧ total step created start events = 3 ∧
      reached.2.size + reached.2.discarded + total step deleted start events = 3 ∧
      ∃ swept, step reached .sweep = (.count 1, 11, swept) ∧ swept.size = 0 ∧
        {key | (swept.apply 11 (.contains key)).1 = .flag true}.encard = swept.size := by
  intro start events reached
  have kept : .clear ∉ events := by decide
  have brought : total step created start events = 3 := by decide
  obtain ⟨conserved, swept, number, took, fewer, -, live, -⟩ := entries_conserved kept
  have one : (step reached .sweep).1 = .count 1 := by decide
  rw [took, Answer.count.injEq] at one
  subst one
  have left : reached.2.size = 1 := by decide
  exact ⟨kept, brought, conserved.symm.trans brought, swept, took,
    Nat.add_right_cancel (fewer.symm.trans left), live⟩

end KeyValue

end SharedState
