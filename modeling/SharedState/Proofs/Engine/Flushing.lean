import SharedState.Engine
import SharedState.Proofs.Refinement

/-!
# A flushed engine is a new one

A flush forgets everything but the time and the count of discarded values. No
step looks at that count: an engine with more on it answers every step as it
would without, and has as much more on it afterwards. Without a sweeper there is
nothing else that an engine could remember, and so from a flush on it does what
one does that is made at that instant.
-/

namespace SharedState

variable {more : Nat}

/-! ## More on the count -/

namespace KeyValue

/-- The same values, with more of them discarded before. -/
def credit (more : Nat) (store : KeyValue) : KeyValue :=
  { store with discarded := store.discarded + more }

theorem find_credit (now : Instant) (key : String) (store : KeyValue) :
    find now key (credit more store) = Prod.map id (credit more) (find now key store) := by
  have same : (credit more store).entries.get? key = store.entries.get? key := rfl
  rw [find, find, same]
  cases store.entries.get? key with
  | none => rfl
  | some entry =>
      cases lapsed : entry.isLapsed now with
      | false => simp [lapsed]
      | true => simp [lapsed, discard, credit, Nat.add_right_comm]

theorem remove_credit (now : Instant) (key : String) (store : KeyValue) :
    remove now key (credit more store) = Prod.map id (credit more) (remove now key store) := by
  rw [remove, remove, find_credit]
  rcases find now key store with ⟨_ | entry, found⟩ <;> rfl

theorem removeAll_credit (now : Instant) (keys : List String) (store : KeyValue) :
    removeAll now keys (credit more store) =
      Prod.map id (credit more) (removeAll now keys store) := by
  induction keys generalizing store with
  | nil => rfl
  | cons key rest ih => simp only [removeAll, remove_credit, Prod.map_fst, Prod.map_snd, ih]; rfl

theorem sweep_credit (now : Instant) (store : KeyValue) :
    sweep now (credit more store) = Prod.map id (credit more) (sweep now store) := by
  simp [sweep, credit, Nat.add_right_comm]

/-- No call looks at the count. -/
theorem apply_credit (now : Instant) (store : KeyValue) (command : Command) :
    apply now (credit more store) command = Prod.map id (credit more) (apply now store command) := by
  cases command with
  | get key => simp only [apply, get, find_credit]; rfl
  | set key value lifetime => rfl
  | delete keys => simp only [apply, removeAll_credit]; rfl
  | contains key => simp only [apply, contains, find_credit]; rfl
  | setIfAbsent key value lifetime =>
      rw [apply, apply, setIfAbsent, setIfAbsent, find_credit]
      rcases find now key store with ⟨_ | entry, found⟩ <;> rfl
  | expire key lifetime =>
      rw [apply, apply, expire, expire, find_credit]
      rcases find now key store with ⟨_ | entry, found⟩ <;> rfl
  | lifetime key =>
      rw [apply, apply, KeyValue.lifetime, KeyValue.lifetime, find_credit]
      rcases find now key store with ⟨_ | entry, found⟩ <;> rfl

end KeyValue

namespace Store

/-- The same store, with more values discarded before. -/
def credit (more : Nat) (store : Store) : Store :=
  { store with values := store.values.credit more }

/-- The same counts, with more values discarded before. -/
def Counts.credit (more : Nat) (counts : Counts) : Counts :=
  { counts with discarded := counts.discarded + more }

theorem apply_credit (now : Instant) (store : Store) (call : Call) :
    apply now (credit more store) call = Prod.map id (credit more) (apply now store call) := by
  cases call with
  | value command => simp only [apply, credit, KeyValue.apply_credit]; rfl
  | _ => rfl

theorem sweep_credit (now : Instant) (store : Store) :
    sweep now (credit more store) = Prod.map id (credit more) (sweep now store) := by
  simp only [sweep, credit, KeyValue.sweep_credit]; rfl

/-- A flush keeps the count. -/
theorem flush_eq (store : Store) : store.flush = credit store.counts.discarded empty := by
  simp [flush, credit, counts, KeyValue.clear, KeyValue.credit, empty, KeyValue.empty]

end Store

namespace Engine

/-- The same engine, with more values discarded before. -/
def credit (more : Nat) (engine : Engine) : Engine :=
  { engine with store := engine.store.credit more }

/-- Takes one step, and counts what is kept after it. -/
def watch (engine : Engine) (event : Event) : (Answer × Store.Counts) × Engine :=
  let (answer, engine) := engine.step event
  ((answer, engine.store.counts), engine)

theorem perform_credit (engine : Engine) (event : Event) :
    perform (credit more engine) event = Prod.map id (credit more) (perform engine event) := by
  cases event with
  | call call => simp only [perform, credit, Store.apply_credit]; rfl
  | sweep => simp only [perform, credit, Store.sweep_credit]; rfl
  | _ => rfl

theorem settle_credit (engine : Engine) :
    (credit more engine).settle = credit more engine.settle := by
  obtain ⟨store, now, sweeper⟩ := engine
  cases sweeper with
  | none => rfl
  | some sweeper =>
      cases sweeps : (sweeper.turn Timer.standard true now).1 with
      | true =>
          simp only [settle, settleBy, credit, sweeps, if_true, Store.sweep_credit, Prod.map_snd]
      | false => simp only [settle, settleBy, credit, sweeps, Bool.false_eq_true, if_false]

/-- No step looks at the count of discarded values. -/
theorem step_credit (engine : Engine) (event : Event) :
    step (credit more engine) event = Prod.map id (credit more) (step engine event) := by
  rw [step_eq, step_eq, perform_credit, Prod.map_fst, Prod.map_snd, settle_credit]; rfl

/-- It shows in the counts, and nowhere else. -/
theorem watch_credit (engine : Engine) (event : Event) :
    watch (credit more engine) event =
      Prod.map (Prod.map id (Store.Counts.credit more)) (credit more) (watch engine event) := by
  simp only [watch, step_credit, Prod.map_fst, Prod.map_snd]; rfl

/-! ## Without a sweeper -/

/-- An engine without a sweeper gets none. -/
theorem sweeper_step_of_none {engine : Engine} (alone : engine.sweeper = none) (event : Event) :
    (step engine event).2.sweeper = none := by
  obtain ⟨store, now, sweeper⟩ := engine
  subst alone
  cases event <;> rfl

theorem sweeper_run_of_none {engine : Engine} (alone : engine.sweeper = none)
    (script : List Event) : (run step engine script).2.sweeper = none := by
  have kept : ∀ (state : Engine) (event : Event), state.sweeper = none →
      (step state event).2.sweeper = none := fun _ event alone => sweeper_step_of_none alone event
  exact run_invariant kept alone script

/-- An engine without a sweeper that is made at an instant. -/
def createAt (now : Instant) : Engine := { create with now }

/-- A flush leaves a new engine, and the count. -/
theorem step_flush {engine : Engine} (alone : engine.sweeper = none) :
    (step engine .flush).2 = (createAt engine.now).credit engine.store.counts.discarded := by
  obtain ⟨store, now, sweeper⟩ := engine
  subst alone
  have flushed : (step ⟨store, now, none⟩ .flush).2 = ⟨store.flush, now, none⟩ := rfl
  rw [flushed, store.flush_eq]
  rfl

/-- A flush makes an engine new. Wherever a script leads an engine without a
sweeper, after a flush every script is answered, step by step, as on an engine
that is made at that instant, and after each step the same is counted, except
for the discarded values, of which there are as many more as had been counted
at the flush. The two engines differ in nothing else at any time. -/
theorem flushed_eq_new (script rest : List Event) :
    let reached := (run step create script).2
    let flushed := (step reached .flush).2
    let before := reached.store.counts.discarded
    (run watch flushed rest).1 =
        (run watch (createAt reached.now) rest).1.map
          (fun seen => (seen.1, { seen.2 with discarded := seen.2.discarded + before })) ∧
      (run watch flushed rest).2 = (run watch (createAt reached.now) rest).2.credit before := by
  intro reached flushed before
  have start : flushed = (createAt reached.now).credit before :=
    step_flush (sweeper_run_of_none rfl script)
  rw [start, run_map_of_step watch_credit]
  exact ⟨rfl, rfl⟩

end Engine

end SharedState
