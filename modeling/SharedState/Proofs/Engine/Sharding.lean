import SharedState.Proofs.Engine.Places
import SharedState.Proofs.Shards
import SharedState.Store

/-!
# A store in shards

The name spaces of a store are kept in shards. Every call on a key does to the
shard of that key what it would do to a table of all keys, and a deletion does so
key by key. The answers and the counts are therefore those of the store whose name
spaces are tables, and nothing can be told from them about the hash.
-/

namespace SharedState

variable {Result : Type}

/-! ## Calls on containers -/

/-- A call that acts on what is under a key is something done to the table. -/
theorem Table.confined_of_keyed {Value Kept Command : Type} {apply : Kept → Command → Answer × Kept}
    {tables : Kept → Table String Value} {key : Command → String}
    (keyed : Keyed apply (fun kept => (tables kept).get?) key)
    {keep : Table String Value → Kept} (same : ∀ table, tables (keep table) = table)
    (command : Command) :
    Confined (key command) fun table => Prod.map id tables (apply (keep table) command) := by
  obtain ⟨answer, next, acts⟩ := keyed command
  refine ⟨answer, next, fun table => ?_⟩
  have there := acts (keep table)
  simp only [same] at there
  exact there

/-! ## Values under a key -/

namespace KeyValue

variable {key : String}

/-- Something is done to values under one key. What is found there decides on the
result, on how many values are discarded and on what is there afterwards. -/
def Confined (key : String) (act : KeyValue → Result × KeyValue) : Prop :=
  ∃ (result : Option Entry → Result) (lapsed : Option Entry → Nat)
    (next : Option Entry → Option Entry), ∀ store,
    (act store).1 = result (store.entries.get? key) ∧
      (act store).2.discarded = store.discarded + lapsed (store.entries.get? key) ∧
      ∀ other, (act store).2.entries.get? other =
        if other = key then next (store.entries.get? key) else store.entries.get? other

/-- Two things that are done under a key one after the other. -/
theorem Confined.andThen {Further : Type} {first : KeyValue → Result × KeyValue}
    {second : Result → KeyValue → Further × KeyValue} (confined : Confined key first)
    (later : ∀ result, Confined key (second result)) :
    Confined key fun store => second (first store).1 (first store).2 := by
  obtain ⟨result, lapsed, next, acts⟩ := confined
  choose further more after goesOn using later
  refine ⟨fun found => further (result found) (next found),
    fun found => lapsed found + more (result found) (next found),
    fun found => after (result found) (next found), fun store => ?_⟩
  obtain ⟨same, counted, bound⟩ := acts store
  have there : (first store).2.entries.get? key = next (store.entries.get? key) := by
    rw [bound, if_pos rfl]
  obtain ⟨same', counted', bound'⟩ := goesOn (result (store.entries.get? key)) (first store).2
  rw [there] at same' counted'
  dsimp only
  rw [same]
  refine ⟨same', by rw [counted', counted, Nat.add_assoc], fun other => ?_⟩
  rw [bound', there, bound]
  by_cases here : other = key
  · rw [if_pos here, if_pos here]
  · rw [if_neg here, if_neg here, if_neg here]

theorem confined_pure (result : Result) : Confined key fun store => (result, store) :=
  ⟨fun _ => result, fun _ => 0, id,
    fun store => ⟨rfl, rfl, store.entries.get?_unchanged key⟩⟩

theorem confined_write (result : Result) (entry : Entry) :
    Confined key fun store => (result, store.write key entry) :=
  ⟨fun _ => result, fun _ => 0, fun _ => some entry,
    fun _ => ⟨rfl, rfl, fun _ => Table.get?_put ..⟩⟩

theorem confined_erase (result : Result) :
    Confined key fun store => (result, { store with entries := store.entries.erase key }) :=
  ⟨fun _ => result, fun _ => 0, fun _ => none,
    fun _ => ⟨rfl, rfl, fun _ => Table.get?_erase ..⟩⟩

theorem confined_find (now : Instant) (key : String) : Confined key (find now key) := by
  refine ⟨fun found => found.filter fun entry => !entry.isLapsed now,
    fun found => (found.any fun entry => entry.isLapsed now).toNat,
    fun found => found.filter fun entry => !entry.isLapsed now, fun store => ?_⟩
  unfold find
  cases found : store.entries.get? key with
  | none => exact ⟨rfl, rfl, Table.get?_of_absent found⟩
  | some entry =>
      cases lapsed : entry.isLapsed now with
      | true =>
          simp only [if_true, Option.filter, lapsed, Option.any_some, Bool.not_true]
          exact ⟨rfl, rfl, Table.get?_erase store.entries key⟩
      | false =>
          simp only [Option.filter, lapsed, Option.any_some, Bool.not_false, if_true]
          refine ⟨rfl, rfl, fun other => ?_⟩
          rw [← found]
          exact store.entries.get?_unchanged key other

/-- What is done depends on whether there is a live value. -/
theorem confined_of_find (now : Instant) {act absent : KeyValue → Result × KeyValue}
    {present : Entry → KeyValue → Result × KeyValue} (missed : Confined key absent)
    (hit : ∀ entry, Confined key (present entry))
    (shape : ∀ store, act store =
      match find now key store with
      | (none, left) => absent left
      | (some entry, left) => present entry left) : Confined key act := by
  have later (found : Option Entry) : Confined key (found.elim absent present) := by
    cases found with
    | none => exact missed
    | some entry => exact hit entry
  have both := (confined_find now key).andThen later
  have same : act = fun store =>
      (find now key store).1.elim absent present (find now key store).2 := by
    funext store
    rw [shape]
    rcases find now key store with ⟨_ | entry, left⟩ <;> rfl
  exact same ▸ both

theorem confined_get (now : Instant) (key : String) : Confined key (get now key) :=
  confined_of_find now (confined_pure _) (fun _ => confined_pure _) fun store => by
    rw [get]
    rcases find now key store with ⟨_ | entry, left⟩ <;> rfl

theorem confined_contains (now : Instant) (key : String) : Confined key (contains now key) :=
  confined_of_find now (confined_pure _) (fun _ => confined_pure _) fun store => by
    rw [contains]
    rcases find now key store with ⟨_ | entry, left⟩ <;> rfl

theorem confined_lifetime (now : Instant) (key : String) : Confined key (lifetime now key) :=
  confined_of_find now (confined_pure _) (fun _ => confined_pure _) fun _ => rfl

theorem confined_remove (now : Instant) (key : String) : Confined key (remove now key) :=
  confined_of_find now (confined_pure _) (fun _ => confined_erase _) fun _ => rfl

theorem confined_set (now : Instant) (key value : String) (lifetime : Duration) :
    Confined key (set now key value lifetime) :=
  confined_write _ _

theorem confined_setIfAbsent (now : Instant) (key value : String) (lifetime : Duration) :
    Confined key (setIfAbsent now key value lifetime) :=
  confined_of_find now (confined_write _ _) (fun _ => confined_pure _) fun store => by
    rw [setIfAbsent]
    rcases find now key store with ⟨_ | entry, left⟩ <;> rfl

theorem confined_expire (now : Instant) (key : String) (lifetime : Duration) :
    Confined key (expire now key lifetime) :=
  confined_of_find now (confined_pure _) (fun _ => confined_write _ _) fun _ => rfl

end KeyValue

/-! ## A store in shards -/

/-- A store whose name spaces are in shards. -/
structure ShardedStore where
  values : Shards Entry
  /-- How many lapsed values were discarded, whichever shard they were in. -/
  discarded : Nat
  hashes : Shards (Table String String)
  sets : Shards NameSet
  rankings : Shards Ranking
  lists : Shards (List String)

namespace ShardedStore

variable (hash : String → Nat)

/-- A store that keeps nothing. -/
def empty : ShardedStore := ⟨.empty, 0, .empty, .empty, .empty, .empty⟩

/-- Does something to the values in the shard of a key. -/
def accessValues (key : String) (act : KeyValue → Result × KeyValue) (store : ShardedStore) :
    Result × ShardedStore :=
  let ((result, lapsed), values) := store.values.access hash key fun entries =>
    let (result, left) := act ⟨entries, 0⟩
    ((result, left.discarded), left.entries)
  (result, { store with values, discarded := store.discarded + lapsed })

/-- Takes keys out one after the other, each from its shard: how many were live. -/
def removeAll (now : Instant) : List String → ShardedStore → Nat × ShardedStore
  | [], store => (0, store)
  | key :: rest, store =>
      let (live, store) := store.accessValues hash key (KeyValue.remove now key)
      let (others, store) := store.removeAll now rest
      (live.toNat + others, store)

/-- Carries out a call on values. -/
def applyValues (now : Instant) (store : ShardedStore) : KeyValue.Command → Answer × ShardedStore
  | .get key => store.accessValues hash key (KeyValue.get now key)
  | .set key value lifetime => store.accessValues hash key (KeyValue.set now key value lifetime)
  | .delete keys =>
      let (live, store) := store.removeAll hash now keys
      (.count live, store)
  | .contains key => store.accessValues hash key (KeyValue.contains now key)
  | .setIfAbsent key value lifetime =>
      store.accessValues hash key (KeyValue.setIfAbsent now key value lifetime)
  | .expire key lifetime => store.accessValues hash key (KeyValue.expire now key lifetime)
  | .lifetime key => store.accessValues hash key (KeyValue.lifetime now key)

/-- Carries out a data call at an instant. -/
def apply (now : Instant) (store : ShardedStore) : Call → Answer × ShardedStore
  | .value command => store.applyValues hash now command
  | .hash command =>
      let (answer, hashes) := store.hashes.access hash command.key fun tables =>
        Prod.map id Hashes.tables ((Hashes.mk tables).apply command)
      (answer, { store with hashes })
  | .set command =>
      let (answer, sets) := store.sets.access hash command.key fun tables =>
        Prod.map id Sets.tables ((Sets.mk tables).apply command)
      (answer, { store with sets })
  | .ranking command =>
      let (answer, rankings) := store.rankings.access hash command.key fun tables =>
        Prod.map id Rankings.tables ((Rankings.mk tables).apply command)
      (answer, { store with rankings })
  | .list command =>
      let (answer, lists) := store.lists.access hash command.key fun tables =>
        Prod.map id Lists.tables ((Lists.mk tables).apply command)
      (answer, { store with lists })

/-- Discards every lapsed value, shard by shard: how many there were. -/
def sweep (now : Instant) (store : ShardedStore) : Nat × ShardedStore :=
  let (lapsed, values) := store.values.retain fun _ entry => !entry.isLapsed now
  (lapsed, { store with values, discarded := store.discarded + lapsed })

/-- Forgets everything but the count of discarded values. -/
def flush (store : ShardedStore) : ShardedStore where
  values := store.values.clear
  discarded := store.discarded
  hashes := store.hashes.clear
  sets := store.sets.clear
  rankings := store.rankings.clear
  lists := store.lists.clear

/-- Counts what is kept. -/
def counts (store : ShardedStore) : Store.Counts where
  values := store.values.size
  hashes := store.hashes.size
  sets := store.sets.size
  rankings := store.rankings.size
  lists := store.lists.size
  discarded := store.discarded

/-! ### What the shards of a store make up -/

variable {hash} {store : Store} {sharded : ShardedStore}

/-- The shards of each name space make up its table, and as many values were
discarded. -/
structure MakesUp (hash : String → Nat) (store : Store) (sharded : ShardedStore) : Prop where
  values : Shards.MakesUp hash store.values.entries sharded.values
  discarded : sharded.discarded = store.values.discarded
  hashes : Shards.MakesUp hash store.hashes.tables sharded.hashes
  sets : Shards.MakesUp hash store.sets.tables sharded.sets
  rankings : Shards.MakesUp hash store.rankings.tables sharded.rankings
  lists : Shards.MakesUp hash store.lists.tables sharded.lists

theorem makesUp_empty (hash : String → Nat) : MakesUp hash Store.empty empty where
  values := Shards.makesUp_empty hash
  discarded := rfl
  hashes := Shards.makesUp_empty hash
  sets := Shards.makesUp_empty hash
  rankings := Shards.makesUp_empty hash
  lists := Shards.makesUp_empty hash

namespace MakesUp

/-- A count of its own for one shard comes to the same as the common count. -/
theorem accessValues (makesUp : MakesUp hash store sharded) {key : String}
    {act : KeyValue → Result × KeyValue} (confined : KeyValue.Confined key act) :
    (sharded.accessValues hash key act).1 = (act store.values).1 ∧
      MakesUp hash { store with values := (act store.values).2 }
        (sharded.accessValues hash key act).2 := by
  obtain ⟨result, lapsed, next, acts⟩ := confined
  have onTables : Table.Confined key fun entries =>
      (((act ⟨entries, 0⟩).1, (act ⟨entries, 0⟩).2.discarded), (act ⟨entries, 0⟩).2.entries) :=
    ⟨fun found => (result found, 0 + lapsed found), next, fun entries =>
      ⟨Prod.ext (acts _).1 (acts _).2.1, (acts _).2.2⟩⟩
  obtain ⟨same, left⟩ := makesUp.values.access onTables
  obtain ⟨answered, counted, bound⟩ := acts store.values
  obtain ⟨answered', counted', bound'⟩ := acts ⟨store.values.entries, 0⟩
  refine ⟨?_, { makesUp with values := left.of_get?_eq fun other => ?_, discarded := ?_ }⟩
  · exact (congrArg Prod.fst same).trans (answered'.trans answered.symm)
  · rw [bound', bound]
  · have added : (sharded.accessValues hash key act).2.discarded =
        sharded.discarded + (act ⟨store.values.entries, 0⟩).2.discarded :=
      congrArg (sharded.discarded + ·) (congrArg Prod.snd same)
    rw [added, counted', counted, makesUp.discarded, Nat.zero_add]

theorem removeAll (makesUp : MakesUp hash store sharded) (now : Instant) (keys : List String) :
    (sharded.removeAll hash now keys).1 = (store.values.removeAll now keys).1 ∧
      MakesUp hash { store with values := (store.values.removeAll now keys).2 }
        (sharded.removeAll hash now keys).2 := by
  induction keys generalizing store sharded with
  | nil => exact ⟨rfl, makesUp⟩
  | cons key rest ih =>
      obtain ⟨live, left⟩ := makesUp.accessValues (KeyValue.confined_remove now key)
      obtain ⟨others, final⟩ := ih left
      exact ⟨congrArg₂ (fun removed further => removed.toNat + further) live others, final⟩

theorem applyValues (makesUp : MakesUp hash store sharded) (now : Instant)
    (command : KeyValue.Command) :
    (sharded.applyValues hash now command).1 = (store.values.apply now command).1 ∧
      MakesUp hash { store with values := (store.values.apply now command).2 }
        (sharded.applyValues hash now command).2 := by
  cases command with
  | get key => exact makesUp.accessValues (KeyValue.confined_get now key)
  | set key value lifetime =>
      exact makesUp.accessValues (KeyValue.confined_set now key value lifetime)
  | delete keys =>
      obtain ⟨live, left⟩ := makesUp.removeAll now keys
      exact ⟨congrArg Answer.count live, left⟩
  | contains key => exact makesUp.accessValues (KeyValue.confined_contains now key)
  | setIfAbsent key value lifetime =>
      exact makesUp.accessValues (KeyValue.confined_setIfAbsent now key value lifetime)
  | expire key lifetime => exact makesUp.accessValues (KeyValue.confined_expire now key lifetime)
  | lifetime key => exact makesUp.accessValues (KeyValue.confined_lifetime now key)

/-- A call is answered alike, and the shards still make up the tables. -/
theorem apply (makesUp : MakesUp hash store sharded) (now : Instant) (call : Call) :
    (sharded.apply hash now call).1 = (store.apply now call).1 ∧
      MakesUp hash (store.apply now call).2 (sharded.apply hash now call).2 := by
  cases call with
  | value command => exact makesUp.applyValues now command
  | hash command =>
      obtain ⟨same, left⟩ := makesUp.hashes.access
        (Table.confined_of_keyed keyed_hashes (fun _ => rfl) command)
      exact ⟨same, { makesUp with hashes := left }⟩
  | set command =>
      obtain ⟨same, left⟩ := makesUp.sets.access
        (Table.confined_of_keyed keyed_sets (fun _ => rfl) command)
      exact ⟨same, { makesUp with sets := left }⟩
  | ranking command =>
      obtain ⟨same, left⟩ := makesUp.rankings.access
        (Table.confined_of_keyed keyed_rankings (fun _ => rfl) command)
      exact ⟨same, { makesUp with rankings := left }⟩
  | list command =>
      obtain ⟨same, left⟩ := makesUp.lists.access
        (Table.confined_of_keyed keyed_lists (fun _ => rfl) command)
      exact ⟨same, { makesUp with lists := left }⟩

theorem sweep (makesUp : MakesUp hash store sharded) (now : Instant) :
    (sharded.sweep now).1 = (store.sweep now).1 ∧
      MakesUp hash (store.sweep now).2 (sharded.sweep now).2 := by
  have lapsed := makesUp.values.retain_fst fun _ entry => !entry.isLapsed now
  refine ⟨lapsed, { makesUp with values := makesUp.values.retain_snd _, discarded := ?_ }⟩
  exact congrArg₂ (· + ·) makesUp.discarded lapsed

theorem flush (makesUp : MakesUp hash store sharded) : MakesUp hash store.flush sharded.flush where
  values := Shards.makesUp_clear hash _
  discarded := makesUp.discarded
  hashes := Shards.makesUp_clear hash _
  sets := Shards.makesUp_clear hash _
  rankings := Shards.makesUp_clear hash _
  lists := Shards.makesUp_clear hash _

theorem counts_eq (makesUp : MakesUp hash store sharded) : sharded.counts = store.counts := by
  simp only [counts, Store.counts, makesUp.values.size_eq, makesUp.hashes.size_eq,
    makesUp.sets.size_eq, makesUp.rankings.size_eq, makesUp.lists.size_eq, makesUp.discarded]
  rfl

end MakesUp

end ShardedStore

/-! ## Runs -/

namespace Store

/-- Something that is done with a store. -/
inductive Operation where
  | call (now : Instant) (call : Call)
  | sweep (now : Instant)
  | flush

/-- Carries out an operation: its answer, and what is kept after it. -/
def operate (store : Store) : Operation → (Answer × Counts) × Store
  | .call now call =>
      let (answer, store) := store.apply now call
      ((answer, store.counts), store)
  | .sweep now =>
      let (lapsed, store) := store.sweep now
      ((.count lapsed, store.counts), store)
  | .flush => ((.done, store.flush.counts), store.flush)

end Store

namespace ShardedStore

/-- The same with a store in shards. -/
def operate (hash : String → Nat) (store : ShardedStore) :
    Store.Operation → (Answer × Store.Counts) × ShardedStore
  | .call now call =>
      let (answer, store) := store.apply hash now call
      ((answer, store.counts), store)
  | .sweep now =>
      let (lapsed, store) := store.sweep now
      ((.count lapsed, store.counts), store)
  | .flush => ((.done, store.flush.counts), store.flush)

theorem MakesUp.operate {hash : String → Nat} {store : Store} {sharded : ShardedStore}
    (makesUp : MakesUp hash store sharded) (operation : Store.Operation) :
    (sharded.operate hash operation).1 = (store.operate operation).1 ∧
      MakesUp hash (store.operate operation).2 (sharded.operate hash operation).2 := by
  cases operation with
  | call now call =>
      obtain ⟨same, left⟩ := makesUp.apply now call
      exact ⟨Prod.ext same left.counts_eq, left⟩
  | sweep now =>
      obtain ⟨same, left⟩ := makesUp.sweep now
      exact ⟨Prod.ext (congrArg Answer.count same) left.counts_eq, left⟩
  | flush => exact ⟨Prod.ext rfl makesUp.flush.counts_eq, makesUp.flush⟩

/-- Whatever the hash is, a store in shards shows what a store of tables shows:
the same answers to the same operations, and the same counts after each. -/
theorem run_operate_eq (hash : String → Nat) (operations : List Store.Operation) :
    (run (operate hash) empty operations).1 = (run Store.operate Store.empty operations).1 := by
  have follows : ∀ {store : Store} {sharded : ShardedStore}, MakesUp hash store sharded →
      (run (operate hash) sharded operations).1 = (run Store.operate store operations).1 := by
    induction operations with
    | nil => exact fun _ => rfl
    | cons operation rest ih =>
        intro store sharded makesUp
        obtain ⟨same, left⟩ := makesUp.operate operation
        exact congrArg₂ List.cons same (ih left)
  exact follows (makesUp_empty hash)

end ShardedStore

end SharedState
