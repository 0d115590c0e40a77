import SharedState.Engine
import SharedState.Proofs.KeyValue.Vanishing

/-!
# Reclaiming memory

A sweep discards lapsed entries, and nothing else depends on whether or when
it happens. What data calls can tell of an engine is its content: the values
that are there and all containers. Sweeps leave the content alone, whether
they are asked for or due, and so does stopping the sweeper. Two engines under
different regimes that are put to the same data calls therefore give the same
answers.
-/

namespace SharedState

/-- What data calls can tell of an engine. -/
structure Content where
  values : Vanishing
  hashes : Hashes
  sets : Sets
  rankings : Rankings
  lists : Lists

namespace Content

/-- A step that is not about reclaiming memory. -/
inductive Event where
  | call (call : Call)
  | flush
  | advance (duration : Duration)
deriving DecidableEq

/-- Answers a data call. -/
def apply (content : Content) : Call → Answer × Content
  | .value command =>
      let (answer, values) := content.values.apply command
      (answer, { content with values })
  | .hash command =>
      let (answer, hashes) := content.hashes.apply command
      (answer, { content with hashes })
  | .set command =>
      let (answer, sets) := content.sets.apply command
      (answer, { content with sets })
  | .ranking command =>
      let (answer, rankings) := content.rankings.apply command
      (answer, { content with rankings })
  | .list command =>
      let (answer, lists) := content.lists.apply command
      (answer, { content with lists })

/-- Forgets everything but the time. -/
def flush (content : Content) : Content :=
  ⟨{ content.values with held := fun _ => none }, .empty, .empty, .empty, .empty⟩

/-- Takes one step. -/
def step (content : Content) : Event → Answer × Content
  | .call call => content.apply call
  | .flush => (.done, content.flush)
  | .advance duration => (.done, { content with values := content.values.advance duration })

end Content

namespace Engine

/-- An engine that is swept at the given interval, or only when told to. -/
def under : Option Duration → Engine
  | none => create
  | some interval => createSwept interval

/-- What a step means to the content: reclaiming means nothing. -/
def Event.data? : Event → Option Content.Event
  | .call asked => some (.call asked)
  | .flush => some .flush
  | .advance duration => some (.advance duration)
  | .sweep => none
  | .stop => none

/-- The content of a store at an instant. -/
def contentOf (now : Instant) (store : Store) : Content :=
  ⟨KeyValue.vanishing (now, store.values), store.hashes, store.sets, store.rankings, store.lists⟩

/-- The content of an engine. -/
def content (engine : Engine) : Content := contentOf engine.now engine.store

/-! ## Reclaiming leaves the content alone -/

@[simp]
theorem contentOf_sweep (now : Instant) (store : Store) :
    contentOf now (store.sweep now).2 = contentOf now store := by
  simp [contentOf, Store.sweep]

@[simp]
theorem content_settleBy (timer : Timer) (signalFirst : Bool) (engine : Engine) :
    (engine.settleBy timer signalFirst).content = engine.content := by
  unfold settleBy
  cases engine.sweeper with
  | none => rfl
  | some sweeper =>
      cases sweeps : (sweeper.turn timer signalFirst engine.now).1 with
      | true =>
          simp only [sweeps, if_true]
          exact contentOf_sweep engine.now engine.store
      | false =>
          simp only [sweeps, Bool.false_eq_true, if_false]
          rfl

/-! ## Data calls depend on the content only -/

theorem contentOf_apply (now : Instant) (store : Store) (call : Call) :
    ((store.apply now call).1, contentOf now (store.apply now call).2) =
      (contentOf now store).apply call := by
  cases call with
  | value command =>
      have answers := KeyValue.apply_fst now store.values command
      have follows := KeyValue.vanishing_apply now store.values command
      simp only [Store.apply, contentOf, Content.apply, answers, follows]
  | hash command => rfl
  | set command => rfl
  | ranking command => rfl
  | list command => rfl

/-- What a step does itself, before the sweeper has its turn. -/
theorem content_perform {event : Event} {data : Content.Event} (engine : Engine)
    (means : event.data? = some data) :
    ((engine.perform event).1, (engine.perform event).2.content) = engine.content.step data := by
  cases event with
  | call call =>
      cases means
      exact contentOf_apply engine.now engine.store call
  | flush =>
      cases means
      rfl
  | advance duration =>
      cases means
      have follows := KeyValue.vanishing_advance engine.now engine.store.values duration
      simp only [perform, content, contentOf, Content.step, follows]
  | sweep => cases means
  | stop => cases means

theorem content_perform_of_none {event : Event} (engine : Engine)
    (means : event.data? = none) : (engine.perform event).2.content = engine.content := by
  cases event with
  | sweep => exact contentOf_sweep engine.now engine.store
  | stop => rfl
  | call _ => cases means
  | flush => cases means
  | advance _ => cases means

/-- Under every regime an engine is its content to whoever makes data calls. -/
theorem refines_content :
    Refines step (fun _ => True) content Event.data? id Content.step where
  kept _ := trivial
  result {engine _ _} _ means := congrArg Prod.fst (content_perform engine means)
  next {engine _ _} _ means :=
    (content_settleBy ..).trans (congrArg Prod.snd (content_perform engine means))
  hidden {engine _} _ means :=
    (content_settleBy ..).trans (content_perform_of_none engine means)

@[simp]
theorem content_createSweptBy (timer : Timer) (interval : Duration) :
    (createSweptBy timer interval).content = create.content := by
  rw [createSweptBy, content_settleBy]
  rfl

theorem content_under (first second : Option Duration) :
    (under first).content = (under second).content := by
  cases first <;> cases second <;> simp only [under, createSwept, content_createSweptBy]

/-- What is counted of the containers is counted of the content. -/
theorem counts_eq_of_content {left right : Engine} (same : left.content = right.content) :
    left.store.counts =
      { right.store.counts with
        values := left.store.counts.values
        discarded := left.store.counts.discarded } := by
  have hashes := congrArg Content.hashes same
  have sets := congrArg Content.sets same
  have rankings := congrArg Content.rankings same
  have lists := congrArg Content.lists same
  simp only [content, contentOf] at hashes sets rankings lists
  simp only [Store.counts, hashes, sets, rankings, lists]

/-- Sweeping is not observable. Take two engines, each without a sweeper or
with one at any interval, and two scripts with the same data calls, flushes
and passing of time, between which sweeps are asked for and the sweeper is
stopped anywhere. Each data call is answered alike, and in the end the counts
differ at most in the values in memory and in those discarded. -/
theorem reclaiming_unobservable (first second : Option Duration) {left right : List Event}
    (same : left.filterMap Event.data? = right.filterMap Event.data?) :
    observed Event.data? id left (run step (under first) left).1 =
        observed Event.data? id right (run step (under second) right).1 ∧
      (run step (under first) left).2.store.counts =
        { (run step (under second) right).2.store.counts with
          values := (run step (under first) left).2.store.counts.values
          discarded := (run step (under first) left).2.store.counts.discarded } := by
  have start := content_under first second
  constructor
  · exact refines_content.observed_run_congr trivial trivial start same
  · apply counts_eq_of_content
    rw [refines_content.view_run trivial, refines_content.view_run trivial, start, same]

/-- A script that meets a lapsed value late, and one in which it is swept. -/
theorem reclaiming_unobservable_lapsed :
    let late : List Event :=
      [.call (.value (.set "k" "v" 5)), .advance 9, .call (.value (.setIfAbsent "k" "w" 0)),
        .call (.value (.get "k"))]
    let swept : List Event :=
      [.call (.value (.set "k" "v" 5)), .advance 9, .sweep, .stop,
        .call (.value (.setIfAbsent "k" "w" 0)), .sweep, .call (.value (.get "k"))]
    late.filterMap Event.data? = swept.filterMap Event.data? ∧
      observed Event.data? id late (run step (under none) late).1 =
        observed Event.data? id swept (run step (under (some 7)) swept).1 ∧
      (run step (under none) late).2.store.counts =
        { (run step (under (some 7)) swept).2.store.counts with
          values := (run step (under none) late).2.store.counts.values
          discarded := (run step (under none) late).2.store.counts.discarded } :=
  ⟨rfl, reclaiming_unobservable none (some 7) rfl⟩

end Engine

end SharedState
