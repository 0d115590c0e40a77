import SharedState.Proofs.Engine.Locking
import SharedState.Proofs.Time

/-!
# Lifetimes to the nanosecond

A value is there from when it is written until its lifetime is over, and for
good if it has none or the clock cannot represent the end. What is left of a
lifetime is a promise in both directions: the key is there for exactly so long,
and a new lifetime of what is left changes nothing. For the first, the invariant
of the steps that leave a key alone is that what is under it is what was under
it and has not lapsed. For the second, no value that is there has a deadline
past the last instant of the clock, since no write gives it one.
-/

namespace SharedState

namespace Entry

/-- The deadline of a value can be represented. -/
def Timely (entry : Entry) : Prop :=
  ∀ due, entry.deadline = some due → due ≤ Instant.last

variable {entry : Entry} {now later : Instant}

theorem timely_create (now : Instant) (value : String) (lifetime : Duration) :
    (create now value lifetime).Timely := by
  intro due found
  obtain ⟨-, inside, rfl⟩ := deadline_eq_some_iff.mp found
  exact inside

/-- When a value is there that was written with a lifetime. -/
theorem isLapsed_create_eq_false_iff (now clock : Instant) (value : String)
    (lifetime : Duration) :
    (create now value lifetime).isLapsed clock = false ↔
      lifetime = 0 ∨ Instant.last < now + lifetime ∨ clock < now + lifetime := by
  rw [Bool.eq_false_iff, ne_eq, isLapsed_eq_true_iff]
  simp only [create, deadline_eq_some_iff]
  constructor
  · intro kept
    by_contra ended
    simp only [not_or, Nat.not_lt] at ended
    exact kept ⟨now + lifetime, ⟨ended.1, ended.2.1, rfl⟩, ended.2.2⟩
  · rintro kept ⟨due, ⟨ends, inside, rfl⟩, past⟩
    rcases kept with endless | outside | early
    · exact ends endless
    · exact Nat.not_lt_of_le inside outside
    · exact Nat.not_lt_of_le past early

/-- Which values never lapse, whatever the clock will show. -/
theorem never_lapses_iff (now : Instant) (value : String) (lifetime : Duration) :
    (∀ clock ≤ Instant.last, (create now value lifetime).isLapsed clock = false) ↔
      lifetime = 0 ∨ Instant.last < now + lifetime := by
  simp only [isLapsed_create_eq_false_iff]
  constructor
  · intro kept
    by_contra ended
    simp only [not_or, Nat.not_lt] at ended
    rcases kept (now + lifetime) ended.2 with endless | outside | early
    · exact ended.1 endless
    · exact Nat.not_lt_of_le ended.2 outside
    · exact Nat.lt_irrefl _ early
  · rintro (endless | outside) clock -
    · exact Or.inl endless
    · exact Or.inr (Or.inl outside)

/-- Seconds and nanoseconds give the deadline of a value, tell whether it has
come, and count down to it. -/
theorem create_split (now lifetime : SplitTime) (value : String) :
    let due := SplitTime.deadline now lifetime
    let entry := create now.total value lifetime.total
    entry.deadline = due.map SplitTime.total ∧
      ∀ clock : SplitTime, entry.isLapsed clock.total = due.any (SplitTime.atMost · clock) ∧
        entry.remaining clock.total =
          (due.map (SplitTime.since · clock)).map SplitTime.total := by
  intro due entry
  have counted : entry.deadline = due.map SplitTime.total :=
    (SplitTime.map_total_deadline now lifetime).symm
  refine ⟨counted, fun clock => ⟨?_, ?_⟩⟩
  · rw [isLapsed, counted]
    cases due with
    | none => rfl
    | some instant =>
        rw [Bool.eq_iff_iff, Option.map_some, Option.any_some, SplitTime.atMost_iff]
        exact decide_eq_true_iff
  · rw [remaining, counted]
    cases due with
    | none => rfl
    | some instant => exact congrArg some (SplitTime.total_since instant clock).symm

theorem lt_of_live (live : entry.isLapsed now = false) {due : Instant}
    (found : entry.deadline = some due) : now < due := by
  have ahead : ¬due ≤ now := by
    intro past
    rw [isLapsed_eq_true_iff.mpr ⟨due, found, past⟩] at live
    cases live
  exact Nat.lt_of_not_le ahead

/-- A value that is there has some of its lifetime left. -/
theorem pos_of_remaining (live : entry.isLapsed now = false) {left : Duration}
    (remains : entry.remaining now = some left) : 0 < left := by
  obtain ⟨due, found, rfl⟩ := Option.map_eq_some_iff.mp remains
  exact Nat.sub_pos_of_lt (lt_of_live live found)

/-- A value stays for as long as is left of its lifetime. -/
theorem not_isLapsed_later (order : now ≤ later) :
    (!entry.isLapsed later) = (entry.remaining now).all (later - now < ·) := by
  rw [not_isLapsed, remaining]
  cases entry.deadline with
  | none => rfl
  | some due =>
      rw [Bool.eq_iff_iff, Option.map_some, Option.all_some, Option.all_some, decide_eq_true_iff,
        decide_eq_true_iff]
      exact (Nat.sub_lt_sub_iff_right order).symm

theorem remaining_later (order : now ≤ later) :
    entry.remaining later = (entry.remaining now).map (· - (later - now)) := by
  rw [remaining, remaining, Option.map_map]
  congr 1
  funext due
  rw [Function.comp_apply, Nat.sub_sub, Nat.add_sub_of_le order]

/-- What is left of its lifetime gives a value the deadline that it has. -/
theorem create_remaining (timely : entry.Timely) (live : entry.isLapsed now = false) :
    create now entry.value ((entry.remaining now).getD 0) = entry := by
  obtain ⟨value, deadline⟩ := entry
  cases deadline with
  | none => rfl
  | some due =>
      have ahead : now < due := lt_of_live live rfl
      have again : now + (due - now) = due := Nat.add_sub_of_le (Nat.le_of_lt ahead)
      have kept : SharedState.deadline now (due - now) = some due :=
        deadline_eq_some_iff.mpr
          ⟨Nat.sub_ne_zero_of_lt ahead, again.symm ▸ timely due rfl, again.symm⟩
      exact congrArg (Entry.mk value) kept

/-- What has not lapsed later had not lapsed before. -/
theorem filter_later (order : now ≤ later) (found : Option Entry) :
    ((found.filter fun entry => !entry.isLapsed now).filter fun entry => !entry.isLapsed later) =
      found.filter fun entry => !entry.isLapsed later := by
  cases found with
  | none => rfl
  | some entry =>
      cases lapsed : entry.isLapsed now with
      | false => simp [Option.filter, lapsed]
      | true => simp [Option.filter, lapsed, isLapsed_mono order lapsed]

end Entry

namespace Vanishing

/-- What has not lapsed by the time of a map. -/
def spared (map : Vanishing) (found : Option Entry) : Option Entry :=
  found.filter fun entry => !entry.isLapsed map.now

variable {map : Vanishing} {key : String} {event : Event}

theorem held_put (map : Vanishing) (key value : String) (lifetime : Duration) :
    (map.put key value lifetime).held key = some (Entry.create map.now value lifetime) := by
  rw [Entry.create, deadline_eq_due]
  exact if_pos rfl

theorem held_put_origin {other value : String} {lifetime : Duration} {entry : Entry}
    (there : (map.put other value lifetime).held key = some entry) :
    map.held key = some entry ∨ entry = Entry.create map.now value lifetime := by
  rw [Entry.create, deadline_eq_due]
  by_cases same : key = other
  · exact Or.inr (by simpa [put, same, eq_comm] using there)
  · exact Or.inl (by simpa [put, same] using there)

/-- What is under a key after a step was there before it, or was written by it. -/
theorem held_step_origin {entry : Entry} (there : (map.step event).2.held key = some entry) :
    map.held key = some entry ∨ ∃ value lifetime, entry = Entry.create map.now value lifetime := by
  cases event with
  | call command =>
      cases command with
      | set other value lifetime =>
          exact (held_put_origin there).imp_right fun written => ⟨value, lifetime, written⟩
      | delete keys =>
          by_cases taken : key ∈ keys
          · simp [step, apply, taken] at there
          · exact Or.inl (by simpa [step, apply, taken] using there)
      | setIfAbsent other value lifetime =>
          by_cases held : map.contains other = true
          · exact Or.inl (by simpa [step, apply, held] using there)
          · rw [step, apply, if_neg held] at there
            exact (held_put_origin there).imp_right fun written => ⟨value, lifetime, written⟩
      | expire other lifetime =>
          cases found : map.held other with
          | none => exact Or.inl (by simpa [step, apply, found] using there)
          | some old =>
              simp only [step, apply, found] at there
              exact (held_put_origin there).imp_right fun written => ⟨old.value, lifetime, written⟩
      | lifetime other =>
          cases found : map.held other <;>
            exact Or.inl (by simpa [step, apply, found] using there)
      | get other => exact Or.inl there
      | contains other => exact Or.inl there
  | clear => cases there
  | advance duration => exact Or.inl (Option.filter_eq_some_iff.mp there).1

/-- A step that neither disturbs nor locks a key leaves under it what was under
it and has not lapsed. -/
theorem spared_held_step (calm : event.disturbs key = false) (idle : event.locks key = false) :
    (map.step event).2.spared ((map.step event).2.held key) =
      (map.step event).2.spared (map.held key) := by
  rcases held_step_cases map calm with
    ⟨value, lifetime, rfl, -⟩ | ⟨duration, rfl, later⟩ | same
  · simp [Event.locks] at idle
  · rw [later]
    exact Entry.filter_later (Nat.le_refl _) (map.held key)
  · rw [same]

end Vanishing

namespace Engine

/-- Whether a step neither writes under a key nor takes it away. -/
def Event.leaves (key : String) (event : Event) : Bool :=
  !event.disturbs key && !event.locks key

variable {engine : Engine} {event : Event} {key value : String} {lifetime : Duration}
  {entry : Entry} {steps : List Event}

/-! ## What time alone does to a key -/

theorem live?_step_of_leaves (leaves : event.leaves key = true) :
    (step engine event).2.live? key =
      (engine.live? key).filter fun entry => !entry.isLapsed (step engine event).2.now := by
  obtain ⟨calm, idle⟩ : event.disturbs key = false ∧ event.locks key = false := by
    simpa [Event.leaves] using leaves
  have kept : (step engine event).2.values.spared ((step engine event).2.live? key) =
      (step engine event).2.values.spared (engine.live? key) :=
    values_step (fun map => map.spared (map.held key) = map.spared (engine.live? key))
      (fun label means _ =>
        Vanishing.spared_held_step (by simpa [Event.disturbs, means] using calm)
          (by simpa [Event.locks, means] using idle))
      rfl
  exact (KeyValue.live?_later (Nat.le_refl _) _ key).trans kept

theorem live?_run_of_leaves (leaves : ∀ event ∈ steps, event.leaves key = true) :
    (run step engine steps).2.live? key =
      (engine.live? key).filter fun entry => !entry.isLapsed (run step engine steps).2.now := by
  have kept : ∀ {state : Engine} {event : Event}, event.leaves key = true →
      state.live? key = ((engine.live? key).filter fun entry => !entry.isLapsed state.now) →
      (step state event).2.live? key =
        (engine.live? key).filter fun entry => !entry.isLapsed (step state event).2.now := by
    intro state event left before
    rw [live?_step_of_leaves left, before, Entry.filter_later (now_le_step state event)]
  exact run_invariant_of_forall
    (fun state : Engine => state.live? key =
      (engine.live? key).filter fun entry => !entry.isLapsed state.now)
    kept (KeyValue.live?_later (Nat.le_refl _) _ key) leaves

/-! ## Deadlines are on the clock -/

theorem timely_run (regime : Option Duration) (script : List Event)
    (there : (run step (under regime) script).2.live? key = some entry) : entry.Timely := by
  have kept : ∀ (state : Engine) (event : Event),
      (∀ entry, state.values.held key = some entry → entry.Timely) →
      ∀ entry, (step state event).2.values.held key = some entry → entry.Timely := by
    intro state event before
    refine values_step (fun map => ∀ entry, map.held key = some entry → entry.Timely) ?_ before
    intro label _ before entry there
    rcases Vanishing.held_step_origin there with old | ⟨value, lifetime, rfl⟩
    · exact before entry old
    · exact Entry.timely_create _ value lifetime
  have start : ∀ entry, (under regime).values.held key = some entry → entry.Timely := by
    intro entry there
    have empty : (under regime).values = create.values :=
      congrArg Content.values (content_under regime none)
    rw [empty] at there
    cases there
  exact run_invariant kept start script entry there

/-! ## What calls do to a key and say about it -/

/-- A step that writes a value with a lifetime: over whatever is under the key,
because the key is free, or over the same value. -/
inductive Writes (engine : Engine) (key value : String) (lifetime : Duration) : Event → Prop where
  | set : Writes engine key value lifetime (.call (.value (.set key value lifetime)))
  | lock : engine.live? key = none → Writes engine key value lifetime (lock key value lifetime)
  | renew {entry : Entry} : engine.live? key = some entry → entry.value = value →
      Writes engine key value lifetime (.call (.value (.expire key lifetime)))

theorem live?_eq_held (engine : Engine) (key : String) :
    engine.live? key = engine.values.held key :=
  rfl

theorem isLapsed_of_live? (there : engine.live? key = some entry) :
    entry.isLapsed engine.now = false := by
  simpa using (Option.filter_eq_some_iff.mp there).2

theorem expire_of_live (there : engine.live? key = some entry) (lifetime : Duration) :
    (step engine (.call (.value (.expire key lifetime)))).1 = .done ∧
      (step engine (.call (.value (.expire key lifetime)))).2.live? key =
        some (Entry.create engine.now entry.value lifetime) := by
  obtain ⟨answers, follows⟩ := step_value engine (.expire key lifetime)
  rw [live?_eq_held] at there ⊢
  rw [answers, follows, Vanishing.step, Vanishing.apply, there]
  exact ⟨rfl, engine.values.held_put key entry.value lifetime⟩

theorem live?_of_writes (writes : engine.Writes key value lifetime event) :
    (step engine event).2.live? key = some (Entry.create engine.now value lifetime) := by
  cases writes with
  | set =>
      rw [live?_eq_held, (step_value engine _).2]
      exact engine.values.held_put key value lifetime
  | lock free => rw [live?_lock, free, Option.getD_none]
  | renew there same =>
      subst same
      exact (expire_of_live there lifetime).2

/-- Asking for a lifetime tells what is left of it and changes nothing. -/
theorem step_lifetime (engine : Engine) (key : String) :
    (step engine (.call (.value (.lifetime key)))).1 =
        (engine.live? key).elim .missing (fun entry => .lifetime (entry.remaining engine.now)) ∧
      (step engine (.call (.value (.lifetime key)))).2.values = engine.values := by
  obtain ⟨answers, follows⟩ := step_value engine (.lifetime key)
  rw [answers, follows, live?_eq_held, Vanishing.step, Vanishing.apply]
  cases engine.values.held key <;> exact ⟨rfl, rfl⟩

theorem live_of_get (read : (step engine (.call (.value (.get key)))).1 = .text value) :
    ∃ entry, engine.live? key = some entry ∧ entry.value = value := by
  rw [get_fst] at read
  cases there : engine.live? key with
  | none => simp [there, Answer.ofText?] at read
  | some entry => exact ⟨entry, rfl, by simpa [there, Answer.ofText?] using read⟩

/-! ## The promise of a lifetime -/

/-- A value is there from its writing until its lifetime is over. -/
theorem get_after_writing (writes : engine.Writes key value lifetime event)
    (leaves : ∀ event ∈ steps, event.leaves key = true) :
    let later := (run step (step engine event).2 steps).2
    (step later (.call (.value (.get key)))).1 =
      if lifetime = 0 ∨ Instant.last < engine.now + lifetime ∨ later.now < engine.now + lifetime
      then .text value else .missing := by
  intro later
  have there : later.live? key = (some (Entry.create engine.now value lifetime)).filter
      fun entry => !entry.isLapsed later.now := by
    rw [← live?_of_writes writes]
    exact live?_run_of_leaves leaves
  have stays := Entry.isLapsed_create_eq_false_iff engine.now later.now value lifetime
  have written : (Entry.create engine.now value lifetime).value = value := rfl
  simp only [get_fst, there, ← stays]
  cases lapsed : (Entry.create engine.now value lifetime).isLapsed later.now with
  | true => simp [Option.filter, lapsed, Answer.ofText?]
  | false => simp [Option.filter, lapsed, Answer.ofText?, written]

/-- A key that is there stays for as long as is left of its lifetime, and what
is left runs down with the clock. -/
theorem lifetime_runs_down (there : engine.live? key = some entry)
    (leaves : ∀ event ∈ steps, event.leaves key = true) :
    let later := (run step engine steps).2
    let passed := later.now - engine.now
    ((step later (.call (.value (.get key)))).1, (step later (.call (.value (.lifetime key)))).1) =
      if (entry.remaining engine.now).all (passed < ·) then
        (.text entry.value, .lifetime ((entry.remaining engine.now).map (· - passed)))
      else (.missing, .missing) := by
  intro later passed
  have order : engine.now ≤ later.now := now_le_run engine steps
  have kept : later.live? key = (some entry).filter fun entry => !entry.isLapsed later.now := by
    rw [← there]
    exact live?_run_of_leaves leaves
  rw [get_fst, (step_lifetime later key).1, kept, ← Entry.not_isLapsed_later order,
    ← Entry.remaining_later order]
  cases lapsed : entry.isLapsed later.now with
  | true => simp [Option.filter, lapsed, Answer.ofText?]
  | false => simp [Option.filter, lapsed, Answer.ofText?]

/-- Given as a new lifetime, what is left of a lifetime changes nothing. -/
theorem renew_remaining (there : engine.live? key = some entry) (timely : entry.Timely) :
    let asked := (step engine (.call (.value (.lifetime key)))).2
    let renewed :=
      step asked (.call (.value (.expire key ((entry.remaining engine.now).getD 0))))
    renewed.1 = .done ∧ renewed.2.live? key = some entry := by
  intro asked renewed
  have same : asked.values = engine.values := (step_lifetime engine key).2
  have still : asked.live? key = some entry :=
    (congrArg (fun map => map.held key) same).trans there
  have clock : asked.now = engine.now := congrArg Vanishing.now same
  obtain ⟨done, again⟩ := expire_of_live still ((entry.remaining engine.now).getD 0)
  rw [clock, Entry.create_remaining timely (isLapsed_of_live? there)] at again
  exact ⟨done, again⟩

/-- Lifetimes are exact. A value is gone at one reading of the clock and not
before it: seconds and nanoseconds give that reading, tell whether it has come
and count down to it as whole nanoseconds do, and there is none exactly if the
lifetime is zero or its end is past the last instant. Whatever the regime and
wherever a run leads, what is written under a key is read back from then on,
over every run of steps that leave the key alone, until its lifetime is over.
And what a key that is there says to be left of its lifetime is more than zero
and true: over such a run the key stays exactly if less than this passes, and
says then that as much less is left. Given back to the key at once as its new
lifetime, it leaves value and deadline as they were. -/
theorem lifetimes_exact (regime : Option Duration) (script : List Event) (key : String) :
    let reached := (run step (under regime) script).2
    let get : Event := .call (.value (.get key))
    let ask : Event := .call (.value (.lifetime key))
    (∀ (now lifetime : SplitTime) (value : String),
      let due := SplitTime.deadline now lifetime
      let entry := Entry.create now.total value lifetime.total
      ((∀ clock ≤ Instant.last, entry.isLapsed clock = false) ↔
        lifetime.total = 0 ∨ Instant.last < now.total + lifetime.total) ∧
      entry.deadline = due.map SplitTime.total ∧
      ∀ clock : SplitTime, entry.isLapsed clock.total = due.any (SplitTime.atMost · clock) ∧
        entry.remaining clock.total =
          (due.map (SplitTime.since · clock)).map SplitTime.total) ∧
    (∀ value lifetime event, reached.Writes key value lifetime event →
      ∀ rest, (∀ event ∈ rest, Event.leaves key event = true) →
        let later := (run step (step reached event).2 rest).2
        (step later get).1 =
          if lifetime = 0 ∨ Instant.last < reached.now + lifetime ∨
              later.now < reached.now + lifetime
          then .text value else .missing) ∧
    ∀ value, (step reached get).1 = .text value →
      ∃ remaining : Option Duration, (step reached ask).1 = .lifetime remaining ∧
        (∀ left, remaining = some left → 0 < left) ∧
        (∀ rest, (∀ event ∈ rest, Event.leaves key event = true) →
          let later := (run step reached rest).2
          let passed := later.now - reached.now
          ((step later get).1, (step later ask).1) =
            if remaining.all (passed < ·) then
              (.text value, .lifetime (remaining.map (· - passed)))
            else (.missing, .missing)) ∧
        let renewed :=
          step (step reached ask).2 (.call (.value (.expire key (remaining.getD 0))))
        renewed.1 = .done ∧ renewed.2.live? key = reached.live? key := by
  intro reached get ask
  refine ⟨?_, ?_, ?_⟩
  · intro now lifetime value due entry
    exact ⟨Entry.never_lapses_iff now.total value lifetime.total,
      Entry.create_split now lifetime value⟩
  · intro value lifetime event writes rest leaves
    exact get_after_writing writes leaves
  · intro value found
    obtain ⟨entry, there, rfl⟩ := live_of_get found
    refine ⟨entry.remaining reached.now, ?_, ?_, ?_, ?_⟩
    · rw [(step_lifetime reached key).1, there, Option.elim_some]
    · intro left
      exact Entry.pos_of_remaining (isLapsed_of_live? there)
    · intro rest leaves
      exact lifetime_runs_down there leaves
    · rw [there]
      exact renew_remaining there (timely_run regime script there)

/-- A lifetime of which a second and two nanoseconds are left, and one that ends
past the last instant. -/
theorem lifetimes_exact_carried :
    let reached :=
      (run step (under (some 7)) [.call (.value (.set "k" "v" 2000000001)), .advance 999999999]).2
    let get (key : String) : Event := .call (.value (.get key))
    let ask : Event := .call (.value (.lifetime "k"))
    let almost := (run step reached [get "k", .sweep, .advance 1000000001]).2
    let gone := (run step reached [.advance 1000000001, .stop, .advance 1]).2
    let renewed := step (step reached ask).2 (.call (.value (.expire "k" 1000000002)))
    let endless := (step reached (lock "l" "w" (Duration.ofSeconds 0xFFFFFFFFFFFFFFFF))).2
    (step reached ask).1 = .lifetime (some 1000000002) ∧
      ((step almost (get "k")).1, (step almost ask).1) = (.text "v", .lifetime (some 1)) ∧
      ((step gone (get "k")).1, (step gone ask).1) = (.missing, .missing) ∧
      renewed.2.live? "k" = reached.live? "k" ∧
      (step (run step endless [.advance Instant.last]).2 (get "l")).1 = .text "w" := by
  intro reached get ask almost gone renewed endless
  have found : (step reached (get "k")).1 = .text "v" := by decide
  have told : (step reached ask).1 = .lifetime (some 1000000002) := by decide
  have free : reached.live? "l" = none := by decide
  obtain ⟨remaining, answers, -, stays, again⟩ :=
    (lifetimes_exact (some 7) _ "k").2.2 "v" found
  obtain rfl : remaining = some 1000000002 := by simpa using answers.symm.trans told
  have written := (lifetimes_exact (some 7) _ "l").2.1 "w" (Duration.ofSeconds 0xFFFFFFFFFFFFFFFF)
    _ (.lock free) [.advance Instant.last] (by decide)
  refine ⟨told, ?_, ?_, again.2, ?_⟩
  · exact (stays [get "k", .sweep, .advance 1000000001] (by decide)).trans (by decide)
  · exact (stays [.advance 1000000001, .stop, .advance 1] (by decide)).trans (by decide)
  · exact written.trans (if_pos (Or.inr (Or.inl (by decide +kernel))))

end Engine

end SharedState
