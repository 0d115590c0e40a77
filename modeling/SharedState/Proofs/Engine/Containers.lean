import SharedState.Proofs.Engine.Likeness
import SharedState.Proofs.Tables

/-!
# No container is empty

A container comes into being with the first thing that is put into it and is
gone with the last. The keys that are counted are therefore those under which a
listing shows something; a key comes into use only by a call that puts something
under it; and a place at which nothing is shown is as if it had never been named,
whatever was done there before and whatever is done afterwards.
-/

namespace SharedState

/-- The call that lists what is at a place. -/
def Place.listing (place : Place) : Call :=
  match place.part with
  | .values => .value (.get place.key)
  | .hashes => .hash (.list place.key)
  | .sets => .set (.list place.key)
  | .rankings => .ranking (.members place.key 0 (-1))
  | .lists => .list (.range place.key 0 (-1))

/-- Whether an answer shows that nothing is there. -/
def Answer.isBlank : Answer → Bool
  | .missing => true
  | .fields [] => true
  | .members [] => true
  | _ => false

namespace Content

/-- There is something in every container. -/
structure Populated (content : Content) : Prop where
  hashes : content.hashes.tables.All fun table => table.isEmpty = false
  sets : content.sets.tables.All fun names => names.isEmpty = false
  rankings : content.rankings.tables.All fun ranking => ranking.placings.isEmpty = false
  lists : content.lists.tables.All fun elements => elements.isEmpty = false

end Content

/-! ## Containers stay populated -/

theorem Hashes.populated_apply {hashes : Hashes} (command : Hashes.Command)
    (populated : hashes.tables.All fun table => table.isEmpty = false) :
    (hashes.apply command).2.tables.All fun table => table.isEmpty = false := by
  cases command with
  | put key field value => exact populated.put key (Table.isEmpty_put ..)
  | get key field => exact populated
  | list key => exact populated
  | remove key fields =>
      simp only [apply, remove]
      cases hashes.tables.get? key with
      | none => exact populated
      | some table => exact populated.replace key id

/-- Names that are added are there. -/
theorem NameSet.isEmpty_insertAll (names : NameSet) (added : List String) :
    (insertAll names added).2.isEmpty = (names.isEmpty && added.isEmpty) := by
  induction added generalizing names with
  | nil => exact (Bool.and_true _).symm
  | cons name rest ih => simp [insertAll, ih]

theorem Sets.populated_apply {sets : Sets} (command : Sets.Command)
    (populated : sets.tables.All fun names => names.isEmpty = false) :
    (sets.apply command).2.tables.All fun names => names.isEmpty = false := by
  cases command with
  | add key names =>
      simp only [apply, add]
      cases nothing : names.isEmpty with
      | true => exact populated
      | false => exact populated.put key (by simp [NameSet.isEmpty_insertAll, nothing])
  | remove key names =>
      simp only [apply, remove]
      cases sets.tables.get? key with
      | none => exact populated
      | some present => exact populated.replace key id
  | list key => exact populated
  | contains key name => exact populated

theorem Ranking.isEmpty_place (ranking : Ranking) (member : String) (score : Score) :
    (ranking.place member score).placings.isEmpty = false := by
  obtain ⟨placing, there, -⟩ : ∃ placing ∈ Table.rebind ranking.placings member score,
      placing.1 = member := List.mem_map.mp (Table.mem_keys_rebind.mpr (Or.inr rfl))
  exact List.isEmpty_eq_false_iff_exists_mem.mpr ⟨placing, Sorted.mem_sort.mpr there⟩

theorem Rankings.populated_apply {rankings : Rankings} (command : Rankings.Command)
    (populated : rankings.tables.All fun ranking => ranking.placings.isEmpty = false) :
    (rankings.apply command).2.tables.All fun ranking => ranking.placings.isEmpty = false := by
  cases command with
  | place key score member =>
      simp only [apply, place]
      cases score.isNaN with
      | true => exact populated
      | false => exact populated.put key (Ranking.isEmpty_place ..)
  | members key start stop => exact populated
  | placings key start stop => exact populated
  | score key member => exact populated
  | remove key members =>
      simp only [apply, remove]
      cases rankings.tables.get? key with
      | none => exact populated
      | some ranking => exact populated.replace key id

/-- What is cut out of a sequence is not empty. -/
theorem IndexRange.isEmpty_cut {Element : Type} {elements : List Element} {start stop : Int}
    {range : IndexRange} (resolved : resolve? elements.length start stop = some range) :
    (range.cut elements).isEmpty = false := by
  obtain ⟨-, -, ordered, inside⟩ := resolve?_eq_some_iff.mp resolved
  rw [List.isEmpty_eq_false_iff, ← List.length_pos_iff, cut, List.length_drop, List.length_take]
  omega

theorem Lists.populated_apply {lists : Lists} (command : Lists.Command)
    (populated : lists.tables.All fun elements => elements.isEmpty = false) :
    (lists.apply command).2.tables.All fun elements => elements.isEmpty = false := by
  cases command with
  | push key values =>
      simp only [apply, push]
      cases nothing : values.isEmpty with
      | true => exact populated
      | false =>
          apply populated.put key
          rw [pushAll_eq, List.isEmpty_eq_false_iff]
          exact List.append_ne_nil_of_left_ne_nil
            (mt List.reverse_eq_nil_iff.mp (List.isEmpty_eq_false_iff.mp nothing)) _
  | range key start stop => exact populated
  | trim key start stop =>
      simp only [apply, trim]
      cases lists.tables.get? key with
      | none => exact populated
      | some elements =>
          simp only
          cases resolved : IndexRange.resolve? elements.length start stop with
          | none => exact populated.erase key
          | some range => exact populated.put key (IndexRange.isEmpty_cut resolved)
  | length key => exact populated

namespace Content

theorem populated_flush (content : Content) : content.flush.Populated where
  hashes := Table.all_empty _
  sets := Table.all_empty _
  rankings := Table.all_empty _
  lists := Table.all_empty _

theorem populated_step (content : Content) (event : Event) (populated : content.Populated) :
    (content.step event).2.Populated := by
  cases event with
  | call call =>
      cases call with
      | value command => exact { populated with }
      | hash command =>
          exact { populated with hashes := Hashes.populated_apply command populated.hashes }
      | set command =>
          exact { populated with sets := Sets.populated_apply command populated.sets }
      | ranking command =>
          exact { populated with
            rankings := Rankings.populated_apply command populated.rankings }
      | list command =>
          exact { populated with lists := Lists.populated_apply command populated.lists }
  | flush => exact content.populated_flush
  | advance duration => exact { populated with }

end Content

/-! ## What a listing shows -/

@[simp]
theorem Answer.isBlank_fields (bindings : List (String × String)) :
    (fields bindings).isBlank = bindings.isEmpty := by
  cases bindings <;> rfl

@[simp]
theorem Answer.isBlank_members (names : List String) :
    (members names).isBlank = names.isEmpty := by
  cases names <;> rfl

theorem Sorted.isEmpty_sort {Element : Type} (precedes : Element → Element → Bool)
    (elements : List Element) : (sort precedes elements).isEmpty = elements.isEmpty :=
  (perm_sort precedes elements).isEmpty_eq

namespace Content

/-- A listing shows nothing exactly where nothing is. -/
theorem isBlank_listing {content : Content} (populated : content.Populated) (place : Place) :
    (content.apply place.listing).1.isBlank = content.isVacant place := by
  obtain ⟨part, key⟩ := place
  cases part with
  | values =>
      simp only [Place.listing, apply, Vanishing.apply, isVacant, cell]
      cases content.values.held key <;> rfl
  | hashes =>
      have shown := populated.hashes.vacant_getD .empty rfl key
      exact (Answer.isBlank_fields _).trans ((Sorted.isEmpty_sort ..).trans shown)
  | sets =>
      have shown := populated.sets.vacant_getD .empty rfl key
      have listed := List.isEmpty_map (f := Prod.fst) (l := (content.sets.members key).bindings)
      exact (Answer.isBlank_members _).trans ((Sorted.isEmpty_sort ..).trans (listed.trans shown))
  | rankings =>
      have shown := populated.rankings.vacant_getD .empty rfl key
      simp only [Place.listing, apply, Rankings.apply, Rankings.select, IndexRange.select_all,
        Answer.isBlank_members, List.isEmpty_map]
      exact shown
  | lists =>
      have shown := populated.lists.vacant_getD [] rfl key
      simp only [Place.listing, apply, Lists.apply, Lists.range, IndexRange.select_all,
        Answer.isBlank_members]
      exact shown

end Content

/-! ## What an engine shows -/

namespace Engine

/-- Whether a listing shows something at a place. -/
def shows (engine : Engine) (place : Place) : Bool :=
  !(step engine (.call place.listing)).1.isBlank

/-- A script that does what another one does, but for the calls on a place. Memory
may be swept at other times. -/
def Omits (place : Place) (script alone : List Event) : Prop :=
  alone.filterMap Event.data? =
    (script.filterMap Event.data?).filter (Content.Event.spares place)

instance (place : Place) (script alone : List Event) : Decidable (Omits place script alone) :=
  inferInstanceAs (Decidable (_ = _))

variable {engine : Engine} {place : Place} {event : Event}

theorem shows_eq (populated : engine.content.Populated) (place : Place) :
    engine.shows place = !engine.content.isVacant place := by
  have means : Event.data? (.call place.listing) = some (.call place.listing) := rfl
  have answers : (step engine (.call place.listing)).1 =
      (engine.content.apply place.listing).1 := refines_content.result trivial means
  rw [shows, answers, Content.isBlank_listing populated]

/-- The content after a step is that after the step that it means, if it means
one. -/
theorem content_step (Holds : Content → Prop)
    (kept : ∀ data, event.data? = some data → Holds (engine.content.step data).2)
    (holds : Holds engine.content) : Holds (step engine event).2.content := by
  cases means : event.data? with
  | none => exact (refines_content.hidden trivial means).symm ▸ holds
  | some data => exact (refines_content.next trivial means).symm ▸ kept data means

theorem populated_step (populated : engine.content.Populated) :
    (step engine event).2.content.Populated :=
  content_step Content.Populated (fun data _ => Content.populated_step _ data populated) populated

theorem populated_under (regime : Option Duration) : (under regime).content.Populated := by
  rw [content_under regime none]
  exact Content.populated_flush create.content

theorem populated_run (regime : Option Duration) (script : List Event) :
    (run step (under regime) script).2.content.Populated := by
  have kept : ∀ (engine : Engine) (event : Event), engine.content.Populated →
      (step engine event).2.content.Populated := fun _ _ populated => populated_step populated
  exact run_invariant kept (populated_under regime) script

/-- What comes to be shown at a place was put there by a call. -/
theorem fills_of_shows (populated : engine.content.Populated)
    (before : engine.shows place = false) (after : (step engine event).2.shows place = true) :
    ∃ call, event = .call call ∧ place ∈ call.places ∧ call.fills = true := by
  rw [shows_eq populated, Bool.not_eq_false'] at before
  rw [shows_eq (populated_step populated), Bool.not_eq_true'] at after
  by_contra idle
  have still : (step engine event).2.content.isVacant place = true := by
    apply content_step (fun content => content.isVacant place = true) _ before
    intro data means
    refine Content.isVacant_step (fun call same named => ?_) before
    subst same
    have called : event = .call call := by
      cases event <;> cases means
      rfl
    exact Bool.eq_false_iff.mpr fun fills => idle ⟨call, called, named, fills⟩
  rw [still] at after
  cases after

/-- Containers are counted where a listing shows something. -/
theorem encard_shows (populated : engine.content.Populated) :
    {key | engine.shows ⟨.hashes, key⟩ = true}.encard = engine.store.counts.hashes ∧
      {key | engine.shows ⟨.sets, key⟩ = true}.encard = engine.store.counts.sets ∧
      {key | engine.shows ⟨.rankings, key⟩ = true}.encard = engine.store.counts.rankings ∧
      {key | engine.shows ⟨.lists, key⟩ = true}.encard = engine.store.counts.lists := by
  simp only [shows_eq populated, Content.isVacant, Content.cell, Cell.isVacant, Option.not_isNone]
  exact ⟨engine.store.hashes.tables.encard_keys, engine.store.sets.tables.encard_keys,
    engine.store.rankings.tables.encard_keys, engine.store.lists.tables.encard_keys⟩

/-- Engines of which nothing different can be told count the same containers. -/
theorem counts_eq_of_alike {left right : Engine} (alike : left.content.Alike right.content) :
    left.store.counts =
      { right.store.counts with
        values := left.store.counts.values
        discarded := left.store.counts.discarded } := by
  have cells : ∀ place, left.content.cell place = right.content.cell place :=
    fun place => (Prod.mk.inj (alike place)).2
  have hashes : left.store.hashes.size = right.store.hashes.size :=
    Table.size_congr fun key => congrArg Option.isSome (Cell.hash.inj (cells ⟨.hashes, key⟩))
  have sets : left.store.sets.size = right.store.sets.size :=
    Table.size_congr fun key => congrArg Option.isSome (Cell.set.inj (cells ⟨.sets, key⟩))
  have rankings : left.store.rankings.size = right.store.rankings.size :=
    Table.size_congr fun key => congrArg Option.isSome (Cell.ranking.inj (cells ⟨.rankings, key⟩))
  have lists : left.store.lists.size = right.store.lists.size :=
    Table.size_congr fun key => congrArg Option.isSome (Cell.list.inj (cells ⟨.lists, key⟩))
  simp only [Store.counts, hashes, sets, rankings, lists]

/-- Where nothing is shown, nothing can be told from a script without the calls on
this place. -/
theorem alike_of_not_shows {script alone : List Event} (container : place.part ≠ .values)
    (first second : Option Duration) (omits : Omits place script alone)
    (gone : (run step (under first) script).2.shows place = false) :
    (run step (under first) script).2.content.Alike
      (run step (under second) alone).2.content := by
  rw [shows_eq (populated_run first script), Bool.not_eq_false'] at gone
  have never : (under first).content.isVacant place = true := by
    rw [content_under first none]
    obtain ⟨part, key⟩ := place
    cases part <;> rfl
  rw [refines_content.view_run trivial] at gone ⊢
  rw [refines_content.view_run trivial, omits, content_under second first]
  exact Content.alike_of_isVacant container never gone

/-- There is no empty container, wherever a script leads and however memory is
swept. As many hashes, sets, rankings and lists are counted as there are keys
under which a listing shows something. Something comes to be shown under a key
only by a call that puts it there, and so not by a read or a call that fails or
changes nothing. And a container of which nothing is shown is as if it had never
been: whatever is done from then on, every call is answered and every container
counted as after the script without the calls on that container. -/
theorem containers_populated (first : Option Duration) (script : List Event) :
    let reached := (run step (under first) script).2
    ({key | reached.shows ⟨.hashes, key⟩ = true}.encard = reached.store.counts.hashes ∧
      {key | reached.shows ⟨.sets, key⟩ = true}.encard = reached.store.counts.sets ∧
      {key | reached.shows ⟨.rankings, key⟩ = true}.encard = reached.store.counts.rankings ∧
      {key | reached.shows ⟨.lists, key⟩ = true}.encard = reached.store.counts.lists) ∧
    (∀ place event, reached.shows place = false → (step reached event).2.shows place = true →
      ∃ call, event = .call call ∧ place ∈ call.places ∧ call.fills = true) ∧
    ∀ place, place.part ≠ .values → reached.shows place = false →
      ∀ second alone, Omits place script alone →
        let never := (run step (under second) alone).2
        ∀ rest,
          observed Event.data? id rest (run step reached rest).1 =
              observed Event.data? id rest (run step never rest).1 ∧
            (run step reached rest).2.store.counts =
              { (run step never rest).2.store.counts with
                values := (run step reached rest).2.store.counts.values
                discarded := (run step reached rest).2.store.counts.discarded } := by
  intro reached
  have populated := populated_run first script
  refine ⟨encard_shows populated, fun place event => fills_of_shows populated, ?_⟩
  intro place container gone second alone omits never rest
  have alike := alike_of_not_shows container first second omits gone
  obtain ⟨answers, ends⟩ := alike.run (rest.filterMap Event.data?)
  constructor
  · rw [refines_content.observed_run trivial, refines_content.observed_run trivial]
    exact answers
  · have here : (run step reached rest).2.content = _ := refines_content.view_run trivial rest
    have there : (run step never rest).2.content = _ := refines_content.view_run trivial rest
    apply counts_eq_of_alike
    rw [here, there]
    exact ends

/-- A set loses its last member to a call that names it twice, a score is no number
and there is no list to trim. A hash is left. -/
theorem containers_populated_emptied :
    let script : List Event :=
      [.call (.set (.add "s" ["a", "a"])), .call (.hash (.put "h" "f" "v")),
        .call (.set (.remove "s" ["a", "b", "a"])), .call (.set (.add "s" [])),
        .call (.ranking (.place "z" ⟨0x7FF8000000000000⟩ "m")), .call (.list (.trim "l" 0 0))]
    let alone : List Event :=
      [.call (.hash (.put "h" "f" "v")), .sweep,
        .call (.ranking (.place "z" ⟨0x7FF8000000000000⟩ "m")), .call (.list (.trim "l" 0 0))]
    let rest : List Event := [.call (.set (.list "s")), .call (.set (.add "s" ["b"]))]
    let reached := (run step (under none) script).2
    let never := (run step (under (some 7)) alone).2
    reached.store.counts = ⟨0, 1, 0, 0, 0, 0⟩ ∧
      {key | reached.shows ⟨.hashes, key⟩ = true}.encard = 1 ∧
      reached.shows ⟨.sets, "s"⟩ = false ∧ Omits ⟨.sets, "s"⟩ script alone ∧
      observed Event.data? id rest (run step never rest).1 = [.members [], .count 1] := by
  intro script alone rest reached never
  have counts : reached.store.counts = ⟨0, 1, 0, 0, 0, 0⟩ := by decide
  have gone : reached.shows ⟨.sets, "s"⟩ = false := by decide
  have omits : Omits ⟨.sets, "s"⟩ script alone := by decide
  have told : observed Event.data? id rest (run step reached rest).1 = [.members [], .count 1] := by
    decide
  obtain ⟨⟨hashes, -⟩, -, noTrace⟩ := containers_populated none script
  rw [counts] at hashes
  have same := (noTrace ⟨.sets, "s"⟩ (by decide) gone (some 7) alone omits rest).1
  exact ⟨counts, hashes, gone, omits, same.symm.trans told⟩

end Engine

end SharedState
