import SharedState.Handles
import SharedState.Proofs.Refinement

/-!
# What handles come to

A script with handles on the subscriptions of a machine comes to a script of
the machine alone, in which everything that is done through a handle is done
to the subscription itself.
-/

namespace SharedState.Handles

variable {State Step Result : Type}

/-- The steps of the machine that a script with handles comes to. -/
def plain (read : Ticket → Reader.Command → Step) (handles : Handles) :
    List (Event Step) → List Step
  | [] => []
  | .direct event :: rest => event :: plain read handles rest
  | .handle command :: rest =>
      match handles.apply command with
      | (none, next) => plain read next rest
      | (some (ticket, asked), next) => read ticket asked :: plain read next rest

variable (machine : State → Step → Result × State) (read : Ticket → Reader.Command → Step)

/-- The machine takes these steps and no others, and what they give is all that
the script gives. -/
theorem run_plain (state : State) (handles : Handles) (events : List (Event Step)) :
    ((run (step machine read) (state, handles) events).1.filterMap id,
        (run (step machine read) (state, handles) events).2.1) =
      run machine state (plain read handles events) := by
  induction events generalizing state handles with
  | nil => rfl
  | cons event rest ih =>
      rw [run_cons]
      cases event with
      | direct event =>
          rw [plain, run_cons, ← ih]
          rfl
      | handle command =>
          rcases applied : handles.apply command with ⟨_ | ⟨ticket, asked⟩, next⟩
          · simp only [step, plain, applied]
            exact ih state next
          · simp only [step, plain, applied]
            rw [run_cons, ← ih]
            rfl

/-- Through handles subscriptions are ended, and asked about that, and nothing
else is done. -/
theorem apply_asks {handles next : Handles} {command : Command} {ticket : Ticket}
    {asked : Reader.Command} (applied : handles.apply command = (some (ticket, asked), next)) :
    asked = .unsubscribe ∨ asked = .isUnsubscribed := by
  cases command with
  | keep name ticket => cases applied
  | clone name copy => cases found : handles.tickets.get? name <;> simp [apply, found] at applied
  | drop name => cases applied
  | unsubscribe name =>
      rw [apply] at applied
      cases found : handles.tickets.get? name <;> rw [found] at applied <;> cases applied
      exact Or.inl rfl
  | isUnsubscribed name =>
      rw [apply] at applied
      cases found : handles.tickets.get? name <;> rw [found] at applied <;> cases applied
      exact Or.inr rfl

section

variable {read} {handles : Handles} {events : List (Event Step)} {event : Step}

theorem mem_plain_cases (member : event ∈ plain read handles events) :
    .direct event ∈ events ∨
      ∃ ticket, event = read ticket .unsubscribe ∨ event = read ticket .isUnsubscribed := by
  induction events generalizing handles with
  | nil => cases member
  | cons first rest ih =>
      cases first with
      | direct other =>
          rcases List.mem_cons.mp member with rfl | later
          · exact Or.inl List.mem_cons_self
          · exact (ih later).imp_left (List.mem_cons_of_mem _)
      | handle command =>
          rcases applied : handles.apply command with ⟨_ | ⟨ticket, asked⟩, next⟩
          · rw [plain, applied] at member
            exact (ih member).imp_left (List.mem_cons_of_mem _)
          · rw [plain, applied] at member
            rcases List.mem_cons.mp member with rfl | later
            · rcases apply_asks applied with rfl | rfl
              · exact Or.inr ⟨ticket, Or.inl rfl⟩
              · exact Or.inr ⟨ticket, Or.inr rfl⟩
            · exact (ih later).imp_left (List.mem_cons_of_mem _)

theorem mem_plain (member : event ∈ plain read handles events) :
    .direct event ∈ events ∨ ∃ ticket asked, event = read ticket asked := by
  refine (mem_plain_cases member).imp_right ?_
  rintro ⟨ticket, rfl | rfl⟩
  · exact ⟨ticket, _, rfl⟩
  · exact ⟨ticket, _, rfl⟩

/-- What handles never ask for is done directly or not at all. -/
theorem notMem_plain
    (direct : ∀ ticket, event ≠ read ticket .unsubscribe ∧ event ≠ read ticket .isUnsubscribed)
    (absent : .direct event ∉ events) : event ∉ plain read handles events := by
  intro member
  rcases mem_plain_cases member with here | ⟨ticket, same | same⟩
  · exact absent here
  · exact (direct ticket).1 same
  · exact (direct ticket).2 same

/-- What happens at no step that a handle can come to happens at direct steps
only. -/
theorem happens_plain_iff {occasion : State → Step → Prop}
    (direct : ∀ state ticket asked, ¬occasion state (read ticket asked)) (state : State) :
    Happens (step machine read)
        (fun attended event => ∃ plainly, event = .direct plainly ∧ occasion attended.1 plainly)
        (state, handles) events ↔
      Happens machine occasion state (plain read handles events) := by
  induction events generalizing state handles with
  | nil => rfl
  | cons first rest ih =>
      cases first with
      | direct other =>
          rw [Happens, plain, Happens]
          simp [step, ih]
      | handle command =>
          rcases applied : handles.apply command with ⟨_ | ⟨ticket, asked⟩, next⟩
          · simp [Happens, plain, step, applied, ih]
          · simp [Happens, plain, step, applied, ih, direct]

end

/-- Keeping, copying and letting go of handles asks nothing of the machine. -/
def Command.isClerical : Command → Bool
  | .keep .. => true
  | .clone .. => true
  | .drop _ => true
  | .unsubscribe _ => false
  | .isUnsubscribed _ => false

theorem step_of_isClerical (state : State × Handles) {command : Command}
    (clerical : command.isClerical = true) :
    (step machine read state (.handle command)).2.1 = state.1 := by
  cases command with
  | clone name copy => cases found : state.2.tickets.get? name <;> simp [step, apply, found]
  | keep name ticket => rfl
  | drop name => rfl
  | unsubscribe name => cases clerical
  | isUnsubscribed name => cases clerical

end SharedState.Handles
