import SharedState.InProcess
import SharedState.Proofs.Bus.Consistency
import SharedState.Settings.Variables

/-!
# Room in the mailboxes of a backend

The size of a mailbox comes from a variable and is raised to one on its way to
the bus. Nothing lowers it: a backend whose variable asks for more room than
any mailbox can have is made all the same, and every subscription to a channel
is refused. No other call is, and no other environment leads to a refusal.
-/

namespace SharedState

namespace Settings

/-- The size of a mailbox that the variables ask for, if they do. -/
def askedCapacity? (lookup : Variables) : Option Nat :=
  (lookup "PUBSUB_MAILBOX_CAPACITY").bind fun raw => word? (Text.Blank.trim raw)

/-- Whether the variables ask for more room than a mailbox can have. -/
def asksTooMuch (lookup : Variables) : Bool :=
  (askedCapacity? lookup).any (Bus.greatestCapacity < ·)

theorem mailboxCapacity_ofVariables (lookup : Variables) :
    (ofVariables lookup).1.mailboxCapacity =
      (askedCapacity? lookup).getD defaultMailboxCapacity :=
  number_fst lookup "PUBSUB_MAILBOX_CAPACITY" word? defaultMailboxCapacity

/-- The default is small enough, and the lower limit makes nothing too large:
there is too much only where it was asked for. -/
theorem greatestCapacity_lt_iff_asksTooMuch (lookup : Variables) :
    Bus.greatestCapacity < (ofVariables lookup).1.effectiveMailboxCapacity ↔
      asksTooMuch lookup = true := by
  have raised : ¬Bus.greatestCapacity < 1 := by decide
  rw [effectiveMailboxCapacity, mailboxCapacity_ofVariables, asksTooMuch]
  cases askedCapacity? lookup with
  | none => decide
  | some capacity => simp [raised]

end Settings

namespace Bus

/-- Whether a step is a subscription to some channel. -/
def Event.subscribes : Event → Bool
  | .subscribe channels => !channels.isEmpty
  | _ => false

/-- A bus refuses the subscriptions to some channel if its mailboxes cannot be
made, and nothing else. -/
theorem step_eq_refused_iff (bus : Bus) (event : Event) :
    (step bus event).1 = .refused ↔
      greatestCapacity < bus.capacity ∧ event.subscribes = true := by
  cases event with
  | subscribe channels =>
      cases channels with
      | nil => simp [step, subscribe, Event.subscribes]
      | cons first rest =>
          by_cases large : greatestCapacity < bus.capacity <;>
            simp [step, subscribe, Event.subscribes, large]
  | publish message => simp [step, Event.subscribes]
  | read ticket command => simp [step, Event.subscribes]
  | shutDown => simp [step, Event.subscribes]

/-- What is refused leaves the bus as it was. -/
theorem step_of_refused {bus : Bus} {event : Event} (refused : (step bus event).1 = .refused) :
    (step bus event).2 = bus := by
  cases event with
  | subscribe channels =>
      rcases step_subscribe bus channels with ⟨-, -, stepped⟩ | ⟨next, stepped, -⟩
      · rw [stepped]
      · simp [stepped] at refused
  | publish message => simp [step] at refused
  | read ticket command => simp [step] at refused
  | shutDown => simp [step] at refused

end Bus

namespace InProcess

/-! ## What a backend hands to its bus -/

/-- The step of the bus that a step of the backend is, if it is one. -/
def Event.bus? : Event → Option Bus.Event
  | .request (.publish channel text) => some (.publish (Message.ofText channel text))
  | .request (.subscribe channels) => some (.subscribe channels)
  | .request (.read ticket command) => some (.read ticket command)
  | .request (.call _) => none
  | .advance _ => none

/-- What a backend makes of a result of its bus. -/
def relay : Bus.Result → Response
  | .done => .answer .done
  | .subscribed ticket => .subscribed ticket
  | .refused => .refused
  | .delivered mailboxes => .answer (.count mailboxes)
  | .read answer => .read answer

theorem relay_eq_refused_iff (result : Bus.Result) :
    relay result = .refused ↔ result = .refused := by
  cases result <;> simp [relay]

theorem step_of_bus? {event : Event} {order : Bus.Event} (handed : event.bus? = some order)
    (backend : InProcess) :
    step backend event =
      (relay (backend.bus.step order).1, { backend with bus := (backend.bus.step order).2 }) := by
  rcases event with (call | ⟨channel, text⟩ | channels | ⟨ticket, command⟩) | duration <;>
    cases handed
  · rfl
  · simp only [step, Bus.step]
    split <;> simp_all [relay]
  · rfl

/-- A step that the bus has no part in is not refused. -/
theorem step_of_not_bus? {event : Event} (kept : event.bus? = none) (backend : InProcess) :
    (step backend event).1 ≠ .refused ∧ (step backend event).2.bus = backend.bus := by
  rcases event with (call | ⟨channel, text⟩ | channels | ⟨ticket, command⟩) | duration <;>
    cases kept
  · refine ⟨?_, rfl⟩
    simp only [step, respond]
    split
    · simp
    · split <;> simp
  · exact ⟨by simp [step], rfl⟩

/-- Whether a step is a subscription to some channel. -/
def Event.subscribes (event : Event) : Bool :=
  event.bus?.any Bus.Event.subscribes

/-- Whether a step is refused by a backend whose mailboxes have this size. -/
def refuses (capacity : Nat) (event : Event) : Bool :=
  decide (Bus.greatestCapacity < capacity) && event.subscribes

theorem step_eq_refused_iff (backend : InProcess) (event : Event) :
    (step backend event).1 = .refused ↔ refuses backend.bus.capacity event = true := by
  rw [refuses, Event.subscribes]
  cases handed : event.bus? with
  | none => simp [step_of_not_bus? handed]
  | some order => simp [step_of_bus? handed, relay_eq_refused_iff, Bus.step_eq_refused_iff]

/-- What is refused leaves the backend as it was. -/
theorem step_of_refused {backend : InProcess} {event : Event}
    (refused : (step backend event).1 = .refused) : (step backend event).2 = backend := by
  cases handed : event.bus? with
  | none => exact absurd refused (step_of_not_bus? handed backend).1
  | some order =>
      rw [step_of_bus? handed, relay_eq_refused_iff] at refused
      rw [step_of_bus? handed, Bus.step_of_refused refused]

theorem capacity_step (backend : InProcess) (event : Event) :
    (step backend event).2.bus.capacity = backend.bus.capacity := by
  cases handed : event.bus? with
  | none => rw [(step_of_not_bus? handed backend).2]
  | some order => rw [step_of_bus? handed, Bus.capacity_step]

/-! ## Which calls of a run are refused -/

theorem map_refused_run (backend : InProcess) (script : List Event) :
    (run step backend script).1.map (· == .refused) = script.map (refuses backend.bus.capacity) := by
  induction script generalizing backend with
  | nil => rfl
  | cons event rest ih =>
      have here : ((step backend event).1 == .refused) = refuses backend.bus.capacity event := by
        rw [Bool.eq_iff_iff, beq_iff_eq, step_eq_refused_iff]
      rw [run_cons, List.map_cons, List.map_cons, ih, here, capacity_step]

/-- The other calls of a run respond as if the refused ones had not been made. -/
theorem run_filter_refused (backend : InProcess) (script : List Event) :
    run step backend (script.filter (!refuses backend.bus.capacity ·)) =
      ((run step backend script).1.filter (· != .refused), (run step backend script).2) := by
  induction script generalizing backend with
  | nil => rfl
  | cons event rest ih =>
      have later := ih (step backend event).2
      rw [capacity_step] at later
      have same := step_eq_refused_iff backend event
      cases refused : refuses backend.bus.capacity event with
      | true =>
          have answer := same.mpr refused
          rw [step_of_refused answer] at later
          simp [run_cons, refused, answer, step_of_refused answer, later]
      | false =>
          have answer : (step backend event).1 ≠ .refused := by simp [same, refused]
          simp [run_cons, refused, answer, later]

/-- The calls of a backend that are refused are the subscriptions to some
channel where the variables ask for more room than a mailbox can have. All
other calls of the run, which no refused one has an effect on, are answered;
and unless too much was asked for, that is every call. -/
theorem refused_iff_asksTooMuch (lookup : Settings.Variables) (script : List Event) :
    let backend := create (Settings.ofVariables lookup).1
    let lost (event : Event) : Bool := Settings.asksTooMuch lookup && event.subscribes
    (run step backend script).1.map (· == .refused) = script.map lost ∧
      run step backend (script.filter (!lost ·)) =
        ((run step backend script).1.filter (· != .refused), (run step backend script).2) := by
  intro backend lost
  have capacity : backend.bus.capacity =
      (Settings.ofVariables lookup).1.effectiveMailboxCapacity := by
    simp [backend, create, Bus.create, Settings.effectiveMailboxCapacity]
  have known : lost = refuses backend.bus.capacity := by
    funext event
    rw [Bool.eq_iff_iff]
    simp [lost, refuses, capacity, Settings.greatestCapacity_lt_iff_asksTooMuch]
  rw [known]
  exact ⟨map_refused_run backend script, run_filter_refused backend script⟩

/-- The least size that is too large for a mailbox is taken from its variable
as it stands; with it the first subscription is refused. -/
theorem subscription_refused :
    let lookup : Settings.Variables := fun name =>
      if name = "PUBSUB_MAILBOX_CAPACITY" then some "2305843009213693952" else none
    let settings := (Settings.ofVariables lookup).1
    settings.server = none ∧
      (run step (create settings) [.request (.subscribe ["x"])]).1 = [.refused] := by
  decide +kernel

end InProcess

end SharedState
