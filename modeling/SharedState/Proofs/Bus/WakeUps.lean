import SharedState.Proofs.Bus.Receivers
import SharedState.Proofs.Bus.Roster
import SharedState.Proofs.Handles

/-!
# Wake-up calls and the end of a stream

A stream has ended for a reader when its mailbox is empty and nobody can put
anything in any more. A reader that had to wait is called by the next message
that its mailbox takes, or by the end, and by nothing else; as long as it was
not called there is nothing for it to find. All this is shown for receivers,
which is what the subscriptions on a bus are to those who hold them.
-/

namespace SharedState

/-! ## One mailbox -/

namespace Mailbox

variable {mailbox : Mailbox}

theorem take?_fst (mailbox : Mailbox) : mailbox.take?.1 = mailbox.messages.head? := by
  unfold take?
  cases mailbox.messages <;> rfl

/-- What a reader finds is told by the messages and by whether more can come. -/
theorem poll_iff (mailbox : Mailbox) :
    (∀ message, mailbox.poll.1 = .message message ↔ mailbox.messages.head? = some message) ∧
      (mailbox.poll.1 = .closed ↔ mailbox.messages = [] ∧ mailbox.isOpen = false) ∧
        (mailbox.poll.1 = .pending ↔ mailbox.messages = [] ∧ mailbox.isOpen = true) := by
  unfold poll
  cases mailbox.messages with
  | nil => cases mailbox.isOpen <;> simp
  | cons oldest rest => simp

/-- The last reader had to wait, and as long as it was not called there is
nothing for it to find. -/
structure Awaited (mailbox : Mailbox) : Prop where
  waited : mailbox.wakeUp ≠ .idle
  nothing : mailbox.wakeUp = .armed → mailbox.messages = [] ∧ mailbox.isOpen = true

theorem isWoken_iff : mailbox.isWoken = true ↔ mailbox.wakeUp = .fired := by
  rw [isWoken, decide_eq_true_iff]

theorem Awaited.wakeUp_cases (awaited : mailbox.Awaited) :
    mailbox.wakeUp = .armed ∨ mailbox.wakeUp = .fired := by
  have waited := awaited.waited
  cases state : mailbox.wakeUp with
  | idle => exact absurd state waited
  | armed => exact Or.inl rfl
  | fired => exact Or.inr rfl

/-- A reader that was not called would have to wait again. -/
theorem Awaited.isWoken_of_found (awaited : mailbox.Awaited) (found : mailbox.poll.1 ≠ .pending) :
    mailbox.isWoken = true := by
  rcases awaited.wakeUp_cases with armed | fired
  · exact absurd (mailbox.poll_iff.2.2.mpr (awaited.nothing armed)) found
  · exact isWoken_iff.mpr fired

/-- A reader that finds nothing waits from then on. -/
theorem awaited_poll (pending : mailbox.poll.1 = .pending) :
    mailbox.poll.2.Awaited ∧ mailbox.poll.2.isWoken = false ∧ mailbox.poll.2.isOpen = true := by
  obtain ⟨empty, isOpen⟩ := mailbox.poll_iff.2.2.mp pending
  have waiting : mailbox.poll.2 = { mailbox with wakeUp := .armed } := by
    simp [poll, empty, isOpen]
  rw [waiting]
  exact ⟨⟨nofun, fun _ => ⟨empty, isOpen⟩⟩, rfl, isOpen⟩

theorem awaited_of_fired (fired : mailbox.wakeUp = .fired) : mailbox.Awaited where
  waited idle := by cases fired.symm.trans idle
  nothing armed := by cases fired.symm.trans armed

theorem Awaited.fire (awaited : mailbox.Awaited) : mailbox.wakeUp.fire = .fired := by
  rcases awaited.wakeUp_cases with armed | fired
  · rw [armed, WakeUp.fire]
  · rw [fired]
    rfl

/-- A mailbox that takes a message makes the call. -/
theorem offer_cases (mailbox : Mailbox) (message : Message) :
    (mailbox.offer message).2 = mailbox ∨
      (mailbox.offer message).2 =
        { mailbox with
          messages := mailbox.messages ++ [message]
          wakeUp := mailbox.wakeUp.fire } := by
  unfold offer
  split
  · exact Or.inl rfl
  · split
    · exact Or.inl rfl
    · exact Or.inr rfl

theorem Awaited.offer (awaited : mailbox.Awaited) (message : Message) :
    (mailbox.offer message).2.Awaited ∧
      ((mailbox.offer message).2.isWoken = true ↔
        mailbox.isWoken = true ∨
          (mailbox.offer message).2.messages = mailbox.messages ++ [message]) := by
  rcases mailbox.offer_cases message with same | taken
  · rw [same]
    exact ⟨awaited, by simp⟩
  · rw [taken]
    have fired := awaited.fire
    exact ⟨awaited_of_fired fired, by simp [isWoken_iff, fired]⟩

theorem Awaited.close (awaited : mailbox.Awaited) :
    mailbox.close.Awaited ∧
      (mailbox.close.isWoken = true ↔ mailbox.isWoken = true ∨ mailbox.isOpen = true) := by
  cases isOpen : mailbox.isOpen with
  | false =>
      rw [close_of_closed isOpen]
      exact ⟨awaited, by simp⟩
  | true =>
      have fired : mailbox.close.wakeUp = .fired := by
        rw [Mailbox.close, if_pos isOpen]
        exact awaited.fire
      exact ⟨awaited_of_fired fired, by simp [isWoken_iff, fired]⟩

theorem Awaited.take? (awaited : mailbox.Awaited) :
    mailbox.take?.2.Awaited ∧ mailbox.take?.2.isWoken = mailbox.isWoken := by
  unfold Mailbox.take?
  cases waiting : mailbox.messages with
  | nil => exact ⟨awaited, rfl⟩
  | cons oldest rest =>
      have fired : mailbox.wakeUp = .fired := by
        rcases awaited.wakeUp_cases with armed | fired
        · cases waiting.symm.trans (awaited.nothing armed).1
        · exact fired
      exact ⟨awaited_of_fired fired, rfl⟩

end Mailbox

/-! ## Receivers -/

namespace Receiver

/-- An event by which the mailbox of a receiver takes a message. -/
def Accepts (receiver : Receiver) (event : Event) : Prop :=
  ∃ message, event = .message message ∧
    (receiver.step event).2.mailbox.messages = receiver.mailbox.messages ++ [message]

/-- An event by which the stream of a receiver ends. -/
def Ends (receiver : Receiver) (event : Event) : Prop :=
  receiver.mailbox.isOpen = true ∧ (receiver.step event).2.mailbox.isOpen = false

/-- While nobody else comes to wait, the reader is called by a message that is
taken and by the end. -/
theorem awaited_step {receiver : Receiver} {event : Event}
    (awaits : event ≠ .command .poll ∧ event ≠ .command .drop)
    (awaited : receiver.mailbox.Awaited) :
    (receiver.step event).2.mailbox.Awaited ∧
      ((receiver.step event).2.mailbox.isWoken = true ↔
        receiver.mailbox.isWoken = true ∨ receiver.Accepts event ∨ receiver.Ends event) := by
  cases event with
  | message message =>
      obtain ⟨still, called⟩ := awaited.offer message
      refine ⟨still, called.trans ?_⟩
      simp [Accepts, Ends, step]
  | lost =>
      obtain ⟨still, called⟩ := awaited.close
      refine ⟨still, called.trans ?_⟩
      simp [Accepts, Ends, step]
  | command command =>
      cases command with
      | take =>
          obtain ⟨still, called⟩ := awaited.take?
          refine ⟨still, ?_⟩
          simp [Accepts, Ends, step, obey, called]
      | poll => exact absurd rfl awaits.1
      | isWoken => exact ⟨awaited, by simp [Accepts, Ends, step, obey]⟩
      | unsubscribe =>
          obtain ⟨still, called⟩ := awaited.close
          refine ⟨still, called.trans ?_⟩
          simp [Accepts, Ends, step, obey]
      | isUnsubscribed => exact ⟨awaited, by simp [Accepts, Ends, step, obey]⟩
      | drop => exact absurd rfl awaits.2

/-- A stream that has ended does not go on. -/
theorem isOpen_of_step (receiver : Receiver) (event : Event)
    (still : (receiver.step event).2.mailbox.isOpen = true) : receiver.mailbox.isOpen = true := by
  cases event with
  | message message => simpa [step] using still
  | lost => simp [step] at still
  | command command =>
      cases command with
      | take => simpa [step, obey] using still
      | poll => simpa [step, obey] using still
      | isWoken => exact still
      | unsubscribe => simp [step, obey] at still
      | isUnsubscribed => exact still
      | drop => cases still

/-- A stream goes on until its subscriber ends it or nobody is left to send
messages. -/
theorem isOpen_step_iff {receiver : Receiver}
    (closed : receiver.unsubscribed = true → receiver.mailbox.isOpen = false) {event : Event} :
    (receiver.step event).2.mailbox.isOpen = true ↔
      receiver.mailbox.isOpen = true ∧ (receiver.step event).2.unsubscribed = false ∧
        event ≠ .lost := by
  have subscribed : receiver.mailbox.isOpen = true → receiver.unsubscribed = false := by
    grind
  cases event with
  | message message => simpa [step] using subscribed
  | lost => simp [step]
  | command command =>
      cases command with
      | unsubscribe => simp [step, obey]
      | drop => simp [step, obey, gone, Mailbox.ended]
      | _ => simpa [step, obey] using subscribed

/-- A subscriber that has ended its stream stays one that has. -/
theorem unsubscribed_step (receiver : Receiver) (event : Event)
    (unsubscribed : receiver.unsubscribed = true) :
    (receiver.step event).2.unsubscribed = true := by
  cases event with
  | message message => exact unsubscribed
  | lost => exact unsubscribed
  | command command =>
      cases command with
      | unsubscribe => rfl
      | drop => rfl
      | _ => exact unsubscribed

theorem isOpen_of_run (receiver : Receiver) (events : List Event)
    (still : (run step receiver events).2.mailbox.isOpen = true) :
    receiver.mailbox.isOpen = true := by
  induction events generalizing receiver with
  | nil => exact still
  | cons event rest ih => exact isOpen_of_step receiver event (ih _ still)

/-- The stream ends during a run if and only if it ends at one of its steps. -/
theorem happens_ends_iff (receiver : Receiver) (events : List Event) :
    Happens step Ends receiver events ↔
      receiver.mailbox.isOpen = true ∧ (run step receiver events).2.mailbox.isOpen = false := by
  induction events generalizing receiver with
  | nil => simp [Happens]
  | cons event rest ih =>
      have first := isOpen_of_step receiver event
      have later := isOpen_of_run (receiver.step event).2 rest
      rw [Happens, ih, run_cons, Ends]
      grind

/-- While nobody else comes to wait, the reader is called if and only if a
message is taken or the stream ends. -/
theorem awaited_run {receiver : Receiver} {events : List Event}
    (awaits : ∀ event ∈ events, event ≠ .command .poll ∧ event ≠ .command .drop)
    (awaited : receiver.mailbox.Awaited) :
    (run step receiver events).2.mailbox.Awaited ∧
      ((run step receiver events).2.mailbox.isWoken = true ↔
        receiver.mailbox.isWoken = true ∨ Happens step Accepts receiver events ∨
          Happens step Ends receiver events) := by
  induction events generalizing receiver with
  | nil => exact ⟨awaited, by simp [Happens]⟩
  | cons event rest ih =>
      obtain ⟨first, others⟩ := List.forall_mem_cons.mp awaits
      obtain ⟨still, called⟩ := awaited_step first awaited
      obtain ⟨last, calledLater⟩ := ih others still
      refine ⟨last, calledLater.trans ?_⟩
      rw [called, Happens, Happens]
      grind

end Receiver

/-! ## Subscriptions -/

namespace Bus

variable {room : Nat} {channels : List String} {ticket : Ticket} {bus : Bus}

/-- A step that puts a message in the mailbox of a subscription. -/
def Delivers (ticket : Ticket) (bus : Bus) (event : Event) : Prop :=
  ∃ message, event = .publish message ∧
    ((step bus event).2.mailbox ticket).messages = (bus.mailbox ticket).messages ++ [message]

/-- The stream of a subscription to some channels is over: it was for nothing
from the start, its subscriber ended it, or the bus is gone. -/
def IsOver (channels : List String) (ticket : Ticket) (bus : Bus) : Prop :=
  channels = [] ∨ bus.isUnsubscribed ticket = true ∨ bus.running = false

/-- What a subscriber hears is a message on its channels, its own doing, or the
end of the bus. -/
theorem heard_cases {event : Event} {label : Receiver.Event}
    (means : heard channels ticket event = some label) :
    (∃ message, event = .publish message ∧ message.channel ∈ channels ∧
        label = .message message) ∨
      (∃ command, event = .read ticket command ∧ label = .command command) ∨
        event = .shutDown ∧ label = .lost := by
  cases event with
  | subscribe others => cases means
  | publish message =>
      simp only [heard] at means
      split at means
      · next mine => exact Or.inl ⟨message, rfl, mine, (Option.some.inj means).symm⟩
      · cases means
  | read reader command =>
      simp only [heard] at means
      split at means
      · next mine => exact Or.inr (Or.inl ⟨command, mine ▸ rfl, (Option.some.inj means).symm⟩)
      · cases means
  | shutDown => exact Or.inr (Or.inr ⟨rfl, (Option.some.inj means).symm⟩)

theorem delivers_iff (serves : Serves room channels ticket bus) (event : Event) :
    Delivers ticket bus event ↔
      ∃ label, heard channels ticket event = some label ∧
        (bus.receiver ticket).Accepts label := by
  have becomes := receiver_step serves event
  constructor
  · rintro ⟨message, rfl, taken⟩
    rw [← mailbox_receiver, ← mailbox_receiver, becomes] at taken
    by_cases mine : message.channel ∈ channels
    · have means : heard channels ticket (.publish message) = some (.message message) :=
        if_pos mine
      rw [means] at taken
      exact ⟨_, means, message, rfl, taken⟩
    · have means : heard channels ticket (.publish message) = none := if_neg mine
      rw [means] at taken
      simp at taken
  · rintro ⟨label, means, message, rfl, taken⟩
    have published : event = .publish message := by
      rcases heard_cases means with ⟨same, rfl, -, ⟨⟩⟩ | ⟨_, _, ⟨⟩⟩ | ⟨_, ⟨⟩⟩
      rfl
    refine ⟨message, published, ?_⟩
    rw [← mailbox_receiver, ← mailbox_receiver, becomes, means]
    exact taken

theorem running_unsubscribe (bus : Bus) (ticket : Ticket) :
    (bus.unsubscribe ticket).running = bus.running := by
  unfold unsubscribe
  split
  · rfl
  · split
    · rfl
    · dsimp only
      split <;> rfl

theorem running_step (bus : Bus) (event : Event) :
    (step bus event).2.running = true ↔ bus.running = true ∧ event ≠ .shutDown := by
  have stays : event ≠ .shutDown → (step bus event).2.running = bus.running := by
    intro alive
    cases event with
    | subscribe channels =>
        rcases registry_subscribe bus channels with refused | ⟨-, running, -⟩
        · rw [refused]
        · exact running
    | publish message => rfl
    | shutDown => exact absurd rfl alive
    | read reader command =>
        cases command with
        | take => simp [step, read, take?]
        | poll => simp [step, read, poll]
        | isWoken => rfl
        | isUnsubscribed => rfl
        | unsubscribe => exact running_unsubscribe bus reader
        | drop => exact running_unsubscribe bus reader
  by_cases shut : event = .shutDown
  · subst shut
    simp [step, shutDown]
  · simp [stays shut, shut]

/-- The state of a bus on which a ticket for some channels was given out.
Whether the mailbox is open is known from whether the stream is over. -/
structure Attended (room : Nat) (channels : List String) (ticket : Ticket) (bus : Bus) : Prop where
  serves : Serves room channels ticket bus
  told : (bus.mailbox ticket).isOpen = true ↔ ¬IsOver channels ticket bus

theorem told_step (attended : Attended room channels ticket bus) (event : Event) :
    ((step bus event).2.mailbox ticket).isOpen = true ↔
      ¬IsOver channels ticket (step bus event).2 := by
  have told := attended.told
  have becomes := receiver_step attended.serves event
  have running := running_step bus event
  simp only [IsOver, ← mailbox_receiver, ← unsubscribed_receiver, not_or,
    Bool.not_eq_true, Bool.not_eq_false] at told ⊢
  cases means : heard channels ticket event with
  | none =>
      have alive : event ≠ .shutDown := by
        rintro rfl
        cases means
      rw [means, Option.elim_none] at becomes
      rw [becomes, told, running]
      simp [alive]
  | some label =>
      have lost : label = .lost ↔ event = .shutDown := by
        rcases heard_cases means with ⟨message, rfl, -, rfl⟩ | ⟨command, rfl, rfl⟩ | ⟨rfl, rfl⟩ <;>
          simp
      have closed : (bus.receiver ticket).unsubscribed = true →
          (bus.receiver ticket).mailbox.isOpen = false := by
        intro unsubscribed
        rw [← Bool.not_eq_true, told]
        simp [unsubscribed]
      have final := Receiver.unsubscribed_step (bus.receiver ticket) label
      rw [means, Option.elim_some] at becomes
      rw [becomes, Receiver.isOpen_step_iff closed, told, running, Ne, lost]
      grind

theorem told_subscribed (running : bus.running = true)
    (subscribed : (step bus (.subscribe channels)).1 = .subscribed ticket) :
    ((step bus (.subscribe channels)).2.mailbox ticket).isOpen = true ↔
      ¬IsOver channels ticket (step bus (.subscribe channels)).2 := by
  have stays := (running_step bus (.subscribe channels)).mpr ⟨running, nofun⟩
  have issued := receiver_issued subscribed
  simp only [IsOver, ← mailbox_receiver, ← unsubscribed_receiver, issued, stays]
  cases channels <;> simp [Mailbox.create, Mailbox.ended]

theorem Attended.isOpen_eq_false_iff (attended : Attended room channels ticket bus) :
    (bus.mailbox ticket).isOpen = false ↔ IsOver channels ticket bus := by
  rw [← Bool.not_eq_true, attended.told, not_not]

theorem Attended.run (attended : Attended room channels ticket bus) (events : List Event) :
    Attended room channels ticket (run step bus events).2 := by
  have kept : ∀ state event, Attended room channels ticket state →
      Attended room channels ticket (step state event).2 :=
    fun _ event held => ⟨held.serves.step event, told_step held event⟩
  exact run_invariant kept attended events

theorem attended_subscribed (consistent : bus.Consistent) (running : bus.running = true)
    (subscribed : (step bus (.subscribe channels)).1 = .subscribed ticket) :
    Attended bus.capacity channels ticket (step bus (.subscribe channels)).2 where
  serves := (serves_subscribed consistent subscribed).2.1
  told := told_subscribed running subscribed

theorem Attended.poll_iff (attended : Attended room channels ticket bus) :
    let waiting := (bus.mailbox ticket).messages
    (∀ message, (bus.poll ticket).1 = .message message ↔ waiting.head? = some message) ∧
      ((bus.poll ticket).1 = .closed ↔ waiting = [] ∧ IsOver channels ticket bus) ∧
        ((bus.poll ticket).1 = .pending ↔ waiting = [] ∧ ¬IsOver channels ticket bus) := by
  obtain ⟨message, closed, pending⟩ := (bus.mailbox ticket).poll_iff
  rw [attended.isOpen_eq_false_iff] at closed
  rw [attended.told] at pending
  exact ⟨message, closed, pending⟩

/-- A subscriber that had to wait and does not come again, nor throws its
subscription away, is called if and only if a message is put in its mailbox or
its stream is over in the end. -/
theorem Attended.woken_iff (attended : Attended room channels ticket bus)
    (pending : (bus.poll ticket).1 = .pending) {later : List Event}
    (awaits : .read ticket .poll ∉ later) (holds : .read ticket .drop ∉ later) :
    let asked := (step bus (.read ticket .poll)).2
    let final := (SharedState.run step asked later).2
    (final.mailbox ticket).Awaited ∧
      ((final.mailbox ticket).isWoken = true ↔
        Happens step (Delivers ticket) asked later ∨ IsOver channels ticket final) := by
  intro asked final
  have askedHeld : Attended room channels ticket asked := attended.run [.read ticket .poll]
  have finalHeld : Attended room channels ticket final := askedHeld.run later
  have refines := refines_receiver room channels ticket
  let labels := later.filterMap (heard channels ticket)
  -- The poll leaves an open mailbox and a reader that was not called.
  have found : (bus.mailbox ticket).poll.1 = .pending := pending
  obtain ⟨awaited, quiet, isOpen⟩ := Mailbox.awaited_poll found
  have means : heard channels ticket (.read ticket .poll) = some (.command .poll) := if_pos rfl
  have asks : (asked.receiver ticket).mailbox = (bus.mailbox ticket).poll.2 := by
    rw [receiver_step attended.serves, means, Option.elim_some, ← mailbox_receiver]
    rfl
  rw [← asks] at awaited quiet isOpen
  -- What comes later is heard by the receiver, and no poll or drop is.
  have viewed : final.receiver ticket =
      (SharedState.run Receiver.step (asked.receiver ticket) labels).2 :=
    refines.view_run askedHeld.serves later
  have kinds : ∀ label ∈ labels, label ≠ .command .poll ∧ label ≠ .command .drop := by
    intro label member
    obtain ⟨event, here, hears⟩ := List.mem_filterMap.mp member
    rcases heard_cases hears with ⟨message, rfl, -, rfl⟩ | ⟨command, rfl, rfl⟩ | ⟨rfl, rfl⟩
    · exact ⟨nofun, nofun⟩
    · constructor
      · rintro ⟨⟩
        exact awaits here
      · rintro ⟨⟩
        exact holds here
    · exact ⟨nofun, nofun⟩
  have delivered : Happens step (Delivers ticket) asked later ↔
      Happens Receiver.step Receiver.Accepts (asked.receiver ticket) labels :=
    refines.happens_iff (fun serves => delivers_iff serves _) askedHeld.serves later
  obtain ⟨last, called⟩ := Receiver.awaited_run kinds awaited
  rw [Receiver.happens_ends_iff, ← delivered, ← viewed, mailbox_receiver] at called
  rw [← viewed, mailbox_receiver] at last
  refine ⟨last, called.trans ?_⟩
  rw [quiet, isOpen, finalHeld.isOpen_eq_false_iff]
  simp

/-- No step that is not the subscriber's own, no message on another channel and
nothing but the end of the bus touches the mailbox. -/
theorem Attended.mailbox_step (attended : Attended room channels ticket bus) {event : Event}
    (foreign : heard channels ticket event = none) :
    (step bus event).2.mailbox ticket = bus.mailbox ticket := by
  rw [← mailbox_receiver, receiver_step attended.serves, foreign, Option.elim_none,
    mailbox_receiver]

/-- What handles ask of other subscriptions, or of none, is foreign too. -/
theorem Attended.mailbox_handle (attended : Attended room channels ticket bus) {handles : Handles}
    {command : Handles.Command}
    (foreign : ∀ asked, (handles.apply command).1 ≠ some (ticket, asked)) :
    ((Handles.step step .read (bus, handles) (.handle command)).2.1.mailbox ticket) =
      bus.mailbox ticket := by
  rcases applied : handles.apply command with ⟨_ | ⟨reader, asked⟩, next⟩
  · simp [Handles.step, applied]
  · have others : reader ≠ ticket := by
      rintro rfl
      exact foreign asked (by rw [applied])
    have unheard : heard channels ticket (.read reader asked) = none := if_neg others
    have untouched := attended.mailbox_step unheard
    simpa [Handles.step, applied] using untouched

/-- The same where subscriptions are ended through handles as well. -/
theorem Attended.woken_iff_of_handles {attending : Bus × Handles}
    (attended : Attended room channels ticket attending.1)
    (pending : (attending.1.poll ticket).1 = .pending) {later : List (Handles.Event Event)}
    (awaits : .direct (.read ticket .poll) ∉ later)
    (holds : .direct (.read ticket .drop) ∉ later) :
    let attend := Handles.step step Event.read
    let asked := (attend attending (.direct (.read ticket .poll))).2
    let final := (SharedState.run attend asked later).2
    (final.1.mailbox ticket).Awaited ∧
      ((final.1.mailbox ticket).isWoken = true ↔
        (∃ front event back, later = front ++ .direct event :: back ∧
            Delivers ticket (SharedState.run attend asked front).2.1 event) ∨
          IsOver channels ticket final.1) := by
  intro attend asked final
  let steps := Handles.plain Event.read attending.2 later
  have awaitsPlainly : .read ticket .poll ∉ steps :=
    Handles.notMem_plain (fun _ => ⟨nofun, nofun⟩) awaits
  have holdsPlainly : .read ticket .drop ∉ steps :=
    Handles.notMem_plain (fun _ => ⟨nofun, nofun⟩) holds
  have finalPlainly : final.1 = (SharedState.run step asked.1 steps).2 :=
    congrArg Prod.snd (Handles.run_plain step .read asked.1 attending.2 later)
  have quiet : ∀ state reader command, ¬Delivers ticket state (.read reader command) := by
    rintro state reader command ⟨message, ⟨⟩, -⟩
  obtain ⟨last, called⟩ := attended.woken_iff pending awaitsPlainly holdsPlainly
  rw [← Handles.happens_plain_iff step quiet, happens_iff_exists] at called
  rw [finalPlainly]
  refine ⟨last, called.trans (or_congr_left ?_)⟩
  constructor
  · rintro ⟨front, _, back, split, event, rfl, delivers⟩
    exact ⟨front, event, back, split, delivers⟩
  · rintro ⟨front, event, back, split, delivers⟩
    exact ⟨front, _, back, split, event, rfl, delivers⟩

/-- Reading a stream and waiting for it, at any time in the life of a bus with
handles on its subscriptions. A reader is given the oldest message in the
mailbox; if there is none, it is told that the stream has ended if and only if
the stream is over, and has to wait otherwise. Someone who had to wait, keeps
the subscription and did not come again is called if and only if a message was
put in the mailbox since then or the stream is over; so nobody waits for what is
there. Messages on other channels, other subscribers and the keeping, copying
and letting go of handles do not touch the mailbox. -/
theorem wake_ups_follow_stream (capacity : Nat) {before : List (Handles.Event Event)}
    {handles : Handles}
    (reached : (run (Handles.step step .read) (create capacity, Handles.empty) before).2 =
      (bus, handles))
    (running : bus.running = true)
    (subscribed : (step bus (.subscribe channels)).1 = .subscribed ticket)
    (after : List (Handles.Event Event)) :
    let attend := Handles.step step Event.read
    let now := (run attend ((step bus (.subscribe channels)).2, handles) after).2
    let waiting := (now.1.mailbox ticket).messages
    (∀ message, (now.1.poll ticket).1 = .message message ↔ waiting.head? = some message) ∧
      ((now.1.poll ticket).1 = .closed ↔ waiting = [] ∧ IsOver channels ticket now.1) ∧
      ((now.1.poll ticket).1 = .pending ↔ waiting = [] ∧ ¬IsOver channels ticket now.1) ∧
      (now.1.take? ticket).1 = waiting.head? ∧
      ((now.1.poll ticket).1 = .pending →
        ∀ later, .direct (.read ticket .poll) ∉ later → .direct (.read ticket .drop) ∉ later →
          let asked := (attend now (.direct (.read ticket .poll))).2
          let final := (run attend asked later).2
          ((final.1.mailbox ticket).isWoken = true ↔
            (∃ front event back, later = front ++ .direct event :: back ∧
                Delivers ticket (run attend asked front).2.1 event) ∨
              IsOver channels ticket final.1) ∧
          ((final.1.poll ticket).1 ≠ .pending → (final.1.mailbox ticket).isWoken = true)) ∧
      (∀ event, (∀ message, event = .publish message → message.channel ∉ channels) →
        (∀ command, event ≠ .read ticket command) → event ≠ .shutDown →
          (step now.1 event).2.mailbox ticket = now.1.mailbox ticket) ∧
      (∀ command, (∀ asked, (now.2.apply command).1 ≠ some (ticket, asked)) →
        (attend now (.handle command)).2.1.mailbox ticket = now.1.mailbox ticket) ∧
      ∀ command, command.isClerical = true → (attend now (.handle command)).2.1 = now.1 := by
  intro attend now waiting
  -- Handles do nothing that is not done to subscriptions, so the bus is reached plainly.
  have reachedPlainly := Handles.run_plain step .read (create capacity) Handles.empty before
  have consistent : bus.Consistent := by
    have held := consistent_run (consistent_create capacity)
      (Handles.plain .read Handles.empty before)
    rwa [← congrArg Prod.snd reachedPlainly, reached] at held
  have attended : Attended bus.capacity channels ticket now.1 := by
    have held := (attended_subscribed consistent running subscribed).run
      (Handles.plain .read handles after)
    rwa [← congrArg Prod.snd (Handles.run_plain step .read _ handles after)] at held
  obtain ⟨message, closed, pending⟩ := attended.poll_iff
  refine ⟨message, closed, pending, Mailbox.take?_fst _, ?_, ?_, ?_, ?_⟩
  · intro waits later awaits holds asked final
    obtain ⟨last, called⟩ := attended.woken_iff_of_handles waits awaits holds
    exact ⟨called, last.isWoken_of_found⟩
  · intro event elsewhere others alive
    apply attended.mailbox_step
    cases hears : heard channels ticket event with
    | none => rfl
    | some label =>
        rcases heard_cases hears with ⟨message, same, mine, -⟩ | ⟨command, same, -⟩ | ⟨same, -⟩
        · exact absurd mine (elsewhere message same)
        · exact absurd same (others command)
        · exact absurd same alive
  · exact fun command foreign => attended.mailbox_handle foreign
  · exact fun command clerical => Handles.step_of_isClerical step .read now clerical

/-- A subscriber whose mailbox was full and was emptied again waits, and is
called when a copy of a handle on its subscription, whose first copy is gone,
ends the stream; a message that went elsewhere had not called it. -/
theorem wake_ups_follow_stream_unsubscribed :
    let attend := Handles.step step Event.read
    let start := (run attend (create 1, Handles.empty) [.direct (.subscribe ["a"])]).2
    let after : List (Handles.Event Event) :=
      [.direct (.publish ⟨"a", [1]⟩), .direct (.publish ⟨"b", [2]⟩), .direct (.read 2 .take),
        .handle (.keep "h" 2), .handle (.clone "h" "i")]
    let later : List (Handles.Event Event) :=
      [.direct (.publish ⟨"c", [3]⟩), .handle (.drop "h"), .handle (.unsubscribe "i")]
    let now := (run attend ((step start.1 (.subscribe ["a", "b"])).2, start.2) after).2
    let final := (run attend (attend now (.direct (.read 2 .poll))).2 later).2
    start.1.running = true ∧ (step start.1 (.subscribe ["a", "b"])).1 = .subscribed 2 ∧
      (now.1.poll 2).1 = .pending ∧ (final.1.mailbox 2).isWoken = true := by
  intro attend start after later now final
  have reached : (run attend (create 1, Handles.empty) [.direct (.subscribe ["a"])]).2 =
      (start.1, start.2) := Prod.mk.eta.symm
  have running : start.1.running = true := by decide
  have subscribed : (step start.1 (.subscribe ["a", "b"])).1 = .subscribed 2 := by decide
  obtain ⟨-, -, waits, -, called, -⟩ :=
    wake_ups_follow_stream 1 reached running subscribed after
  have pending : (now.1.poll 2).1 = .pending := by decide
  have awaits : .direct (.read 2 .poll) ∉ later := by decide
  have holds : .direct (.read 2 .drop) ∉ later := by decide
  have unsubscribed : final.1.isUnsubscribed 2 = true := by decide
  obtain ⟨woken, -⟩ := called pending later awaits holds
  subst final now attend
  exact ⟨running, subscribed, pending, woken.mpr (Or.inr (Or.inr (Or.inl unsubscribed)))⟩

end Bus

end SharedState
