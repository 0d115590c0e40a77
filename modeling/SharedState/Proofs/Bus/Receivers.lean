import SharedState.Proofs.Bus.Streams

/-!
# Receivers

What a subscription is to its subscriber, wherever it was made: a mailbox that
messages come in to until the stream ends, and the mark of having ended it
oneself. The bus takes a subscription out of its registry when it ends, but
this is not seen; to each of its subscribers the bus is a receiver. A receiver
is a queue with one reader.
-/

namespace SharedState

/-- What a subscription is to its subscriber. -/
structure Receiver where
  mailbox : Mailbox
  unsubscribed : Bool
deriving DecidableEq

namespace Receiver

/-- What can happen to a receiver. -/
inductive Event where
  | message (message : Message)
  /-- The subscriber, or the holder of a handle, does something. -/
  | command (command : Reader.Command)
  /-- There is nobody left who could send messages. -/
  | lost
deriving DecidableEq

/-- A receiver of messages to come. -/
def create (capacity : Nat) : Receiver := ⟨Mailbox.create capacity, false⟩

/-- What is left of a receiver that was thrown away. -/
def gone : Receiver := ⟨Mailbox.ended, true⟩

/-- Does what the subscriber says. -/
def obey (receiver : Receiver) : Reader.Command → Reader.Answer × Receiver
  | .take => (.taken receiver.mailbox.take?.1, { receiver with mailbox := receiver.mailbox.take?.2 })
  | .poll => (.polled receiver.mailbox.poll.1, { receiver with mailbox := receiver.mailbox.poll.2 })
  | .isWoken => (.flag receiver.mailbox.isWoken, receiver)
  | .unsubscribe => (.done, ⟨receiver.mailbox.close, true⟩)
  | .isUnsubscribed => (.flag receiver.unsubscribed, receiver)
  | .drop => (.done, gone)

/-- What the subscriber is told, and the receiver from then on. -/
def step (receiver : Receiver) : Event → Option Reader.Answer × Receiver
  | .message message => (none, { receiver with mailbox := (receiver.mailbox.offer message).2 })
  | .command command =>
      let (answer, receiver) := receiver.obey command
      (some answer, receiver)
  | .lost => (none, { receiver with mailbox := receiver.mailbox.close })

theorem step_gone (event : Event) : (step gone event).2 = gone := by
  cases event with
  | command command => cases command <;> rfl
  | message message => rfl
  | lost => rfl

/-- What an event is to the queue in the mailbox. -/
def Event.queue? : Event → Option PrivateQueue.Event
  | .message sent => some (.offer sent)
  | .command said => PrivateQueue.Event.ofCommand? said
  | .lost => some .close

/-- What an answer lets the subscriber read. -/
def reading : Option Reader.Answer → Option Reader.Answer
  | some (.taken message) => some (.taken message)
  | some (.polled poll) => some (.polled poll)
  | _ => none

/-- The queue in the mailbox of a receiver. -/
def queue (receiver : Receiver) : PrivateQueue := .ofMailbox receiver.mailbox

/-- Whether the mailbox, while it is open, has some room. -/
def Sized (room : Nat) (receiver : Receiver) : Prop :=
  receiver.mailbox.isOpen = true → receiver.mailbox.capacity = room

theorem sized_step {room : Nat} {receiver : Receiver} (sized : receiver.Sized room)
    (event : Event) : (receiver.step event).2.Sized room := by
  cases event with
  | message message => simpa [Sized, step] using sized
  | lost => simp [Sized, step]
  | command command =>
      cases command with
      | take => simpa [Sized, step, obey] using sized
      | poll => simpa [Sized, step, obey] using sized
      | isWoken => exact sized
      | isUnsubscribed => exact sized
      | unsubscribe => simp [Sized, step, obey]
      | drop => simp [Sized, step, obey, gone, Mailbox.ended]

theorem sized_create (capacity : Nat) : (create capacity).Sized capacity := fun _ => rfl

theorem queue_create (capacity : Nat) {channels : List String} (asked : channels ≠ []) :
    (create capacity).queue = .create channels := by
  cases channels with
  | nil => exact absurd rfl asked
  | cons first rest => rfl

/-- A receiver is a queue with one reader. -/
theorem refines_queue (room : Nat) :
    Refines step (Sized room) queue Event.queue? reading (PrivateQueue.step room) where
  kept sized := sized_step sized _
  result {receiver event label} sized means := by
    cases event with
    | message message => cases means; rfl
    | lost => cases means; rfl
    | command command =>
        cases command <;> cases means
        · exact congrArg Prod.fst (PrivateQueue.ofMailbox_take? receiver.mailbox room)
        · exact congrArg Prod.fst (PrivateQueue.ofMailbox_poll receiver.mailbox room)
        · rfl
        · rfl
  next {receiver event label} sized means := by
    cases event with
    | message message =>
        cases means
        exact PrivateQueue.ofMailbox_offer sized message
    | lost =>
        cases means
        exact PrivateQueue.ofMailbox_close receiver.mailbox room
    | command command =>
        cases command <;> cases means
        · exact congrArg Prod.snd (PrivateQueue.ofMailbox_take? receiver.mailbox room)
        · exact congrArg Prod.snd (PrivateQueue.ofMailbox_poll receiver.mailbox room)
        · exact PrivateQueue.ofMailbox_close receiver.mailbox room
        · rfl
  hidden {receiver event} sized means := by
    cases event with
    | message message => cases means
    | lost => cases means
    | command command => cases command <;> cases means <;> rfl

end Receiver

/-! ## Subscriptions on the bus -/

namespace Subscription

/-- What a subscription is to its subscriber. -/
def receiver (subscription : Subscription) : Receiver :=
  ⟨subscription.mailbox, subscription.unsubscribed⟩

end Subscription

namespace Bus

/-- What a step of the bus is to the subscriber with a ticket for some channels. -/
def heard (channels : List String) (ticket : Ticket) : Event → Option Receiver.Event
  | .subscribe _ => none
  | .publish message => if message.channel ∈ channels then some (.message message) else none
  | .read reader command => if reader = ticket then some (.command command) else none
  | .shutDown => some .lost

/-- What a step tells a subscriber. -/
def Result.answer? : Result → Option Reader.Answer
  | .read answer => some answer
  | _ => none

/-- What the subscription with a ticket is to its subscriber. -/
def receiver (bus : Bus) (ticket : Ticket) : Receiver :=
  (bus.subscriptions.get? ticket).elim .gone Subscription.receiver

variable {room : Nat} {channels : List String} {ticket : Ticket} {bus : Bus}

theorem mailbox_receiver (bus : Bus) (ticket : Ticket) :
    (bus.receiver ticket).mailbox = bus.mailbox ticket := by
  unfold receiver mailbox
  cases bus.subscriptions.get? ticket <;> rfl

theorem unsubscribed_receiver (bus : Bus) (ticket : Ticket) :
    (bus.receiver ticket).unsubscribed = bus.isUnsubscribed ticket := by
  unfold receiver isUnsubscribed
  cases bus.subscriptions.get? ticket <;> rfl

/-- What a step makes of a subscription is what it makes of the receiver. -/
theorem receiver_after (subscription : Subscription) (ticket : Ticket) (event : Event) :
    (subscription.after ticket event).elim .gone Subscription.receiver =
      (heard subscription.channels ticket event).elim subscription.receiver
        fun label => (Receiver.step subscription.receiver label).2 := by
  cases event with
  | subscribe others => rfl
  | publish message =>
      simp only [Subscription.after, heard]
      by_cases mine : message.channel ∈ subscription.channels
      · simp only [if_pos mine]
        rfl
      · simp [mine]
  | read reader command =>
      simp only [Subscription.after, heard]
      by_cases mine : reader = ticket
      · simp only [if_pos mine]
        cases command <;> rfl
      · simp [mine]
  | shutDown => rfl

theorem receiver_step (serves : Serves room channels ticket bus) (event : Event) :
    (step bus event).2.receiver ticket =
      (heard channels ticket event).elim (bus.receiver ticket)
        fun label => (Receiver.step (bus.receiver ticket) label).2 := by
  rw [receiver, get?_step serves.consistent event serves.issued]
  cases found : bus.subscriptions.get? ticket with
  | none =>
      have thrownAway : bus.receiver ticket = .gone := by rw [receiver, found, Option.elim_none]
      rw [thrownAway, Option.bind_none, Option.elim_none]
      cases heard channels ticket event with
      | none => rfl
      | some label => exact (Receiver.step_gone label).symm
  | some subscription =>
      have there : bus.receiver ticket = subscription.receiver := by
        rw [receiver, found, Option.elim_some]
      rw [Option.bind_some, receiver_after, serves.agreed found, there]

theorem answer_step {event : Event} {label : Receiver.Event}
    (means : heard channels ticket event = some label) :
    (step bus event).1.answer? = (Receiver.step (bus.receiver ticket) label).1 := by
  cases event with
  | subscribe others => cases means
  | publish message =>
      simp only [heard] at means
      split at means <;> cases means
      rfl
  | read reader command =>
      simp only [heard] at means
      split at means
      · next mine =>
          subst mine
          cases means
          cases command <;>
            simp [step, read, take?, poll, Result.answer?, Receiver.step, Receiver.obey,
              mailbox_receiver, unsubscribed_receiver]
      · cases means
  | shutDown =>
      cases means
      rfl

/-- To one of its subscribers the bus is a receiver. -/
theorem refines_receiver (room : Nat) (channels : List String) (ticket : Ticket) :
    Refines step (Serves room channels ticket) (receiver · ticket) (heard channels ticket)
      Result.answer? Receiver.step where
  kept serves := serves.step _
  result _ means := answer_step means
  next serves means := by rw [receiver_step serves, means, Option.elim_some]
  hidden serves means := by rw [receiver_step serves, means, Option.elim_none]

/-- A new subscription was not ended by its subscriber; it can receive nothing
if it is for no channels. -/
theorem receiver_issued (subscribed : (step bus (.subscribe channels)).1 = .subscribed ticket) :
    (step bus (.subscribe channels)).2.receiver ticket =
      ⟨if channels.isEmpty then .ended else .create bus.capacity, false⟩ := by
  rcases step_subscribe bus channels with ⟨-, -, refused⟩ | ⟨next, made, -, -, -, kept⟩
  · rw [refused] at subscribed
    cases subscribed
  · rw [made] at subscribed ⊢
    cases subscribed
    rw [receiver, kept, Table.get?_put, if_pos rfl]
    rfl

/-- A new subscription to some channels receives what comes from then on. -/
theorem receiver_subscribed (asked : channels ≠ [])
    (subscribed : (step bus (.subscribe channels)).1 = .subscribed ticket) :
    (step bus (.subscribe channels)).2.receiver ticket = .create bus.capacity := by
  have nonempty : ¬channels.isEmpty = true := mt List.isEmpty_iff.mp asked
  rw [receiver_issued subscribed, if_neg nonempty]
  rfl

end Bus

end SharedState
