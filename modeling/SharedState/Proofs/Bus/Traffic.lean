import SharedState.Proofs.Bus.Roster
import SharedState.Proofs.Totals

/-!
# What the counters of a bus count

Every message that a mailbox takes is counted as delivered, and it stays in the
mailbox until it is read or thrown away with the subscription. Every message
that is published is delivered or dropped once for each live subscription to its
channel, because a live subscription to any channel has an open mailbox. Both
are kept step by step: the counters, what the publisher is told, and what is in
the mailboxes move together.
-/

namespace SharedState

namespace Mailbox

theorem length_offer (mailbox : Mailbox) (message : Message) :
    (mailbox.offer message).2.messages.length =
      mailbox.messages.length + mailbox.takes.toNat := by
  unfold offer takes
  by_cases isOpen : mailbox.isOpen = true
  · by_cases full : mailbox.capacity ≤ mailbox.messages.length
    · simp [isOpen, full, Nat.not_lt_of_le full]
    · simp [isOpen, full, Nat.lt_of_not_le full]
  · simp [isOpen]

@[simp]
theorem messages_close (mailbox : Mailbox) : mailbox.close.messages = mailbox.messages := by
  unfold close
  split <;> rfl

end Mailbox

namespace Subscription

/-- How many messages wait in the mailbox. -/
def waiting (subscription : Subscription) : Nat := subscription.mailbox.messages.length

/-- Whether a subscription to a channel was not ended by its subscriber. -/
def listensTo (channel : String) (subscription : Subscription) : Bool :=
  !subscription.unsubscribed && decide (channel ∈ subscription.channels)

/-- While the bus is there, a mailbox is closed by its subscriber only. -/
theorem isOpen_after {ticket : Ticket} {subscription left : Subscription} {event : Bus.Event}
    (alive : event ≠ .shutDown) (remains : subscription.after ticket event = some left)
    (live : left.unsubscribed = false) :
    subscription.unsubscribed = false ∧
      left.mailbox.isOpen = subscription.mailbox.isOpen := by
  cases event with
  | subscribe channels =>
      cases remains
      exact ⟨live, rfl⟩
  | publish message =>
      simp only [after] at remains
      split at remains <;> cases remains
      · exact ⟨live, Mailbox.isOpen_offer ..⟩
      · exact ⟨live, rfl⟩
  | read reader command =>
      simp only [after] at remains
      split at remains
      · cases command <;> cases remains
        · exact ⟨live, Mailbox.isOpen_take? _⟩
        · exact ⟨live, Mailbox.isOpen_poll _⟩
        · exact ⟨live, rfl⟩
        · cases live
        · exact ⟨live, rfl⟩
      · cases remains
        exact ⟨live, rfl⟩
  | shutDown => exact absurd rfl alive

end Subscription

namespace Bus

/-- How many mailboxes took the message that a step published. -/
def Result.mailboxes : Result → Nat
  | .delivered mailboxes => mailboxes
  | _ => 0

/-- How many messages a step read. -/
def Result.messages : Result → Nat
  | .read (.taken (some _)) => 1
  | .read (.polled (.message _)) => 1
  | _ => 0

/-- How many messages a step throws away with their subscription. -/
def discarded (bus : Bus) : Event → Nat
  | .read ticket .drop => (bus.mailbox ticket).messages.length
  | _ => 0

/-- How many live subscriptions there are to the channel of a message that is
published, each counted once. -/
def listeners (bus : Bus) : Event → Nat
  | .publish message =>
      bus.subscriptions.count fun _ subscription => subscription.listensTo message.channel
  | _ => 0

/-- How many messages were delivered and not yet read. -/
def buffered (bus : Bus) : Nat := bus.subscriptions.sum fun _ subscription => subscription.waiting

variable {bus : Bus}

/-! ## What is published -/

/-- Counting among the tickets on a channel is counting among the subscriptions
that asked for it, as long as only open mailboxes count. -/
theorem countP_registered (consistent : bus.Consistent) (channel : String)
    (counts : Mailbox → Bool)
    (opened : ∀ mailbox : Mailbox, counts mailbox = true → mailbox.isOpen = true) :
    ((bus.registered channel).countP fun ticket =>
        (bus.subscriptions.get? ticket).any fun subscription => counts subscription.mailbox) =
      bus.subscriptions.count fun _ subscription =>
        counts subscription.mailbox && decide (channel ∈ subscription.channels) := by
  apply countP_eq_countP (consistent.distinct channel) bus.subscriptions.distinct
  intro ticket
  constructor
  · rintro ⟨member, counted⟩
    obtain ⟨subscription, found, counted⟩ := (Option.any_eq_true _ _).mp counted
    have asked := (consistent.registered_iff found (opened _ counted) channel).mp member
    exact ⟨(ticket, subscription), Table.get?_eq_some_iff.mp found,
      by simp [counted, asked], rfl⟩
  · rintro ⟨⟨_, subscription⟩, bound, counts, rfl⟩
    obtain ⟨counted, asked⟩ := Bool.and_eq_true_iff.mp counts
    have found := Table.get?_eq_some_iff.mpr bound
    exact ⟨(consistent.registered_iff found (opened _ counted) channel).mpr
      (of_decide_eq_true asked), (Option.any_eq_true _ _).mpr ⟨subscription, found, counted⟩⟩

/-- The publisher is told how many mailboxes of subscriptions to the channel
take the message. -/
theorem publish_fst (consistent : bus.Consistent) (message : Message) :
    (bus.publish message).1 =
      bus.subscriptions.count fun _ subscription =>
        subscription.mailbox.takes && decide (message.channel ∈ subscription.channels) := by
  have opened : ∀ mailbox : Mailbox, mailbox.takes = true → mailbox.isOpen = true :=
    fun mailbox takes => (Bool.and_eq_true_iff.mp takes).1
  have accepted := accepted_deliver message (consistent.distinct message.channel) ⟨0, 0⟩
    bus.subscriptions
  rw [countP_registered consistent message.channel Mailbox.takes opened] at accepted
  exact accepted.trans (Nat.zero_add _)

/-- A message is delivered or dropped once for each open mailbox of a
subscription to its channel. -/
theorem handled_publish (consistent : bus.Consistent) (message : Message) :
    (bus.publish message).2.delivered + (bus.publish message).2.dropped =
      bus.delivered + bus.dropped + bus.subscriptions.count fun _ subscription =>
        subscription.mailbox.isOpen && decide (message.channel ∈ subscription.channels) := by
  have handled := handled_deliver message (consistent.distinct message.channel) ⟨0, 0⟩
    bus.subscriptions
  rw [countP_registered consistent message.channel Mailbox.isOpen fun _ => id] at handled
  dsimp only at handled
  simp only [publish]
  omega

theorem counters_withMailbox (bus : Bus) (ticket : Ticket) (mailbox : Mailbox) :
    (bus.withMailbox ticket mailbox).delivered = bus.delivered ∧
      (bus.withMailbox ticket mailbox).dropped = bus.dropped := by
  unfold withMailbox
  split <;> exact ⟨rfl, rfl⟩

theorem counters_unsubscribe (bus : Bus) (ticket : Ticket) :
    (bus.unsubscribe ticket).delivered = bus.delivered ∧
      (bus.unsubscribe ticket).dropped = bus.dropped := by
  unfold unsubscribe
  split
  · exact ⟨rfl, rfl⟩
  · split
    · exact ⟨rfl, rfl⟩
    · dsimp only
      split <;> exact ⟨rfl, rfl⟩

theorem counters_subscribe (bus : Bus) (channels : List String) :
    (bus.subscribe channels).2.delivered = bus.delivered ∧
      (bus.subscribe channels).2.dropped = bus.dropped := by
  unfold subscribe
  split
  · exact ⟨rfl, rfl⟩
  · split <;> exact ⟨rfl, rfl⟩

/-- Only a message that is published moves the counters, and only its publisher
is told of mailboxes. -/
theorem counters_step (bus : Bus) {event : Event}
    (published : ∀ message, event ≠ .publish message) :
    (step bus event).2.delivered = bus.delivered ∧ (step bus event).2.dropped = bus.dropped ∧
      (step bus event).1.mailboxes = 0 := by
  cases event with
  | publish message => exact absurd rfl (published message)
  | subscribe channels =>
      obtain ⟨delivered, dropped⟩ := counters_subscribe bus channels
      rcases made : bus.subscribe channels with ⟨issued, next⟩
      rw [made] at delivered dropped
      rw [step, made]
      cases issued <;> exact ⟨delivered, dropped, rfl⟩
  | read reader command =>
      obtain ⟨delivered, dropped⟩ := counters_unsubscribe bus reader
      cases command with
      | take =>
          have counters := counters_withMailbox bus reader (bus.mailbox reader).take?.2
          exact ⟨counters.1, counters.2, rfl⟩
      | poll =>
          have counters := counters_withMailbox bus reader (bus.mailbox reader).poll.2
          exact ⟨counters.1, counters.2, rfl⟩
      | isWoken => exact ⟨rfl, rfl, rfl⟩
      | isUnsubscribed => exact ⟨rfl, rfl, rfl⟩
      | unsubscribe => exact ⟨delivered, dropped, rfl⟩
      | drop => exact ⟨delivered, dropped, rfl⟩
  | shutDown => exact ⟨rfl, rfl, rfl⟩

theorem publish_or_not (event : Event) :
    (∃ message, event = .publish message) ∨ ∀ message, event ≠ .publish message := by
  cases event with
  | publish message => exact Or.inl ⟨message, rfl⟩
  | _ => exact Or.inr fun _ => nofun

/-- The counter of delivered messages moves by what the publisher is told. -/
theorem delivered_step (bus : Bus) (event : Event) :
    (step bus event).2.delivered = bus.delivered + (step bus event).1.mailboxes := by
  rcases publish_or_not event with ⟨message, rfl⟩ | published
  · rfl
  · obtain ⟨delivered, -, nothing⟩ := counters_step bus published
    rw [delivered, nothing, Nat.add_zero]

theorem counters_le_step (bus : Bus) (event : Event) :
    bus.delivered ≤ (step bus event).2.delivered ∧ bus.dropped ≤ (step bus event).2.dropped := by
  rcases publish_or_not event with ⟨message, rfl⟩ | published
  · exact ⟨Nat.le_add_right .., Nat.le_add_right ..⟩
  · obtain ⟨delivered, dropped, -⟩ := counters_step bus published
    exact ⟨Nat.le_of_eq delivered.symm, Nat.le_of_eq dropped.symm⟩

/-! ## What is in the mailboxes -/

theorem messages_take? (mailbox : Mailbox) :
    mailbox.take?.2.messages.length + (Result.read (.taken mailbox.take?.1)).messages =
      mailbox.messages.length := by
  unfold Mailbox.take?
  cases waiting : mailbox.messages with
  | nil => simp [waiting, Result.messages]
  | cons oldest rest => rfl

theorem messages_poll (mailbox : Mailbox) :
    mailbox.poll.2.messages.length + (Result.read (.polled mailbox.poll.1)).messages =
      mailbox.messages.length := by
  unfold Mailbox.poll
  cases mailbox.messages with
  | nil => cases mailbox.isOpen <;> simp [Result.messages]
  | cons oldest rest => rfl

/-- What is not in a mailbox any more was read or thrown away. -/
theorem waiting_read (consistent : bus.Consistent) (reader : Ticket) (command : Reader.Command) :
    (step bus (.read reader command)).2.subscriptions.weightAt
          (fun _ subscription => subscription.waiting) reader +
        ((step bus (.read reader command)).1.messages +
          discarded bus (.read reader command)) =
      bus.subscriptions.weightAt (fun _ subscription => subscription.waiting) reader := by
  have after : (step bus (.read reader command)).2.subscriptions.get? reader = _ :=
    get?_read consistent reader reader command
  rw [Table.weightAt, Table.weightAt, after]
  cases found : bus.subscriptions.get? reader with
  | none =>
      have gone : bus.mailbox reader = Mailbox.ended := by simp [mailbox, found]
      cases command <;>
        simp [step, read, take?, poll, gone, Mailbox.take?, Mailbox.poll, Mailbox.ended,
          Result.messages, discarded]
  | some subscription =>
      have here := mailbox_of_get? found
      simp only [Option.bind_some, Subscription.after, if_pos, Option.elim_some]
      cases command with
      | take =>
          simp only [step, read, take?, here]
          exact messages_take? subscription.mailbox
      | poll =>
          simp only [step, read, poll, here]
          exact messages_poll subscription.mailbox
      | isWoken => rfl
      | isUnsubscribed => rfl
      | unsubscribe => exact congrArg List.length (Mailbox.messages_close _)
      | drop =>
          simp only [discarded, here]
          exact (Nat.zero_add _).trans (Nat.zero_add _)

/-- A message that is published is in the mailboxes that took it, once in each. -/
theorem buffered_publish (consistent : bus.Consistent) (message : Message) :
    (bus.publish message).2.buffered = bus.buffered + (bus.publish message).1 := by
  rw [publish_fst consistent, buffered, buffered, Table.count_eq_sum, ← Table.sum_add]
  apply Table.sum_congr
  intro ticket
  rw [Table.weightAt, Table.weightAt, get?_publish consistent]
  cases bus.subscriptions.get? ticket with
  | none => rfl
  | some subscription =>
      simp only [Option.bind_some, Option.elim_some, Subscription.after]
      by_cases asked : message.channel ∈ subscription.channels
      · simp [asked, Subscription.waiting, Mailbox.length_offer]
      · simp [asked]

/-- A new mailbox is empty. -/
theorem buffered_subscribe (consistent : bus.Consistent) (channels : List String) :
    (step bus (.subscribe channels)).2.buffered = bus.buffered ∧
      (step bus (.subscribe channels)).1.messages = 0 ∧
        (step bus (.subscribe channels)).1.mailboxes = 0 := by
  rcases step_subscribe bus channels with ⟨-, -, refused⟩ | ⟨next, made, -, -, -, kept⟩
  · rw [refused]
    exact ⟨rfl, rfl, rfl⟩
  · have unused : bus.subscriptions.weightAt (fun _ subscription => subscription.waiting)
        bus.nextTicket = 0 := by
      rw [Table.weightAt]
      cases found : bus.subscriptions.get? bus.nextTicket with
      | none => rfl
      | some subscription => exact absurd (consistent.issued found) (Nat.lt_irrefl _)
    have empty : Subscription.waiting ⟨channels,
        if channels.isEmpty then .ended else .create bus.capacity, false⟩ = 0 := by
      cases channels <;> rfl
    have put := bus.subscriptions.sum_put (fun _ subscription => subscription.waiting)
      bus.nextTicket
      ⟨channels, if channels.isEmpty then .ended else .create bus.capacity, false⟩
    rw [unused, empty, ← kept] at put
    rw [made]
    exact ⟨put, rfl, rfl⟩

/-- A reader touches one mailbox. -/
theorem buffered_read (consistent : bus.Consistent) (reader : Ticket) (command : Reader.Command) :
    (step bus (.read reader command)).2.buffered +
        ((step bus (.read reader command)).1.messages +
          discarded bus (.read reader command)) =
      bus.buffered := by
  have others : ∀ other ≠ reader,
      (step bus (.read reader command)).2.subscriptions.weightAt
          (fun _ subscription => subscription.waiting) other =
        bus.subscriptions.weightAt (fun _ subscription => subscription.waiting) other := by
    intro other different
    have after : (step bus (.read reader command)).2.subscriptions.get? other = _ :=
      get?_read consistent reader other command
    rw [Table.weightAt, Table.weightAt, after]
    simp only [Subscription.after, if_neg (Ne.symm different)]
    cases bus.subscriptions.get? other <;> rfl
  have sums := Table.sum_of_others reader others
  have here := waiting_read consistent reader command
  simp only [buffered]
  omega

/-- What is in a mailbox when the bus ends stays there. -/
theorem buffered_shutDown (bus : Bus) : bus.shutDown.buffered = bus.buffered := by
  apply Table.sum_congr
  intro ticket
  rw [shutDown, Table.weightAt, Table.weightAt, Table.get?_mapValues]
  cases bus.subscriptions.get? ticket with
  | none => rfl
  | some subscription => exact congrArg List.length (Mailbox.messages_close _)

/-- What is in the mailboxes changes by what is published and read and by what is
thrown away. -/
theorem buffered_step (consistent : bus.Consistent) (event : Event) :
    (step bus event).2.buffered + ((step bus event).1.messages + discarded bus event) =
      bus.buffered + (step bus event).1.mailboxes := by
  cases event with
  | subscribe channels =>
      obtain ⟨same, unread, unsent⟩ := buffered_subscribe consistent channels
      rw [same, unread, unsent]
      rfl
  | publish message => exact buffered_publish consistent message
  | read reader command => exact buffered_read consistent reader command
  | shutDown => exact buffered_shutDown bus

/-! ## Live subscriptions -/

/-- What holds of a bus while it is there: a live subscription to any channel
has an open mailbox. -/
structure Attentive (bus : Bus) : Prop where
  exact : bus.Exact
  opened : ∀ {ticket subscription}, bus.subscriptions.get? ticket = some subscription →
    subscription.unsubscribed = false → subscription.channels ≠ [] →
      subscription.mailbox.isOpen = true

theorem attentive_create (capacity : Nat) : (create capacity).Attentive where
  exact := exact_create capacity
  opened found := by cases found

theorem attentive_step (attentive : bus.Attentive) {event : Event} (alive : event ≠ .shutDown) :
    (step bus event).2.Attentive where
  exact := exact_step attentive.exact alive
  opened {ticket left} found live asked := by
    rcases subscribe_or_quiet event with ⟨channels, rfl⟩ | quiet
    · rcases step_subscribe bus channels with ⟨-, -, refused⟩ | ⟨next, made, -, -, -, kept⟩
      · rw [refused] at found
        exact attentive.opened found live asked
      · rw [made, kept, Table.get?_put] at found
        split at found
        · cases found
          rw [if_neg (mt List.isEmpty_iff.mp asked)]
          rfl
        · exact attentive.opened found live asked
    · rw [get?_step_of_quiet attentive.exact.consistent quiet] at found
      obtain ⟨subscription, before, remains⟩ := Option.bind_eq_some_iff.mp found
      obtain ⟨lived, same⟩ := Subscription.isOpen_after alive remains live
      obtain ⟨channels, -⟩ := Subscription.after_eq_some remains
      exact same.trans (attentive.opened before lived (channels ▸ asked))

/-- The open mailboxes of those who asked for a channel are those of the live
subscriptions to it. -/
theorem Attentive.count_isOpen (attentive : bus.Attentive) (channel : String) :
    (bus.subscriptions.count fun _ subscription =>
        subscription.mailbox.isOpen && decide (channel ∈ subscription.channels)) =
      bus.subscriptions.count fun _ subscription => subscription.listensTo channel := by
  simp only [Table.count_eq_sum]
  apply Table.sum_congr
  intro ticket
  simp only [Table.weightAt]
  cases found : bus.subscriptions.get? ticket with
  | none => rfl
  | some subscription =>
      simp only [Option.elim_some, Subscription.listensTo]
      by_cases asked : channel ∈ subscription.channels
      · have any : subscription.channels ≠ [] := List.ne_nil_of_mem asked
        cases ended : subscription.unsubscribed with
        | true => rw [attentive.exact.consistent.ended found ended]; rfl
        | false => rw [attentive.opened found ended any]; rfl
      · simp [asked]

/-- A message is delivered or dropped once for each live subscription to its
channel. -/
theorem Attentive.handled_step (attentive : bus.Attentive) (event : Event) :
    (step bus event).2.delivered + (step bus event).2.dropped =
      bus.delivered + bus.dropped + listeners bus event := by
  rcases publish_or_not event with ⟨message, rfl⟩ | published
  · rw [listeners, ← attentive.count_isOpen]
    exact handled_publish attentive.exact.consistent message
  · obtain ⟨delivered, dropped, -⟩ := counters_step bus published
    have nobody : listeners bus event = 0 := by
      unfold listeners
      split
      · next message => exact absurd rfl (published message)
      · rfl
    rw [delivered, dropped, nobody, Nat.add_zero]

/-! ## Runs -/

theorem delivered_balanced :
    Balanced step (fun _ => True) (fun _ => True) delivered
      (fun bus event => (step bus event).1.mailboxes) (fun _ _ => 0) where
  kept _ _ := trivial
  balance _ _ := delivered_step ..

theorem buffered_balanced :
    Balanced step (fun _ => True) Consistent buffered
      (fun bus event => (step bus event).1.mailboxes)
      (fun bus event => (step bus event).1.messages + discarded bus event) where
  kept _ consistent := consistent_step consistent _
  balance _ consistent := buffered_step consistent _

theorem handled_balanced :
    Balanced step (· ≠ .shutDown) Attentive (fun bus => bus.delivered + bus.dropped)
      listeners (fun _ _ => 0) where
  kept alive attentive := attentive_step attentive alive
  balance _ attentive := attentive.handled_step _

/-- For as long as a bus is there its counters tell what became of everything
published. What was delivered is what the publishers were told, and it was read,
or is in a mailbox, or was thrown away with one. What was delivered or dropped
is one message for each live subscription to its channel. No step lowers a
counter, and none moves one but a message that is published. -/
theorem traffic_conserved (capacity : Nat) {events : List Event} (alive : .shutDown ∉ events) :
    let start := create capacity
    let results := (run step start events).1
    let bus := (run step start events).2
    ∃ traffic, bus.traffic? = some traffic ∧
      traffic.delivered = (results.map Result.mailboxes).sum ∧
      traffic.delivered = (results.map Result.messages).sum + bus.buffered +
        total step discarded start events ∧
      traffic.delivered + traffic.dropped = total step listeners start events ∧
      ∀ event ≠ .shutDown, ∃ later, (step bus event).2.traffic? = some later ∧
        traffic.delivered ≤ later.delivered ∧ traffic.dropped ≤ later.dropped ∧
        ((∀ message, event ≠ .publish message) →
          later.delivered = traffic.delivered ∧ later.dropped = traffic.dropped) := by
  intro start results bus
  have kinds : ∀ event ∈ events, event ≠ .shutDown := List.forall_mem_ne'.mpr alive
  have attentive : bus.Attentive :=
    handled_balanced.run_holds (attentive_create capacity) kinds
  have told : bus.delivered = (results.map Result.mailboxes).sum := by
    have balance := delivered_balanced.run_balance start trivial
      fun _ (_ : _ ∈ events) => trivial
    rw [total_zero, total_eq_sum_map] at balance
    exact balance.trans (Nat.zero_add _)
  have kept : bus.buffered + ((results.map Result.messages).sum +
      total step discarded start events) = (results.map Result.mailboxes).sum := by
    have balance := buffered_balanced.run_balance start (consistent_create capacity)
      fun _ (_ : _ ∈ events) => trivial
    rw [total_add, total_eq_sum_map, total_eq_sum_map] at balance
    exact balance.trans (Nat.zero_add _)
  have heard : bus.delivered + bus.dropped = total step listeners start events := by
    have balance := handled_balanced.run_balance start (attentive_create capacity) kinds
    rw [total_zero] at balance
    exact balance.trans (Nat.zero_add _)
  refine ⟨_, if_pos attentive.exact.running, told, ?_, heard, ?_⟩
  · dsimp only
    omega
  · intro event alive
    have later := attentive_step attentive alive
    obtain ⟨delivered, dropped⟩ := counters_le_step bus event
    refine ⟨_, if_pos later.exact.running, delivered, dropped, fun published => ?_⟩
    obtain ⟨delivered, dropped, -⟩ := counters_step bus published
    exact ⟨delivered, dropped⟩

/-- Of four deliveries one message is read, one is thrown away, one is waiting in
a mailbox that has ended and one is lost for want of room. -/
theorem traffic_conserved_full :
    let start := create 1
    let events : List Event :=
      [.subscribe ["a", "b", "a"], .publish ⟨"a", [1]⟩, .publish ⟨"b", [2]⟩, .subscribe ["b"],
        .read 1 .take, .publish ⟨"b", [3]⟩, .read 1 .unsubscribe, .read 2 .drop,
        .publish ⟨"a", [4]⟩]
    let bus := (run step start events).2
    .shutDown ∉ events ∧
      ∃ traffic, bus.traffic? = some traffic ∧ traffic.delivered = 3 ∧
        traffic.delivered + traffic.dropped = 4 := by
  intro start events bus
  have alive : .shutDown ∉ events := by decide
  have three : ((run step start events).1.map Result.mailboxes).sum = 3 := by decide
  have four : total step listeners start events = 4 := by decide
  obtain ⟨traffic, there, told, -, heard, -⟩ := traffic_conserved 1 alive
  exact ⟨alive, traffic, there, told.trans three, heard.trans four⟩

end Bus

end SharedState
