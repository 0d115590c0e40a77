import SharedState.Proofs.Bus.Consistency
import SharedState.Proofs.Distinct
import SharedState.Proofs.Refinement

/-!
# Every subscriber reads a queue of its own

The bus keeps one table of tickets by channel and one of mailboxes by ticket.
A subscriber sees none of this. What it reads is what it would read from a
bounded queue that nobody else uses: a queue that takes each message published
on its channels while there is room, until it is closed.
-/

namespace SharedState

/-- A queue with one reader. -/
structure PrivateQueue where
  /-- What can be read, oldest first. -/
  waiting : List Message
  /-- Whether more can come. -/
  isOpen : Bool
deriving DecidableEq

namespace PrivateQueue

/-- What can happen to a queue. -/
inductive Event where
  | offer (message : Message)
  | take
  | poll
  | close
  /-- The reader goes away. -/
  | discard
deriving DecidableEq

/-- The queue of a reader of some channels. -/
def create (channels : List String) : PrivateQueue := ⟨[], !channels.isEmpty⟩

theorem create_congr {channels others : List String}
    (same : ∀ channel, channel ∈ channels ↔ channel ∈ others) :
    create channels = create others := by
  have empty : channels.isEmpty = others.isEmpty := by
    rw [Bool.eq_iff_iff, List.isEmpty_iff, List.isEmpty_iff, List.eq_nil_iff_forall_not_mem,
      List.eq_nil_iff_forall_not_mem]
    simp only [same]
  rw [create, create, empty]

/-- Whether a queue with some room takes the next message. -/
def accepts (room : Nat) (queue : PrivateQueue) : Bool :=
  queue.isOpen && decide (queue.waiting.length < room)

/-- What a reader finds who is willing to wait. -/
def found (queue : PrivateQueue) : Poll :=
  match queue.waiting with
  | oldest :: _ => .message oldest
  | [] => if queue.isOpen then .pending else .closed

/-- What the reader gets, and the queue from then on. -/
def step (room : Nat) (queue : PrivateQueue) : Event → Option Reader.Answer × PrivateQueue
  | .offer message =>
      (none,
        if queue.accepts room then { queue with waiting := queue.waiting ++ [message] } else queue)
  | .take => (some (.taken queue.waiting.head?), { queue with waiting := queue.waiting.tail })
  | .poll => (some (.polled queue.found), { queue with waiting := queue.waiting.tail })
  | .close => (none, { queue with isOpen := false })
  | .discard => (none, ⟨[], false⟩)

/-- What a reader does to its queue. -/
def Event.ofCommand? : Reader.Command → Option Event
  | .take => some .take
  | .poll => some .poll
  | .unsubscribe => some .close
  | .drop => some .discard
  | .isWoken => none
  | .isUnsubscribed => none

/-- The queue of a reader that went away. -/
def gone : PrivateQueue := ⟨[], false⟩

theorem step_gone (room : Nat) (event : Event) : (step room gone event).2 = gone := by
  cases event <;> rfl

/-- The queue in a mailbox. -/
def ofMailbox (mailbox : Mailbox) : PrivateQueue := ⟨mailbox.messages, mailbox.isOpen⟩

theorem accepts_ofMailbox {mailbox : Mailbox} {room : Nat}
    (sized : mailbox.isOpen = true → mailbox.capacity = room) :
    (ofMailbox mailbox).accepts room = mailbox.takes := by
  unfold accepts ofMailbox Mailbox.takes
  cases isOpen : mailbox.isOpen with
  | true => rw [sized isOpen]
  | false => rfl

theorem ofMailbox_offer {mailbox : Mailbox} {room : Nat}
    (sized : mailbox.isOpen = true → mailbox.capacity = room) (message : Message) :
    ofMailbox (mailbox.offer message).2 = (step room (ofMailbox mailbox) (.offer message)).2 := by
  simp only [step, accepts_ofMailbox sized]
  unfold Mailbox.offer Mailbox.takes ofMailbox
  by_cases isOpen : mailbox.isOpen = true
  · by_cases full : mailbox.capacity ≤ mailbox.messages.length
    · simp [isOpen, full, Nat.not_lt_of_le full]
    · simp [isOpen, full, Nat.lt_of_not_le full]
  · simp [isOpen]

theorem ofMailbox_close (mailbox : Mailbox) (room : Nat) :
    ofMailbox mailbox.close = (step room (ofMailbox mailbox) .close).2 := by
  unfold Mailbox.close ofMailbox
  by_cases isOpen : mailbox.isOpen = true
  · simp [isOpen, step]
  · simp [isOpen, step]

theorem ofMailbox_take? (mailbox : Mailbox) (room : Nat) :
    (some (Reader.Answer.taken mailbox.take?.1), ofMailbox mailbox.take?.2) =
      step room (ofMailbox mailbox) .take := by
  unfold Mailbox.take? ofMailbox
  cases waiting : mailbox.messages with
  | nil => simp [step, waiting]
  | cons oldest rest => rfl

theorem ofMailbox_poll (mailbox : Mailbox) (room : Nat) :
    (some (Reader.Answer.polled mailbox.poll.1), ofMailbox mailbox.poll.2) =
      step room (ofMailbox mailbox) .poll := by
  unfold Mailbox.poll ofMailbox
  cases waiting : mailbox.messages with
  | nil =>
      cases mailbox.isOpen <;> simp [step, found]
  | cons oldest rest => rfl

end PrivateQueue

namespace Bus

/-! ## The stream of one subscriber -/

/-- What a step of the bus is to the subscriber with a ticket for some channels. -/
def own (channels : List String) (ticket : Ticket) : Event → Option PrivateQueue.Event
  | .subscribe _ => none
  | .publish message => if message.channel ∈ channels then some (.offer message) else none
  | .read reader command =>
      if reader = ticket then PrivateQueue.Event.ofCommand? command else none
  | .shutDown => some .close

/-- What a step lets a subscriber read. -/
def Result.reading : Result → Option Reader.Answer
  | .read (.taken message) => some (.taken message)
  | .read (.polled poll) => some (.polled poll)
  | _ => none

/-- The queue in the mailbox of a subscriber. -/
def queue (bus : Bus) (ticket : Ticket) : PrivateQueue :=
  PrivateQueue.ofMailbox (bus.mailbox ticket)

/-- A bus whose mailboxes have some room, and that gave out a ticket for some
channels. -/
structure Serves (room : Nat) (channels : List String) (ticket : Ticket) (bus : Bus) : Prop where
  consistent : bus.Consistent
  capacity : bus.capacity = room
  issued : ticket < bus.nextTicket
  agreed : ∀ {subscription}, bus.subscriptions.get? ticket = some subscription →
    subscription.channels = channels

variable {room : Nat} {channels : List String} {ticket : Ticket} {bus : Bus}

theorem Serves.sized (serves : Serves room channels ticket bus) :
    (bus.mailbox ticket).isOpen = true → (bus.mailbox ticket).capacity = room := by
  intro isOpen
  cases found : bus.subscriptions.get? ticket with
  | none =>
      rw [mailbox, found] at isOpen
      cases isOpen
  | some subscription =>
      rw [mailbox_of_get? found] at isOpen ⊢
      rw [serves.consistent.sized found isOpen, serves.capacity]

theorem Serves.step (serves : Serves room channels ticket bus) (event : Event) :
    Serves room channels ticket (step bus event).2 where
  consistent := consistent_step serves.consistent event
  capacity := (capacity_step bus event).trans serves.capacity
  issued := Nat.lt_of_lt_of_le serves.issued (nextTicket_le_step bus event)
  agreed := by
    intro left found
    rw [get?_step serves.consistent event serves.issued] at found
    obtain ⟨subscription, before, remains⟩ := Option.bind_eq_some_iff.mp found
    rw [(Subscription.after_eq_some remains).1, serves.agreed before]

/-- What a step makes of the queue of a subscription. -/
theorem queue_after {subscription : Subscription}
    (sized : subscription.mailbox.isOpen = true → subscription.mailbox.capacity = room)
    (ticket : Ticket) (event : Event) :
    ((subscription.after ticket event).elim .gone (PrivateQueue.ofMailbox ·.mailbox)) =
      (own subscription.channels ticket event).elim (.ofMailbox subscription.mailbox)
        fun label => (PrivateQueue.step room (.ofMailbox subscription.mailbox) label).2 := by
  cases event with
  | subscribe others => rfl
  | publish message =>
      simp only [Subscription.after, own]
      by_cases mine : message.channel ∈ subscription.channels
      · simp only [if_pos mine, Option.elim_some]
        exact PrivateQueue.ofMailbox_offer sized message
      · simp [mine]
  | read reader command =>
      simp only [Subscription.after, own]
      by_cases mine : reader = ticket
      · simp only [if_pos mine]
        cases command with
        | take => exact congrArg Prod.snd (PrivateQueue.ofMailbox_take? subscription.mailbox room)
        | poll => exact congrArg Prod.snd (PrivateQueue.ofMailbox_poll subscription.mailbox room)
        | unsubscribe => exact PrivateQueue.ofMailbox_close subscription.mailbox room
        | drop => rfl
        | isWoken => rfl
        | isUnsubscribed => rfl
      · simp [mine]
  | shutDown => exact PrivateQueue.ofMailbox_close subscription.mailbox room

theorem queue_eq_elim (bus : Bus) (ticket : Ticket) :
    queue bus ticket = (bus.subscriptions.get? ticket).elim .gone (.ofMailbox ·.mailbox) := by
  unfold queue mailbox
  cases bus.subscriptions.get? ticket <;> rfl

theorem queue_step (serves : Serves room channels ticket bus) (event : Event) :
    queue (step bus event).2 ticket =
      (own channels ticket event).elim (queue bus ticket)
        fun label => (PrivateQueue.step room (queue bus ticket) label).2 := by
  have sized := serves.sized
  rw [queue_eq_elim, get?_step serves.consistent event serves.issued]
  cases found : bus.subscriptions.get? ticket with
  | none =>
      have empty : queue bus ticket = .gone := by rw [queue_eq_elim, found, Option.elim_none]
      rw [empty, Option.bind_none, Option.elim_none]
      cases own channels ticket event with
      | none => rfl
      | some label => exact (PrivateQueue.step_gone room label).symm
  | some subscription =>
      rw [mailbox_of_get? found] at sized
      rw [Option.bind_some, queue_after sized, serves.agreed found, queue, mailbox_of_get? found]

/-- What a step lets the subscriber read. -/
theorem reading_step (serves : Serves room channels ticket bus) {event : Event}
    {label : PrivateQueue.Event} (means : own channels ticket event = some label) :
    (step bus event).1.reading = (PrivateQueue.step room (queue bus ticket) label).1 := by
  cases event with
  | subscribe others => cases means
  | publish message =>
      simp only [own] at means
      split at means <;> cases means
      rfl
  | read reader command =>
      simp only [own] at means
      split at means
      · next mine =>
          subst mine
          cases command <;> cases means
          · exact congrArg Prod.fst (PrivateQueue.ofMailbox_take? (bus.mailbox reader) room)
          · exact congrArg Prod.fst (PrivateQueue.ofMailbox_poll (bus.mailbox reader) room)
          · rfl
          · rfl
      · cases means
  | shutDown =>
      cases means
      rfl

/-- To one of its subscribers the bus is a queue. -/
theorem refines_queue (room : Nat) (channels : List String) (ticket : Ticket) :
    Refines step (Serves room channels ticket) (queue · ticket) (own channels ticket)
      Result.reading (PrivateQueue.step room) where
  kept serves := serves.step _
  result serves means := reading_step serves means
  next serves means := by rw [queue_step serves, means, Option.elim_some]
  hidden serves means := by rw [queue_step serves, means, Option.elim_none]

/-- A new subscription is served from an empty queue, under a ticket that was
not given out before. -/
theorem serves_subscribed (consistent : bus.Consistent)
    (subscribed : (step bus (.subscribe channels)).1 = .subscribed ticket) :
    ticket = bus.nextTicket ∧
      Serves bus.capacity channels ticket (step bus (.subscribe channels)).2 ∧
        queue (step bus (.subscribe channels)).2 ticket = .create channels ∧
          ∀ other ≠ ticket, (step bus (.subscribe channels)).2.subscriptions.get? other =
            bus.subscriptions.get? other := by
  rcases step_subscribe bus channels with
    ⟨-, -, refused⟩ | ⟨next, made, nextTicket, capacity, joined, kept⟩
  · rw [refused] at subscribed
    cases subscribed
  · rw [made] at subscribed ⊢
    cases subscribed
    have found : next.subscriptions.get? bus.nextTicket = some
        ⟨channels, if channels.isEmpty then .ended else .create bus.capacity, false⟩ := by
      rw [kept, Table.get?_put, if_pos rfl]
    refine ⟨rfl, ?_, ?_, ?_⟩
    · constructor
      · exact consistent_subscribe consistent nextTicket capacity joined kept
      · exact capacity
      · exact nextTicket ▸ Nat.lt_succ_self _
      · intro subscription present
        rw [found, Option.some.injEq] at present
        rw [← present]
    · rw [queue, mailbox_of_get? found]
      cases channels <;> rfl
    · intro other different
      rw [kept, Table.get?_put, if_neg different]

/-- A subscriber reads what it would read from a queue of its own. -/
theorem observed_subscribed (consistent : bus.Consistent)
    (subscribed : (step bus (.subscribe channels)).1 = .subscribed ticket) (after : List Event) :
    observed (own channels ticket) Result.reading after
        (run step (step bus (.subscribe channels)).2 after).1 =
      (run (PrivateQueue.step bus.capacity) (.create channels)
        (after.filterMap (own channels ticket))).1 := by
  obtain ⟨-, serves, fresh, -⟩ := serves_subscribed consistent subscribed
  rw [(refines_queue bus.capacity channels ticket).observed_run serves, fresh]

/-! ## All subscribers together -/

/-- A subscriber, with a queue. -/
structure Subscriber where
  ticket : Ticket
  channels : List String
  /-- The queue that it would read from by itself. -/
  queue : PrivateQueue

/-- Whether a subscriber with some room would take a message. -/
def Subscriber.takes (room : Nat) (message : Message) (subscriber : Subscriber) : Bool :=
  decide (message.channel ∈ subscriber.channels) && subscriber.queue.accepts room

/-- The subscribers of a run. The queue of each is what became of an empty
queue by the steps that came later, as far as they were its own. -/
def audience (room : Nat) : List Event → List Result → List Subscriber
  | .subscribe channels :: events, .subscribed ticket :: results =>
      ⟨ticket, channels,
          (run (PrivateQueue.step room) (.create channels)
            (events.filterMap (own channels ticket))).2⟩ ::
        audience room events results
  | _ :: events, _ :: results => audience room events results
  | _, _ => []

/-- A step makes a subscriber, or no subscription at all. -/
theorem audience_cons (consistent : bus.Consistent) (event : Event) (events : List Event)
    (results : List Result) :
    (∃ channels, event = .subscribe channels ∧
        (step bus event).1 = .subscribed bus.nextTicket) ∨
      audience room (event :: events) ((step bus event).1 :: results) =
          audience room events results ∧
        ∀ ticket, bus.subscriptions.get? ticket = none →
          (step bus event).2.subscriptions.get? ticket = none := by
  rcases subscribe_or_quiet event with ⟨channels, rfl⟩ | quiet
  · rcases step_subscribe bus channels with ⟨-, -, refused⟩ | ⟨next, made, -⟩
    · rw [refused]
      exact Or.inr ⟨rfl, fun _ => id⟩
    · rw [made]
      exact Or.inl ⟨channels, rfl, rfl⟩
  · right
    constructor
    · cases event with
      | subscribe channels => exact absurd rfl (quiet channels)
      | _ => rfl
    · intro ticket unknown
      rw [get?_step_of_quiet consistent quiet, unknown, Option.bind_none]

/-- The subscribers since an earlier state account for the mailboxes of a bus:
there is one for each ticket, with the queue in its mailbox. -/
structure Accounts (earlier bus : Bus) (audience : List Subscriber) : Prop where
  later : ∀ subscriber ∈ audience, earlier.nextTicket ≤ subscriber.ticket
  distinct : (audience.map (·.ticket)).Nodup
  queue_eq : ∀ subscriber ∈ audience, queue bus subscriber.ticket = subscriber.queue
  agreed : ∀ subscriber ∈ audience, ∀ {subscription},
    bus.subscriptions.get? subscriber.ticket = some subscription →
      subscription.channels = subscriber.channels
  complete : ∀ {ticket}, earlier.subscriptions.get? ticket = none →
    bus.subscriptions.get? ticket ≠ none →
      ∃ subscriber ∈ audience, subscriber.ticket = ticket

/-- A new subscriber comes in addition to those that come later. -/
theorem Accounts.cons {events : List Event} {audience : List Subscriber}
    (consistent : bus.Consistent)
    (subscribed : (step bus (.subscribe channels)).1 = .subscribed ticket)
    (accounts : Accounts (step bus (.subscribe channels)).2
      (run step (step bus (.subscribe channels)).2 events).2 audience) :
    Accounts bus (run step (step bus (.subscribe channels)).2 events).2
      (⟨ticket, channels,
          (run (PrivateQueue.step bus.capacity) (.create channels)
            (events.filterMap (own channels ticket))).2⟩ :: audience) := by
  obtain ⟨rfl, serves, fresh, others⟩ := serves_subscribed consistent subscribed
  have grows := nextTicket_le_step bus (.subscribe channels)
  constructor
  · intro subscriber member
    rcases List.mem_cons.mp member with rfl | member
    · exact Nat.le_refl _
    · exact Nat.le_trans grows (accounts.later subscriber member)
  · rw [List.map_cons, List.nodup_cons]
    constructor
    · intro member
      obtain ⟨subscriber, member, same⟩ := List.mem_map.mp member
      have later := accounts.later subscriber member
      rw [same] at later
      exact Nat.not_lt_of_le later serves.issued
    · exact accounts.distinct
  · intro subscriber member
    rcases List.mem_cons.mp member with rfl | member
    · have refines := refines_queue bus.capacity channels bus.nextTicket
      rw [refines.view_run serves events, fresh]
    · exact accounts.queue_eq subscriber member
  · intro subscriber member
    rcases List.mem_cons.mp member with rfl | member
    · have kept : ∀ state event, Serves bus.capacity channels bus.nextTicket state →
          Serves bus.capacity channels bus.nextTicket (step state event).2 :=
        fun _ event serves => serves.step event
      exact fun {_} found => (run_invariant kept serves events).agreed found
    · exact accounts.agreed subscriber member
  · intro other unknown known
    by_cases new : other = bus.nextTicket
    · exact ⟨_, List.mem_cons_self, new.symm⟩
    · obtain ⟨subscriber, member, same⟩ :=
        accounts.complete ((others other new).trans unknown) known
      exact ⟨subscriber, List.mem_cons_of_mem _ member, same⟩

theorem accounts_run (consistent : bus.Consistent) (events : List Event) :
    Accounts bus (run step bus events).2
      (audience bus.capacity events (run step bus events).1) := by
  induction events generalizing bus with
  | nil =>
      constructor
      · exact fun _ member => nomatch member
      · exact List.nodup_nil
      · exact fun _ member => nomatch member
      · exact fun _ member => nomatch member
      · exact fun unknown known => absurd unknown known
  | cons event rest ih =>
      have accounts := ih (consistent_step consistent event)
      rw [capacity_step] at accounts
      rw [run_cons]
      rcases audience_cons consistent event rest (run step (step bus event).2 rest).1 with
        ⟨channels, rfl, subscribed⟩ | ⟨same, unknown_step⟩
      · rw [subscribed, audience]
        exact accounts.cons consistent subscribed
      · -- Nobody new: the later subscribers account for the same mailboxes.
        rw [same]
        have grows := nextTicket_le_step bus event
        constructor
        · exact fun subscriber member => Nat.le_trans grows (accounts.later subscriber member)
        · exact accounts.distinct
        · exact accounts.queue_eq
        · exact accounts.agreed
        · exact fun unknown known => accounts.complete (unknown_step _ unknown) known

theorem Accounts.takes_iff {earlier : Bus} {audience : List Subscriber}
    (accounts : Accounts earlier bus audience) (consistent : bus.Consistent)
    {subscriber : Subscriber} (member : subscriber ∈ audience) (message : Message) :
    subscriber.takes bus.capacity message = true ↔
      subscriber.ticket ∈ bus.registered message.channel ∧
        (bus.subscriptions.get? subscriber.ticket).any (·.mailbox.takes) = true := by
  unfold Subscriber.takes
  rw [← accounts.queue_eq subscriber member, queue_eq_elim]
  cases found : bus.subscriptions.get? subscriber.ticket with
  | none => simp [PrivateQueue.gone, PrivateQueue.accepts]
  | some subscription =>
      rw [Option.elim_some, Option.any_some, Bool.and_eq_true, decide_eq_true_eq,
        PrivateQueue.accepts_ofMailbox (consistent.sized found),
        ← accounts.agreed subscriber member found]
      apply and_congr_left
      intro taken
      have isOpen : subscription.mailbox.isOpen = true := (Bool.and_eq_true_iff.mp taken).1
      exact (consistent.registered_iff found isOpen message.channel).symm

/-- As many mailboxes take a message as there are subscribers that would take
it by themselves. -/
theorem publish_eq_countP {earlier : Bus} {audience : List Subscriber}
    (accounts : Accounts earlier bus audience) (consistent : bus.Consistent)
    (nobody : ∀ ticket, earlier.subscriptions.get? ticket = none) (message : Message) :
    (bus.publish message).1 = audience.countP (·.takes bus.capacity message) := by
  let takes := fun ticket => (bus.subscriptions.get? ticket).any (·.mailbox.takes)
  have counted := accepted_deliver message (consistent.distinct message.channel) ⟨0, 0⟩
    bus.subscriptions
  have takers : (bus.registered message.channel).countP takes =
      audience.countP (·.takes bus.capacity message) := by
    apply countP_eq_countP (consistent.distinct _) accounts.distinct
    intro ticket
    constructor
    · rintro ⟨registered, taken⟩
      have known : bus.subscriptions.get? ticket ≠ none := by
        intro unknown
        simp [takes, unknown] at taken
      obtain ⟨subscriber, member, rfl⟩ := accounts.complete (nobody ticket) known
      have accepted := (accounts.takes_iff consistent member message).mpr ⟨registered, taken⟩
      exact ⟨subscriber, member, accepted, rfl⟩
    · rintro ⟨subscriber, member, taken, rfl⟩
      exact (accounts.takes_iff consistent member message).mp taken
  calc (bus.publish message).1
      = (bus.registered message.channel).countP takes := counted.trans (Nat.zero_add _)
    _ = audience.countP (·.takes bus.capacity message) := takers

/-- What holds of every bus that a run reaches. -/
theorem accounts_of_reached {capacity : Nat} {before : List Event} {results : List Result}
    (reached : run step (create capacity) before = (results, bus)) :
    bus.Consistent ∧ bus.capacity = max capacity 1 ∧
      Accounts (create capacity) bus (audience (max capacity 1) before results) := by
  have room : (create capacity).capacity = max capacity 1 := Nat.max_comm 1 capacity
  have keeps : ∀ (state : Bus) (event : Event),
      state.Consistent ∧ state.capacity = max capacity 1 →
        (step state event).2.Consistent ∧ (step state event).2.capacity = max capacity 1 :=
    fun state event holds => ⟨consistent_step holds.1 event,
      (capacity_step state event).trans holds.2⟩
  have kept := run_invariant keeps ⟨consistent_create capacity, room⟩ before
  have accounts := accounts_run (consistent_create capacity) before
  rw [room] at accounts
  rw [reached] at kept accounts
  exact ⟨kept.1, kept.2, accounts⟩

/-- After any run, a new subscriber reads from then on what a queue of its own
would give it, whatever else happens; a message that is published next is taken
by those subscribers whose own queue would take it. What a subscriber reads
depends on the set of its channels and on its own steps and on nothing else. -/
theorem streams_eq_private_queues {capacity : Nat} {before : List Event} {results : List Result}
    {bus : Bus} (reached : run step (create capacity) before = (results, bus)) :
    (∀ channels ticket, (step bus (.subscribe channels)).1 = .subscribed ticket → ∀ after,
        observed (own channels ticket) Result.reading after
            (run step (step bus (.subscribe channels)).2 after).1 =
          (run (PrivateQueue.step (max capacity 1)) (.create channels)
            (after.filterMap (own channels ticket))).1) ∧
      (∀ message, (step bus (.publish message)).1 =
        .delivered ((audience (max capacity 1) before results).countP
          (·.takes (max capacity 1) message))) ∧
      (∀ channels, max capacity 1 ≤ greatestCapacity →
        ∃ ticket, (step bus (.subscribe channels)).1 = .subscribed ticket) ∧
      ∀ otherBefore otherResults otherBus, run step (create capacity) otherBefore =
          (otherResults, otherBus) →
        ∀ channels others, (∀ channel, channel ∈ channels ↔ channel ∈ others) →
          ∀ ticket otherTicket, (step bus (.subscribe channels)).1 = .subscribed ticket →
            (step otherBus (.subscribe others)).1 = .subscribed otherTicket →
              ∀ after otherAfter,
                after.filterMap (own channels ticket) =
                    otherAfter.filterMap (own others otherTicket) →
                  observed (own channels ticket) Result.reading after
                      (run step (step bus (.subscribe channels)).2 after).1 =
                    observed (own others otherTicket) Result.reading otherAfter
                      (run step (step otherBus (.subscribe others)).2 otherAfter).1 := by
  obtain ⟨consistent, room, accounts⟩ := accounts_of_reached reached
  refine ⟨?_, ?_, ?_, ?_⟩
  · intro channels ticket subscribed after
    rw [observed_subscribed consistent subscribed, room]
  · intro message
    have published := publish_eq_countP accounts consistent (fun _ => rfl) message
    rw [room] at published
    exact congrArg Result.delivered published
  · intro channels fits
    rcases step_subscribe bus channels with ⟨-, large, -⟩ | ⟨next, made, -⟩
    · exact absurd (room ▸ large) (Nat.not_lt_of_le fits)
    · exact ⟨bus.nextTicket, congrArg Prod.fst made⟩
  · intro otherBefore otherResults otherBus otherReached channels others same ticket otherTicket
      subscribed otherSubscribed after otherAfter alike
    obtain ⟨otherConsistent, otherRoom, -⟩ := accounts_of_reached otherReached
    rw [observed_subscribed consistent subscribed, room, alike,
      observed_subscribed otherConsistent otherSubscribed, otherRoom,
      PrivateQueue.create_congr same]

/-- A subscriber with room for one message, which names a channel twice, loses
what comes while it does not read and what comes after its end. -/
theorem streams_eq_private_queues_full :
    let bus := (step (create 1) (.subscribe ["a"])).2
    let after : List Event :=
      [.publish ⟨"a", [1]⟩, .publish ⟨"b", [2]⟩, .read 1 .poll, .read 2 .poll, .read 2 .unsubscribe,
        .publish ⟨"a", [3]⟩, .read 2 .take]
    (step bus (.subscribe ["b", "a", "b"])).1 = .subscribed 2 ∧
      observed (own ["b", "a", "b"] 2) Result.reading after
          (run step (step bus (.subscribe ["b", "a", "b"])).2 after).1 =
        [none, none, some (.polled (.message ⟨"a", [1]⟩)), none, none, some (.taken none)] ∧
      (step bus (.publish ⟨"a", [1]⟩)).1 = .delivered 1 := by
  have reached : run step (create 1) [.subscribe ["a"]] = ([.subscribed 1], _) := rfl
  have subscribed : (step (step (create 1) (.subscribe ["a"])).2 (.subscribe ["b", "a", "b"])).1 =
    .subscribed 2 := rfl
  obtain ⟨streams, published, -⟩ := streams_eq_private_queues reached
  refine ⟨subscribed, ?_, ?_⟩
  · exact (streams _ _ subscribed _).trans (by decide)
  · exact (published _).trans (by decide)

end Bus

end SharedState
