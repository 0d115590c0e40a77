import SharedState.Proofs.Bus.Receivers
import SharedState.Proofs.Handles
import SharedState.Remote.Session

/-!
# Subscriptions over a connection

A subscription on a server has a connection, a task that forwards messages and
a signal that stops it. While the task is idle, it forwards exactly as long as
the mailbox is open. To its subscriber a session is therefore a receiver, as
the bus is, and nobody can tell one from the other by what is received.
-/

namespace SharedState

namespace Remote

namespace Feed

/-- What a feed is to its subscriber. -/
def receiver (feed : Feed) : Receiver := ⟨feed.mailbox, feed.unsubscribed⟩

/-- Forwarding is idle: it goes on exactly while the mailbox is open, and has
ended if the subscriber ended the feed. An open mailbox has some room. -/
structure Settled (room : Nat) (feed : Feed) : Prop where
  isOpen : feed.mailbox.isOpen = feed.forwarding
  stopped : feed.unsubscribed = true → feed.forwarding = false
  sized : feed.forwarding = true → feed.mailbox.capacity = room

variable {room : Nat} {feed : Feed}

theorem settled_create (room : Nat) : (create room).Settled room where
  isOpen := rfl
  stopped ended := by cases ended
  sized _ := rfl

/-- A feed with another mailbox in the same condition. -/
theorem Settled.withMailbox (settled : feed.Settled room) {mailbox : Mailbox}
    (isOpen : mailbox.isOpen = feed.mailbox.isOpen)
    (capacity : mailbox.capacity = feed.mailbox.capacity) :
    ({ feed with mailbox } : Feed).Settled room where
  isOpen := isOpen.trans settled.isOpen
  stopped := settled.stopped
  sized forwarding := capacity.trans (settled.sized forwarding)

theorem settled_finish (room : Nat) (feed : Feed) (unsubscribed : Bool) :
    ({ feed.finish with unsubscribed } : Feed).Settled room where
  isOpen := Mailbox.isOpen_close feed.mailbox
  stopped _ := rfl
  sized forwarding := by cases forwarding

/-- Where forwarding has ended there is nothing left to end. -/
theorem Settled.finish_eq (settled : feed.Settled room) (finished : feed.forwarding = false) :
    feed.finish = feed := by
  have closed : feed.mailbox.isOpen = false := settled.isOpen.trans finished
  rw [finish, Mailbox.close_of_closed closed, ← finished]

/-- While forwarding goes on, what came in is offered to the mailbox one after
the other. -/
theorem forward_eq (settled : feed.Settled room) (forwarding : feed.forwarding = true)
    (messages : List Message) :
    feed.forward false messages =
      { feed with
        mailbox := messages.foldl (fun mailbox message => (mailbox.offer message).2)
          feed.mailbox } := by
  induction messages generalizing feed with
  | nil =>
      have running : feed.unsubscribed = false :=
        Bool.eq_false_iff.mpr fun ended => by simp [settled.stopped ended] at forwarding
      have idle : feed.forward false [] = feed := by simp [forward, running]
      exact idle
  | cons message rest ih =>
      have running : feed.unsubscribed = false :=
        Bool.eq_false_iff.mpr fun ended => by simp [settled.stopped ended] at forwarding
      have isOpen : feed.mailbox.isOpen = true := settled.isOpen.trans forwarding
      have later := ih (settled.withMailbox (Mailbox.isOpen_offer feed.mailbox message)
        (Mailbox.capacity_offer feed.mailbox message)) forwarding
      have goesOn : feed.forward false (message :: rest) =
          ({ feed with mailbox := (feed.mailbox.offer message).2 } : Feed).forward false rest := by
        unfold Mailbox.offer
        by_cases full : feed.mailbox.capacity ≤ feed.mailbox.messages.length
        · simp [forward, Mailbox.offer, running, isOpen, full]
        · simp [forward, Mailbox.offer, running, isOpen, full]
      rw [goesOn, later]
      rfl

/-- Messages that come in are offered to the mailbox one after the other. -/
theorem receive_eq (settled : feed.Settled room) (messages : List Message) :
    feed.receive messages =
      { feed with
        mailbox := messages.foldl (fun mailbox message => (mailbox.offer message).2)
          feed.mailbox } := by
  by_cases forwarding : feed.forwarding = true
  · rw [receive, wake, if_pos forwarding, forward_eq settled forwarding]
  · have closed : feed.mailbox.isOpen = false :=
      settled.isOpen.trans (Bool.eq_false_iff.mpr forwarding)
    have unchanged : messages.foldl (fun mailbox message => (mailbox.offer message).2)
        feed.mailbox = feed.mailbox := by
      induction messages with
      | nil => rfl
      | cons message rest ih => rw [List.foldl_cons, Mailbox.offer_of_closed closed, ih]
    rw [receive, wake, if_neg forwarding, unchanged]

theorem disconnect_eq (settled : feed.Settled room) : feed.disconnect = feed.finish := by
  by_cases forwarding : feed.forwarding = true
  · simp [disconnect, wake, forwarding, forward]
  · rw [disconnect, wake, if_neg forwarding,
      settled.finish_eq (Bool.eq_false_iff.mpr forwarding)]

theorem unsubscribe_eq (settled : feed.Settled room) :
    feed.unsubscribe = { feed.finish with unsubscribed := true } := by
  by_cases ended : feed.unsubscribed = true
  · rw [unsubscribe, if_pos ended, settled.finish_eq (settled.stopped ended), ← ended]
  · by_cases forwarding : feed.forwarding = true
    · simp [unsubscribe, ended, wake, forwarding, forward, finish]
    · have nothingLeft := settled.finish_eq (Bool.eq_false_iff.mpr forwarding)
      rw [nothingLeft]
      simp [unsubscribe, ended, wake, forwarding]

/-- What is left of a feed when its holder has done something with it. -/
def obey (feed : Feed) (command : Reader.Command) : Option Feed :=
  if command = .drop then none else some (feed.read command).2

theorem answer_read (feed : Feed) (command : Reader.Command) :
    (feed.read command).1 = (feed.receiver.obey command).1 := by
  cases command <;> rfl

theorem receiver_obey (settled : feed.Settled room) (command : Reader.Command) :
    (feed.obey command).elim .gone receiver = (feed.receiver.obey command).2 := by
  cases command with
  | unsubscribe =>
      rw [obey, if_neg Reader.Command.noConfusion, read, unsubscribe_eq settled]
      rfl
  | _ => rfl

theorem settled_obey (settled : feed.Settled room) {command : Reader.Command} {left : Feed}
    (remains : feed.obey command = some left) : left.Settled room := by
  cases command with
  | take =>
      cases remains
      exact settled.withMailbox (Mailbox.isOpen_take? _) (Mailbox.capacity_take? _)
  | poll =>
      cases remains
      exact settled.withMailbox (Mailbox.isOpen_poll _) (Mailbox.capacity_poll _)
  | isWoken =>
      cases remains
      exact settled
  | isUnsubscribed =>
      cases remains
      exact settled
  | unsubscribe =>
      cases remains
      rw [read, unsubscribe_eq settled]
      exact settled_finish room feed true
  | drop => cases remains

/-- What a step of the session leaves of the feed with a ticket. -/
def after (ticket : Ticket) (feed : Feed) : Session.Event → Option Feed
  | .request (.read reader command) _ => if reader = ticket then feed.obey command else some feed
  | .request _ _ => some feed
  | .message target message => some (if target = ticket then feed.receive [message] else feed)
  | .disconnect target => some (if target = ticket then feed.disconnect else feed)

theorem settled_after {ticket : Ticket} {event : Session.Event} {left : Feed}
    (settled : feed.Settled room) (remains : feed.after ticket event = some left) :
    left.Settled room := by
  cases event with
  | request request outcomes =>
      cases request with
      | read reader command =>
          simp only [after] at remains
          split at remains
          · exact settled_obey settled remains
          · cases remains
            exact settled
      | _ =>
          cases remains
          exact settled
  | message target message =>
      cases remains
      split
      · rw [receive_eq settled]
        exact settled.withMailbox (Mailbox.isOpen_offer _ _) (Mailbox.capacity_offer _ _)
      · exact settled
  | disconnect target =>
      cases remains
      split
      · rw [disconnect_eq settled]
        exact settled_finish room feed feed.unsubscribed
      · exact settled

end Feed

namespace Session

/-- What a step of the session is to the subscriber with a ticket. -/
def heard (ticket : Ticket) : Event → Option Receiver.Event
  | .request (.read reader command) _ => if reader = ticket then some (.command command) else none
  | .request _ _ => none
  | .message target message => if target = ticket then some (.message message) else none
  | .disconnect target => if target = ticket then some .lost else none

/-- What a step tells a subscriber. -/
def answer? : Option Turn → Option Reader.Answer
  | some ⟨.read answer, _⟩ => some answer
  | _ => none

/-- What the feed with a ticket is to its subscriber. -/
def receiver (session : Session) (ticket : Ticket) : Receiver := (session.feed ticket).receiver

variable {room : Nat} {channels : List String} {ticket : Ticket} {session : Session}

/-! ### What a step does to one feed -/

/-- A session in which nothing has become of the feeds. -/
structure KeepsFeeds (session next : Session) : Prop where
  feeds : next.feeds = session.feeds
  nextTicket : next.nextTicket = session.nextTicket
  capacity : next.capacity = session.capacity

theorem keepsFeeds_recover (session : Session) (lost : Bool) :
    session.KeepsFeeds (session.recover lost).2 := by
  unfold recover
  split <;> exact ⟨rfl, rfl, rfl⟩

theorem keepsFeeds_idle (session : Session) (fault : Fault) :
    session.KeepsFeeds (session.idle fault).2 := by
  unfold idle
  split <;> exact ⟨rfl, rfl, rfl⟩

/-- A dialogue is no business of the feeds. -/
theorem keepsFeeds_converse (session : Session) (dialogue : Dialogue) (outcomes : List Outcome) :
    session.KeepsFeeds (session.converse dialogue outcomes).2 := by
  unfold converse
  cases dialogue with
  | finish result => exact ⟨rfl, rfl, rfl⟩
  | ask command next =>
      dsimp only
      split
      · exact ⟨rfl, rfl, rfl⟩
      · obtain ⟨feeds, nextTicket, capacity⟩ := keepsFeeds_recover _ _
        exact ⟨feeds, nextTicket, capacity⟩

/-- A session gives out the next ticket for a new feed, or makes no feed. -/
theorem subscribe_cases (session : Session) (channels : List String) (outcomes : List Outcome) :
    ((∀ ticket, (session.subscribe channels outcomes).1.response ≠ .subscribed ticket) ∧
        ((session.subscribe channels outcomes).1.response = .refused →
          Bus.greatestCapacity < session.capacity) ∧
        session.KeepsFeeds (session.subscribe channels outcomes).2) ∨
      (session.subscribe channels outcomes).1.response = .subscribed session.nextTicket ∧
        (session.subscribe channels outcomes).2.feeds = session.feeds.put session.nextTicket
            (if channels.isEmpty then .ended else .create session.capacity) ∧
          (session.subscribe channels outcomes).2.nextTicket = session.nextTicket + 1 ∧
            (session.subscribe channels outcomes).2.capacity = session.capacity := by
  unfold subscribe
  split
  · exact Or.inr ⟨rfl, rfl, rfl, rfl⟩
  · dsimp only
    split
    · exact Or.inl ⟨fun _ => nofun, nofun, ⟨rfl, rfl, rfl⟩⟩
    · split
      · next fault _ =>
          obtain ⟨feeds, nextTicket, capacity⟩ := keepsFeeds_idle _ fault
          exact Or.inl ⟨fun _ => nofun, nofun, ⟨feeds, nextTicket, capacity⟩⟩
      · split
        · next large => exact Or.inl ⟨fun _ => nofun, fun _ => large, ⟨rfl, rfl, rfl⟩⟩
        · exact Or.inr ⟨rfl, rfl, rfl, rfl⟩

/-- No step changes the capacity or takes back a ticket that was given out. -/
theorem capacity_nextTicket_step (session : Session) (event : Event) :
    (step session event).2.capacity = session.capacity ∧
      session.nextTicket ≤ (step session event).2.nextTicket := by
  cases event with
  | request request outcomes =>
      cases request with
      | call call =>
          have kept := keepsFeeds_converse session (callDialogue call) outcomes
          exact ⟨kept.capacity, Nat.le_of_eq kept.nextTicket.symm⟩
      | publish channel text =>
          have kept := keepsFeeds_converse session (publishDialogue channel text) outcomes
          exact ⟨kept.capacity, Nat.le_of_eq kept.nextTicket.symm⟩
      | subscribe channels =>
          rcases subscribe_cases session channels outcomes with
            ⟨-, -, kept⟩ | ⟨-, -, issued, capacity⟩
          · exact ⟨kept.capacity, Nat.le_of_eq kept.nextTicket.symm⟩
          · exact ⟨capacity, Nat.le_of_lt (issued ▸ Nat.lt_succ_self _)⟩
      | read reader command => exact ⟨rfl, Nat.le_refl _⟩
  | message target message =>
      simp only [step, push]
      split <;> exact ⟨rfl, Nat.le_refl _⟩
  | disconnect target =>
      simp only [step, disconnect]
      split <;> exact ⟨rfl, Nat.le_refl _⟩

theorem get?_read (session : Session) (reader ticket : Ticket) (command : Reader.Command) :
    (session.read reader command).2.feeds.get? ticket =
      (session.feeds.get? ticket).bind fun feed =>
        if reader = ticket then feed.obey command else some feed := by
  unfold read Feed.obey Table.contains feed
  by_cases mine : reader = ticket
  · subst mine
    cases found : session.feeds.get? reader with
    | none => by_cases drops : command = .drop <;> simp [drops, found]
    | some feed => by_cases drops : command = .drop <;> simp [drops]
  · have others : ticket ≠ reader := Ne.symm mine
    by_cases drops : command = .drop
    · simp [drops, mine, others]
    · cases found : session.feeds.get? reader <;> simp [drops, mine, others]

/-- To change one feed, if it is there, leaves every other as it was. -/
theorem get?_modified (feeds : Table Ticket Feed) (target ticket : Ticket) (change : Feed → Feed) :
    ((feeds.get? target).elim feeds fun feed => feeds.put target (change feed)).get? ticket =
      (feeds.get? ticket).bind fun feed => some (if target = ticket then change feed else feed) := by
  by_cases mine : target = ticket
  · subst mine
    cases found : feeds.get? target with
    | none => rw [Option.elim_none, found, Option.bind_none]
    | some feed => simp
  · have others : ticket ≠ target := Ne.symm mine
    cases feeds.get? target with
    | none => simp [mine]
    | some feed => simp [mine, others]

/-- A step changes every feed by itself. -/
theorem get?_step (session : Session) (event : Event) (issued : ticket < session.nextTicket) :
    (step session event).2.feeds.get? ticket =
      (session.feeds.get? ticket).bind (Feed.after ticket · event) := by
  have unchanged : (session.feeds.get? ticket).bind some = session.feeds.get? ticket :=
    Option.bind_fun_some _
  cases event with
  | request request outcomes =>
      cases request with
      | call call =>
          rw [step, request, (keepsFeeds_converse session _ outcomes).feeds]
          exact unchanged.symm
      | publish channel text =>
          rw [step, request, (keepsFeeds_converse session _ outcomes).feeds]
          exact unchanged.symm
      | subscribe channels =>
          refine Eq.trans ?_ unchanged.symm
          rcases subscribe_cases session channels outcomes with
            ⟨-, -, same⟩ | ⟨-, kept, -⟩
          · exact congrArg (Table.get? · ticket) same.feeds
          · refine (congrArg (Table.get? · ticket) kept).trans ?_
            simp [Nat.ne_of_lt issued]
      | read reader command => exact get?_read session reader ticket command
  | message target message =>
      refine Eq.trans ?_ (get?_modified session.feeds target ticket (·.receive [message]))
      simp only [step, push]
      cases session.feeds.get? target <;> rfl
  | disconnect target =>
      refine Eq.trans ?_ (get?_modified session.feeds target ticket Feed.disconnect)
      simp only [step, disconnect]
      cases session.feeds.get? target <;> rfl

/-- A session that gave out a ticket, for a feed with some room. -/
structure Serves (room : Nat) (ticket : Ticket) (session : Session) : Prop where
  issued : ticket < session.nextTicket
  settled : ∀ {feed}, session.feeds.get? ticket = some feed → feed.Settled room

theorem Serves.step (serves : Serves room ticket session) (event : Event) :
    Serves room ticket (step session event).2 where
  issued := Nat.lt_of_lt_of_le serves.issued (capacity_nextTicket_step session event).2
  settled := by
    intro left found
    rw [get?_step session event serves.issued] at found
    obtain ⟨feed, before, remains⟩ := Option.bind_eq_some_iff.mp found
    exact Feed.settled_after (serves.settled before) remains

theorem receiver_eq_elim (session : Session) (ticket : Ticket) :
    session.receiver ticket = (session.feeds.get? ticket).elim .gone Feed.receiver := by
  unfold receiver feed
  cases session.feeds.get? ticket <;> rfl

/-- What a step makes of a feed is what it makes of the receiver. -/
theorem receiver_after {feed : Feed} (settled : feed.Settled room) (ticket : Ticket)
    (event : Event) :
    (feed.after ticket event).elim .gone Feed.receiver =
      (heard ticket event).elim feed.receiver fun label => (feed.receiver.step label).2 := by
  cases event with
  | request request outcomes =>
      cases request with
      | read reader command =>
          simp only [Feed.after, heard]
          split
          · exact Feed.receiver_obey settled command
          · rfl
      | _ => rfl
  | message target message =>
      simp only [Feed.after, heard]
      split
      · rw [Feed.receive_eq settled]
        rfl
      · rfl
  | disconnect target =>
      simp only [Feed.after, heard]
      split
      · rw [Feed.disconnect_eq settled]
        rfl
      · rfl

theorem receiver_step (serves : Serves room ticket session) (event : Event) :
    (step session event).2.receiver ticket =
      (heard ticket event).elim (session.receiver ticket)
        fun label => ((session.receiver ticket).step label).2 := by
  rw [receiver_eq_elim, receiver_eq_elim, get?_step session event serves.issued]
  cases found : session.feeds.get? ticket with
  | none =>
      rw [Option.bind_none, Option.elim_none]
      cases heard ticket event with
      | none => rfl
      | some label => exact (Receiver.step_gone label).symm
  | some feed => exact receiver_after (serves.settled found) ticket event

theorem answer_step {event : Event} {label : Receiver.Event}
    (means : heard ticket event = some label) :
    answer? (step session event).1 = ((session.receiver ticket).step label).1 := by
  cases event with
  | request request outcomes =>
      cases request with
      | read reader command =>
          simp only [heard] at means
          split at means
          · next mine =>
              subst mine
              cases means
              exact congrArg some (Feed.answer_read (session.feed reader) command)
          · cases means
      | _ => cases means
  | message target message =>
      simp only [heard] at means
      split at means <;> cases means
      rfl
  | disconnect target =>
      simp only [heard] at means
      split at means <;> cases means
      rfl

/-- To one of its subscribers a session is a receiver. -/
theorem refines_receiver (room : Nat) (ticket : Ticket) :
    Refines step (Serves room ticket) (receiver · ticket) (heard ticket) answer?
      Receiver.step where
  kept serves := serves.step _
  result _ means := answer_step means
  next serves means := by rw [receiver_step serves, means, Option.elim_some]
  hidden serves means := by rw [receiver_step serves, means, Option.elim_none]

/-- A session that was opened for some capacity has room for one message at
least. -/
theorem capacity_connect {settings : ServerSettings} {capacity : Nat} {listens : Endpoint → Bool}
    {script : List Reply} {opened : Session}
    (connected : (connect settings capacity listens script).session = .ok opened) :
    opened.capacity = max 1 capacity := by
  unfold connect at connected
  split at connected
  · cases connected
  · dsimp only at connected
    split at connected
    · cases connected
    · cases connected
      rfl

theorem capacity_run (session : Session) (events : List Event) :
    (run step session events).2.capacity = session.capacity := by
  have kept : ∀ state event, state.capacity = session.capacity →
      (step state event).2.capacity = session.capacity :=
    fun state event same => (capacity_nextTicket_step state event).1.trans same
  exact run_invariant kept rfl events

/-- A new subscription to some channels is served from an empty mailbox. -/
theorem serves_subscribed {outcomes : List Outcome} (asked : channels ≠ [])
    (subscribed : (session.subscribe channels outcomes).1.response = .subscribed ticket) :
    Serves session.capacity ticket (session.subscribe channels outcomes).2 ∧
      (session.subscribe channels outcomes).2.receiver ticket = .create session.capacity := by
  rcases subscribe_cases session channels outcomes with ⟨nothing, -⟩ | ⟨made, kept, issued, -⟩
  · exact absurd subscribed (nothing ticket)
  · rw [made] at subscribed
    cases subscribed
    have nonempty : ¬channels.isEmpty = true := mt List.isEmpty_iff.mp asked
    have found : (session.subscribe channels outcomes).2.feeds.get? session.nextTicket =
        some (.create session.capacity) := by
      rw [kept, Table.get?_put, if_pos rfl, if_neg nonempty]
    refine ⟨⟨issued ▸ Nat.lt_succ_self _, ?_⟩, ?_⟩
    · intro feed present
      cases found.symm.trans present
      exact Feed.settled_create session.capacity
    · rw [receiver_eq_elim, found]
      rfl

/-- A subscription on a server is as good as one on the bus. Take a session and
a bus of one capacity, after whatever went before, and a subscription to the
same channels on each. Neither is refused for its capacity. From then on, as
long as the same comes to both of them, in messages on their channels, in what
is done by the subscriber or through any handle, and in the loss of the
connection or of the bus, both give the same answers, whatever else happens on
either side; and what is read is what a queue of its own would give to the
subscriber. -/
theorem feed_eq_subscription {capacity : Nat} (fits : capacity ≤ Bus.greatestCapacity)
    {channels : List String} (asked : channels ≠ []) {settings : ServerSettings}
    {listens : Endpoint → Bool} {script : List Reply} {opened : Session}
    (connected : (connect settings capacity listens script).session = .ok opened)
    (before : List Event) (outcomes : List Outcome) (busBefore : List Bus.Event) :
    let subscribed := (run step opened before).2.subscribe channels outcomes
    let busSubscribed :=
      Bus.step (run Bus.step (Bus.create capacity) busBefore).2 (.subscribe channels)
    subscribed.1.response ≠ .refused ∧
      ∃ busTicket, busSubscribed.1 = .subscribed busTicket ∧
        ∀ ticket, subscribed.1.response = .subscribed ticket →
          ∀ handles busHandles events busEvents,
            let steps := Handles.plain Event.read handles events
            let busSteps := Handles.plain Bus.Event.read busHandles busEvents
            let received := steps.filterMap (heard ticket)
            received = busSteps.filterMap (Bus.heard channels busTicket) →
              let answers := observed (heard ticket) answer? steps
                ((run (Handles.step step .read) (subscribed.2, handles) events).1.filterMap id)
              answers = observed (Bus.heard channels busTicket) Bus.Result.answer? busSteps
                  ((run (Handles.step Bus.step .read) (busSubscribed.2, busHandles)
                    busEvents).1.filterMap id) ∧
                observed Receiver.Event.queue? Receiver.reading received answers =
                  (run (PrivateQueue.step (max capacity 1)) (.create channels)
                    (received.filterMap Receiver.Event.queue?)).1 := by
  intro subscribed busSubscribed
  have room : (run step opened before).2.capacity = max 1 capacity :=
    (capacity_run opened before).trans (capacity_connect connected)
  have busRoom : (run Bus.step (Bus.create capacity) busBefore).2.capacity = max 1 capacity :=
    Bus.capacity_run (Bus.create capacity) busBefore
  have small : ¬Bus.greatestCapacity < max 1 capacity := by
    rw [Nat.not_lt, Nat.max_le]
    exact ⟨by decide, fits⟩
  constructor
  · intro refused
    rcases subscribe_cases (run step opened before).2 channels outcomes with
      ⟨-, large, -⟩ | ⟨made, -⟩
    · exact small (room ▸ large refused)
    · cases made.symm.trans refused
  rcases Bus.step_subscribe (run Bus.step (Bus.create capacity) busBefore).2 channels with
    ⟨-, large, -⟩ | ⟨next, busMade, -⟩
  · exact absurd (busRoom ▸ large) small
  refine ⟨_, congrArg Prod.fst busMade, ?_⟩
  intro ticket made handles busHandles events busEvents steps busSteps received same answers
  have consistent := Bus.consistent_run (Bus.consistent_create capacity) busBefore
  obtain ⟨serves, fresh⟩ := serves_subscribed asked made
  obtain ⟨-, busServes, -⟩ := Bus.serves_subscribed consistent (congrArg Prod.fst busMade)
  have busFresh := Bus.receiver_subscribed asked (congrArg Prod.fst busMade)
  have turns := congrArg Prod.fst (Handles.run_plain step .read subscribed.2 handles events)
  have results := congrArg Prod.fst
    (Handles.run_plain Bus.step .read busSubscribed.2 busHandles busEvents)
  -- Both sides show what one receiver shows on what comes to it.
  have answers_eq : answers = (run Receiver.step (.create (max 1 capacity)) received).1 := by
    rw [← room, ← fresh, ← (refines_receiver _ ticket).observed_run serves steps, ← turns]
  constructor
  · rw [answers_eq, same, ← busRoom, ← busFresh,
      ← (Bus.refines_receiver _ channels _).observed_run busServes busSteps, ← results]
  · have read := (Receiver.refines_queue (max 1 capacity)).observed_run
      (Receiver.sized_create _) received
    rw [answers_eq, read, Receiver.queue_create _ asked, Nat.max_comm]

/-- A subscriber with room for one message, which ends its subscription through
a copy of a handle while that message waits. -/
theorem feed_eq_subscription_stopped :
    ∃ opened,
      (connect (.ofAddress "h:1") 1 (fun _ => true) []).session = .ok opened ∧
        let subscribed := opened.subscribe ["a", "b"] []
        let busSubscribed :=
          Bus.step (run Bus.step (Bus.create 1) [.subscribe ["a"]]).2 (.subscribe ["a", "b"])
        let events : List (Handles.Event Event) :=
          [.handle (.keep "h" 1), .direct (.message 1 ⟨"b", [1]⟩), .handle (.clone "h" "i"),
            .direct (.message 1 ⟨"a", [2]⟩), .handle (.unsubscribe "i"),
            .direct (.message 1 ⟨"a", [3]⟩), .direct (.read 1 .take), .direct (.read 1 .poll),
            .handle (.isUnsubscribed "h")]
        let busEvents : List (Handles.Event Bus.Event) :=
          [.direct (.publish ⟨"b", [1]⟩), .direct (.publish ⟨"z", [0]⟩),
            .direct (.publish ⟨"a", [2]⟩), .direct (.read 1 .poll), .direct (.read 2 .unsubscribe),
            .direct (.publish ⟨"a", [3]⟩), .direct (.read 2 .take), .direct (.read 2 .poll),
            .direct (.read 2 .isUnsubscribed)]
        observed (heard 1) answer? (Handles.plain .read .empty events)
            ((run (Handles.step step .read) (subscribed.2, .empty) events).1.filterMap id) =
          observed (Bus.heard ["a", "b"] 2) Bus.Result.answer? (Handles.plain .read .empty busEvents)
            ((run (Handles.step Bus.step .read) (busSubscribed.2, .empty) busEvents).1.filterMap
              id) ∧
        observed (heard 1) answer? (Handles.plain .read .empty events)
            ((run (Handles.step step .read) (subscribed.2, .empty) events).1.filterMap id) =
          [none, none, some .done, none, some (.taken (some ⟨"b", [1]⟩)), some (.polled .closed),
            some (.flag true)] := by
  refine ⟨_, rfl, ?_⟩
  intro subscribed busSubscribed events busEvents
  have fits : 1 ≤ Bus.greatestCapacity := by decide
  have asked : ["a", "b"] ≠ [] := by decide
  have connected : (connect (.ofAddress "h:1") 1 (fun _ => true) []).session = .ok _ := rfl
  obtain ⟨-, busTicket, busMade, alike⟩ :=
    feed_eq_subscription fits asked connected [] [] [.subscribe ["a"]]
  cases busMade
  have same := alike 1 rfl .empty .empty events busEvents rfl
  exact ⟨same.1, rfl⟩

end Session

end Remote

end SharedState
