import SharedState.Proofs.Remote.Feeds
import SharedState.Proofs.Tables

/-!
# Subscriptions in the making

A subscription to several channels asks for one after the other. As soon as one
is confirmed, messages on it can come in, while others are still waited for; the
connection keeps them in order. If all channels are confirmed, these messages
are the first that the mailbox is offered. If one is not, nothing is left of the
subscription. Any reply counts as a confirmation, though, an error too.
-/

namespace SharedState

/-- Of the messages that are offered to an open mailbox one after the other, the
first ones are kept, as many as there is room for. -/
theorem Mailbox.messages_foldl_offer {mailbox : Mailbox} (isOpen : mailbox.isOpen = true)
    (fits : mailbox.messages.length ≤ mailbox.capacity) (messages : List Message) :
    (messages.foldl (fun mailbox message => (mailbox.offer message).2) mailbox).messages =
      (mailbox.messages ++ messages).take mailbox.capacity := by
  induction messages generalizing mailbox with
  | nil => rw [List.foldl_nil, List.append_nil, List.take_of_length_le fits]
  | cons message rest ih =>
      have stillOpen := (isOpen_offer mailbox message).trans isOpen
      rw [List.foldl_cons, ih stillOpen (length_offer_le message fits), capacity_offer]
      by_cases full : mailbox.capacity ≤ mailbox.messages.length
      · have exact_fit : mailbox.capacity = mailbox.messages.length := Nat.le_antisymm full fits
        have refused : (mailbox.offer message).2 = mailbox := by simp [offer, isOpen, full]
        rw [refused, exact_fit, List.take_left, List.take_left]
      · have taken : (mailbox.offer message).2.messages = mailbox.messages ++ [message] := by
          simp [offer, isOpen, full]
        rw [taken, List.append_assoc, List.singleton_append]

namespace Remote

/-! ## What comes in -/

/-- How asking for a channel fails by what the server does, if it does. -/
def Outcome.fault? (limit : Duration) : Outcome → Option Fault
  | .reply _ => none
  | .late => some (.timedOut limit)
  | .lost => some (.ofRemote broken)

/-- Something that comes over a connection while channels are asked for. -/
inductive Arrival where
  | message (sent : Message)
  /-- What the server does with the channel that is waited for. -/
  | outcome (result : Outcome)

namespace Arrival

def message? : Arrival → Option Message
  | message sent => some sent
  | outcome _ => none

def outcome? : Arrival → Option Outcome
  | message _ => none
  | outcome result => some result

/-- What came in up to an outcome. -/
structure Waiting where
  queue : List Message
  /-- The outcome, if there is one. -/
  result : Option Outcome
  /-- What comes in later. -/
  later : List Arrival

/-- Waits for the next outcome. The messages in front of it are kept. -/
def wait : List Arrival → Waiting
  | [] => ⟨[], none, []⟩
  | message sent :: rest => { wait rest with queue := sent :: (wait rest).queue }
  | outcome result :: rest => ⟨[], some result, rest⟩

theorem outcomes_wait (arrivals : List Arrival) :
    (arrivals.filterMap outcome?).head? = (wait arrivals).result ∧
      (arrivals.filterMap outcome?).tail = (wait arrivals).later.filterMap outcome? := by
  induction arrivals with
  | nil => exact ⟨rfl, rfl⟩
  | cons arrival rest ih =>
      cases arrival with
      | message sent => exact ih
      | outcome result => exact ⟨rfl, rfl⟩

/-- No message is lost by waiting. -/
theorem messages_wait (arrivals : List Arrival) :
    arrivals.filterMap message? =
      (wait arrivals).queue ++ (wait arrivals).later.filterMap message? := by
  induction arrivals with
  | nil => rfl
  | cons arrival rest ih =>
      cases arrival with
      | message sent => exact congrArg (sent :: ·) ih
      | outcome result => rfl

end Arrival

theorem Feed.Settled.receive {room : Nat} {feed : Feed} (settled : feed.Settled room)
    (messages : List Message) : (feed.receive messages).Settled room := by
  have kept : ∀ mailbox : Mailbox,
      let full := messages.foldl (fun mailbox message => (mailbox.offer message).2) mailbox
      full.isOpen = mailbox.isOpen ∧ full.capacity = mailbox.capacity := by
    induction messages with
    | nil => exact fun _ => ⟨rfl, rfl⟩
    | cons message rest ih =>
        intro mailbox
        obtain ⟨isOpen, capacity⟩ := ih (mailbox.offer message).2
        exact ⟨isOpen.trans (Mailbox.isOpen_offer mailbox message),
          capacity.trans (Mailbox.capacity_offer mailbox message)⟩
  rw [receive_eq settled]
  exact settled.withMailbox (kept feed.mailbox).1 (kept feed.mailbox).2

/-- A new feed keeps what there is room for. -/
theorem Feed.queue_receive_create (capacity : Nat) (messages : List Message) :
    ((create capacity).receive messages).receiver.queue = ⟨messages.take capacity, true⟩ := by
  have settled := settled_create capacity
  have isOpen : ((create capacity).receive messages).mailbox.isOpen = true := by
    rw [(settled.receive messages).isOpen, receive_eq settled]
    rfl
  have kept : ((create capacity).receive messages).mailbox.messages = messages.take capacity := by
    rw [receive_eq settled]
    exact Mailbox.messages_foldl_offer rfl (Nat.zero_le _) messages
  rw [receiver, Receiver.queue, PrivateQueue.ofMailbox, isOpen, kept]

namespace Session

variable {limit : Duration} {channels : List String} {outcomes : List Outcome}

/-! ## Asking for channels -/

/-- The commands that ask for channels. -/
def asking (channels : List String) : List Command := channels.map fun channel =>
  ["SUBSCRIBE", channel]

/-- How asking for one of the channels fails, if the others before were confirmed. -/
def faultAt (limit : Duration) (outcomes : List Outcome) (index : Nat) : Option Fault :=
  outcomes[index]?.bind (Outcome.fault? limit)

/-- Every channel is confirmed. -/
def Confirmed (limit : Duration) (channels : List String) (outcomes : List Outcome) : Prop :=
  ∀ index < channels.length, faultAt limit outcomes index = none

/-- All channels up to one are confirmed, and that one is not. -/
structure StopsAt (limit : Duration) (channels : List String) (outcomes : List Outcome)
    (index : Nat) (fault : Fault) : Prop where
  asked : index < channels.length
  fails : faultAt limit outcomes index = some fault
  first : ∀ earlier < index, faultAt limit outcomes earlier = none

theorem confirm_cons (limit : Duration) (channel : String) (rest : List String)
    (outcomes : List Outcome) :
    confirm limit (channel :: rest) outcomes =
      match outcomes.head?.bind (Outcome.fault? limit) with
      | some fault => ([["SUBSCRIBE", channel]], some fault)
      | none =>
          let (sent, fault) := confirm limit rest outcomes.tail
          (["SUBSCRIBE", channel] :: sent, fault) := by
  cases outcomes with
  | nil => rfl
  | cons outcome later => cases outcome <;> rfl

theorem faultAt_succ (limit : Duration) (outcomes : List Outcome) (index : Nat) :
    faultAt limit outcomes (index + 1) = faultAt limit outcomes.tail index := by
  rw [faultAt, faultAt, List.getElem?_tail]

theorem faultAt_zero (limit : Duration) (outcomes : List Outcome) :
    faultAt limit outcomes 0 = outcomes.head?.bind (Outcome.fault? limit) := by
  rw [faultAt, List.head?_eq_getElem?]

/-- Either every channel is confirmed or there is a first one that is not. -/
theorem confirmed_or_stopsAt (limit : Duration) (channels : List String)
    (outcomes : List Outcome) :
    Confirmed limit channels outcomes ∧ confirm limit channels outcomes = (asking channels, none) ∨
      ∃ index fault, StopsAt limit channels outcomes index fault ∧
        confirm limit channels outcomes = (asking (channels.take (index + 1)), some fault) := by
  induction channels generalizing outcomes with
  | nil => exact Or.inl ⟨nofun, rfl⟩
  | cons channel rest ih =>
      rw [confirm_cons, ← faultAt_zero]
      cases here : faultAt limit outcomes 0 with
      | some fault => exact Or.inr ⟨0, fault, ⟨Nat.succ_pos _, here, nofun⟩, rfl⟩
      | none =>
          rcases ih outcomes.tail with ⟨all, sent⟩ | ⟨index, fault, stops, sent⟩
          · refine Or.inl ⟨?_, by rw [sent]; rfl⟩
            intro index inside
            cases index with
            | zero => exact here
            | succ index =>
                rw [faultAt_succ]
                exact all index (Nat.lt_of_succ_lt_succ inside)
          · refine Or.inr ⟨index + 1, fault, ⟨Nat.succ_lt_succ stops.asked, ?_, ?_⟩, ?_⟩
            · rw [faultAt_succ, stops.fails]
            · intro earlier before
              cases earlier with
              | zero => exact here
              | succ earlier =>
                  rw [faultAt_succ]
                  exact stops.first earlier (Nat.lt_of_succ_lt_succ before)
            · rw [sent]
              rfl

theorem StopsAt.ne_nil {index : Nat} {fault : Fault}
    (stops : StopsAt limit channels outcomes index fault) : channels ≠ [] :=
  List.ne_nil_of_length_pos (Nat.zero_lt_of_lt stops.asked)

theorem StopsAt.not_confirmed {index : Nat} {fault : Fault}
    (stops : StopsAt limit channels outcomes index fault) :
    ¬Confirmed limit channels outcomes := by
  intro all
  cases (all index stops.asked).symm.trans stops.fails

/-- There is one first channel that is not confirmed. -/
theorem StopsAt.unique {index other : Nat} {fault otherFault : Fault}
    (stops : StopsAt limit channels outcomes index fault)
    (stops' : StopsAt limit channels outcomes other otherFault) :
    index = other ∧ fault = otherFault := by
  have same : index = other := by
    rcases Nat.lt_trichotomy index other with before | same | after
    · cases (stops'.first index before).symm.trans stops.fails
    · exact same
    · cases (stops.first other after).symm.trans stops'.fails
  subst same
  exact ⟨rfl, Option.some.inj (stops.fails.symm.trans stops'.fails)⟩

theorem confirm_of_confirmed (all : Confirmed limit channels outcomes) :
    confirm limit channels outcomes = (asking channels, none) := by
  rcases confirmed_or_stopsAt limit channels outcomes with ⟨-, sent⟩ | ⟨_, _, stops, -⟩
  · exact sent
  · exact absurd all stops.not_confirmed

theorem confirm_of_stopsAt {index : Nat} {fault : Fault}
    (stops : StopsAt limit channels outcomes index fault) :
    confirm limit channels outcomes = (asking (channels.take (index + 1)), some fault) := by
  rcases confirmed_or_stopsAt limit channels outcomes with ⟨all, -⟩ | ⟨_, _, stops', sent⟩
  · exact absurd all stops.not_confirmed
  · obtain ⟨rfl, rfl⟩ := stops.unique stops'
    exact sent

/-! ## Asking amid messages -/

/-- What came of asking for channels. -/
structure Asked where
  sent : List Command
  /-- Why not all were confirmed, unless they were. -/
  failure : Option Fault
  /-- The messages that came in meanwhile. -/
  queue : List Message

/-- Asks for channels one after the other, while messages come in. -/
def confirmAmid (limit : Duration) : List String → List Arrival → Asked
  | [], arrivals => ⟨[], none, arrivals.filterMap Arrival.message?⟩
  | channel :: rest, arrivals =>
      let waited := Arrival.wait arrivals
      match waited.result.bind (Outcome.fault? limit) with
      | some fault => ⟨[["SUBSCRIBE", channel]], some fault, waited.queue⟩
      | none =>
          let asked := confirmAmid limit rest waited.later
          ⟨["SUBSCRIBE", channel] :: asked.sent, asked.failure, waited.queue ++ asked.queue⟩

/-- Messages make no difference to what is confirmed, and none is lost if all is
confirmed. -/
theorem confirmAmid_eq (limit : Duration) (channels : List String) (arrivals : List Arrival) :
    let asked := confirmAmid limit channels arrivals
    (asked.sent, asked.failure) = confirm limit channels (arrivals.filterMap Arrival.outcome?) ∧
      (asked.failure = none → asked.queue = arrivals.filterMap Arrival.message?) := by
  induction channels generalizing arrivals with
  | nil => exact ⟨rfl, fun _ => rfl⟩
  | cons channel rest ih =>
      intro asked
      obtain ⟨head, tail⟩ := Arrival.outcomes_wait arrivals
      obtain ⟨sent, queue⟩ := ih (Arrival.wait arrivals).later
      cases found : (Arrival.wait arrivals).result.bind (Outcome.fault? limit) with
      | some fault =>
          have stops : asked =
              ⟨[["SUBSCRIBE", channel]], some fault, (Arrival.wait arrivals).queue⟩ := by
            simp only [asked, confirmAmid, found]
          rw [stops, confirm_cons, head, found]
          exact ⟨rfl, nofun⟩
      | none =>
          let further := confirmAmid limit rest (Arrival.wait arrivals).later
          have goesOn : asked = ⟨["SUBSCRIBE", channel] :: further.sent, further.failure,
              (Arrival.wait arrivals).queue ++ further.queue⟩ := by
            simp only [asked, further, confirmAmid, found]
          rw [goesOn, confirm_cons, head, tail, found, ← sent, Arrival.messages_wait]
          exact ⟨rfl, fun all => congrArg (_ ++ ·) (queue all)⟩

/-- Subscribes to channels, while messages come in over the new connection. -/
def subscribeAmid (session : Session) (channels : List String) (arrivals : List Arrival) :
    Turn × Session :=
  if channels.isEmpty then (⟨.subscribed session.nextTicket, []⟩, session.keep Feed.ended)
  else
    let attempt := session.server.attempt
    let session := { session with server := { session.server with script := attempt.script } }
    match attempt.failure with
    | some error => (⟨.failed (.ofRemote error), attempt.sent⟩, session)
    | none =>
        let asked := confirmAmid session.limit channels arrivals
        let sent := attempt.sent ++ asked.sent
        match asked.failure with
        | some fault =>
            let (tried, session) := session.idle fault
            (⟨.failed fault, sent ++ tried⟩, session)
        | none =>
            if Bus.greatestCapacity < session.capacity then (⟨.refused, sent⟩, session)
            else
              (⟨.subscribed session.nextTicket, sent⟩,
                session.keep ((Feed.create session.capacity).receive asked.queue))

variable {session : Session} {arrivals : List Arrival}

/-- Messages that come in for a new feed. -/
theorem push_keep (session : Session) (feed : Feed) (messages : List Message) :
    ((session.keep feed).push session.nextTicket messages).2 =
      session.keep (feed.receive messages) := by
  simp only [push, keep, Table.get?_put, if_pos, Table.put_put]

/-- Messages make no difference to the turn. If there is a subscription, it is as
if they had come in right behind it. -/
theorem subscribeAmid_eq (asked : channels ≠ []) (arrivals : List Arrival) :
    let plain := session.subscribe channels (arrivals.filterMap Arrival.outcome?)
    session.subscribeAmid channels arrivals =
      (plain.1,
        match plain.1.response with
        | .subscribed ticket => (plain.2.push ticket (arrivals.filterMap Arrival.message?)).2
        | _ => plain.2) := by
  intro plain
  obtain ⟨same, kept⟩ := confirmAmid_eq session.limit channels arrivals
  have nonempty : ¬channels.isEmpty = true := mt List.isEmpty_iff.mp asked
  simp only [plain, subscribeAmid, subscribe, if_neg nonempty, ← same]
  cases session.server.attempt.failure with
  | some error => rfl
  | none =>
      dsimp only
      cases failed : (confirmAmid session.limit channels arrivals).failure with
      | some fault => rfl
      | none =>
          dsimp only
          by_cases large : Bus.greatestCapacity < session.capacity
          · simp only [if_pos large]
          · simp only [if_neg large, ← kept failed]
            rw [← push_keep]

/-! ## The turn -/

/-- The session when it has tried to connect for a subscription. -/
def contacted (session : Session) : Session :=
  { session with server := { session.server with script := session.server.attempt.script } }

theorem keepsFeeds_contacted (session : Session) : session.KeepsFeeds session.contacted :=
  ⟨rfl, rfl, rfl⟩

theorem subscribe_of_failure (asked : channels ≠ []) (outcomes : List Outcome)
    {error : RemoteError} (failed : session.server.attempt.failure = some error) :
    session.subscribe channels outcomes =
      (⟨.failed (.ofRemote error), session.server.attempt.sent⟩, session.contacted) := by
  have nonempty : ¬channels.isEmpty = true := mt List.isEmpty_iff.mp asked
  simp only [subscribe, if_neg nonempty, failed, contacted]

theorem subscribe_of_stopsAt (connected : session.server.attempt.failure = none) {index : Nat}
    {fault : Fault} (stops : StopsAt session.limit channels outcomes index fault) :
    session.subscribe channels outcomes =
      (⟨.failed fault, session.server.attempt.sent ++ asking (channels.take (index + 1)) ++
          (session.contacted.idle fault).1⟩,
        (session.contacted.idle fault).2) := by
  have nonempty : ¬channels.isEmpty = true := mt List.isEmpty_iff.mp stops.ne_nil
  simp only [subscribe, if_neg nonempty, connected, contacted, confirm_of_stopsAt stops]

theorem subscribe_of_confirmed (asked : channels ≠ [])
    (connected : session.server.attempt.failure = none)
    (all : Confirmed session.limit channels outcomes) :
    session.subscribe channels outcomes =
      if Bus.greatestCapacity < session.capacity then
        (⟨.refused, session.server.attempt.sent ++ asking channels⟩, session.contacted)
      else
        (⟨.subscribed session.nextTicket, session.server.attempt.sent ++ asking channels⟩,
          session.contacted.keep (Feed.create session.capacity)) := by
  have nonempty : ¬channels.isEmpty = true := mt List.isEmpty_iff.mp asked
  simp only [subscribe, if_neg nonempty, connected, contacted, confirm_of_confirmed all]

/-- There is a subscription to some channels only over a connection, if all are
confirmed and a mailbox can be as large as it has to be. -/
theorem confirmed_of_subscribed (asked : channels ≠ []) {ticket : Ticket}
    (made : (session.subscribe channels outcomes).1.response = .subscribed ticket) :
    session.server.attempt.failure = none ∧ Confirmed session.limit channels outcomes ∧
      session.capacity ≤ Bus.greatestCapacity := by
  cases failed : session.server.attempt.failure with
  | some error =>
      rw [subscribe_of_failure asked outcomes failed] at made
      cases made
  | none =>
      rcases confirmed_or_stopsAt session.limit channels outcomes with
        ⟨all, -⟩ | ⟨index, fault, stops, -⟩
      · by_cases large : Bus.greatestCapacity < session.capacity
        · rw [subscribe_of_confirmed asked failed all, if_pos large] at made
          cases made
        · exact ⟨rfl, all, Nat.le_of_not_lt large⟩
      · rw [subscribe_of_stopsAt failed stops] at made
        cases made

/-- If all channels are confirmed, the new feed holds the messages that came in. -/
theorem subscribeAmid_of_confirmed (asked : channels ≠ [])
    (connected : session.server.attempt.failure = none)
    (all : Confirmed session.limit channels (arrivals.filterMap Arrival.outcome?))
    (fits : session.capacity ≤ Bus.greatestCapacity) :
    session.subscribeAmid channels arrivals =
      (⟨.subscribed session.nextTicket, session.server.attempt.sent ++ asking channels⟩,
        session.contacted.keep
          ((Feed.create session.capacity).receive (arrivals.filterMap Arrival.message?))) := by
  rw [subscribeAmid_eq asked, subscribe_of_confirmed asked connected all,
    if_neg (Nat.not_lt_of_le fits)]
  exact congrArg (Prod.mk _) (push_keep session.contacted _ _)

/-! ## The stream -/

/-- What a step of the session is to the queue of the subscriber with a ticket. -/
def own (ticket : Ticket) (event : Event) : Option PrivateQueue.Event :=
  (heard ticket event).bind Receiver.Event.queue?

/-- To one of its subscribers a session is a queue. -/
theorem refines_queue (room : Nat) (ticket : Ticket) :
    Refines step (Serves room ticket) (Receiver.queue ∘ (receiver · ticket)) (own ticket)
      (Receiver.reading ∘ answer?) (PrivateQueue.step room) := by
  refine (refines_receiver room ticket).comp (Receiver.refines_queue room) ?_
  intro session serves isOpen
  rw [receiver_eq_elim] at isOpen ⊢
  cases found : session.feeds.get? ticket with
  | none =>
      rw [found] at isOpen
      cases isOpen
  | some feed =>
      have settled := serves.settled found
      rw [found] at isOpen
      exact settled.sized (settled.isOpen.symm.trans isOpen)

/-- A feed that was given out is served. -/
theorem serves_keep {room : Nat} {feed : Feed} (settled : feed.Settled room) (session : Session) :
    Serves room session.nextTicket (session.keep feed) ∧
      (session.keep feed).receiver session.nextTicket = feed.receiver := by
  have found : (session.keep feed).feeds.get? session.nextTicket = some feed := by
    rw [keep, Table.get?_put, if_pos rfl]
  refine ⟨⟨Nat.lt_succ_self _, ?_⟩, by rw [receiver_eq_elim, found, Option.elim_some]⟩
  intro present there
  cases found.symm.trans there
  exact settled

/-- Of what came in while channels were asked for, the subscriber reads first
what there was room for, in order; and then what a queue gives that holds this. -/
theorem observed_keep (session : Session) (capacity : Nat) (messages : List Message)
    (events : List Event) :
    observed (own session.nextTicket) (Receiver.reading ∘ answer?) events
        (run step (session.keep ((Feed.create capacity).receive messages)) events).1 =
      (run (PrivateQueue.step capacity) ⟨messages.take capacity, true⟩
        (events.filterMap (own session.nextTicket))).1 := by
  obtain ⟨serves, receiver⟩ :=
    serves_keep ((Feed.settled_create capacity).receive messages) session
  rw [(refines_queue capacity session.nextTicket).observed_run serves, Function.comp_apply,
    receiver, Feed.queue_receive_create]

/-! ## All or nothing -/

/-- The turn of a subscription and the session from then on, by what the server
says to newcomers and by what comes in. -/
structure AllOrNothing (session : Session) (channels : List String) (arrivals : List Arrival)
    (turn : Turn) (next : Session) : Prop where
  /-- A subscription to nothing has ended already. Nothing is sent for it, and
  nothing changes but that there is one more feed. -/
  empty : channels = [] →
    turn = ⟨.subscribed session.nextTicket, []⟩ ∧ next = session.keep Feed.ended
  /-- Without a connection no channel is asked for. -/
  unconnected : channels ≠ [] → ∀ error, session.server.attempt.failure = some error →
    turn = ⟨.failed (.ofRemote error), session.server.attempt.sent⟩ ∧ session.KeepsFeeds next
  /-- The first channel that is not confirmed is the last that is asked for, and
  it is why there is no subscription. Whatever else is sent is sent over the link. -/
  stopped : session.server.attempt.failure = none → ∀ index fault,
    StopsAt session.limit channels (arrivals.filterMap Arrival.outcome?) index fault →
      turn = ⟨.failed fault, session.server.attempt.sent ++ asking (channels.take (index + 1)) ++
          (session.contacted.idle fault).1⟩ ∧
        session.KeepsFeeds next
  /-- If all channels are confirmed, there is a subscription, unless no mailbox can
  be as large as it would have to be. -/
  confirmed : channels ≠ [] → session.server.attempt.failure = none →
    Confirmed session.limit channels (arrivals.filterMap Arrival.outcome?) →
      turn.sent = session.server.attempt.sent ++ asking channels ∧
        if Bus.greatestCapacity < session.capacity then
          turn.response = .refused ∧ session.KeepsFeeds next
        else turn.response = .subscribed session.nextTicket
  subscribed_iff : (∃ ticket, turn.response = .subscribed ticket) ↔
    channels = [] ∨ session.server.attempt.failure = none ∧
      Confirmed session.limit channels (arrivals.filterMap Arrival.outcome?) ∧
      session.capacity ≤ Bus.greatestCapacity
  /-- The subscriber reads from a queue that holds the first of the messages that
  came in while channels were asked for, in order; the others found it full. -/
  stream : channels ≠ [] → ∀ ticket, turn.response = .subscribed ticket → ∀ events,
    observed (own ticket) (Receiver.reading ∘ answer?) events (run step next events).1 =
      (run (PrivateQueue.step session.capacity)
        ⟨(arrivals.filterMap Arrival.message?).take session.capacity, true⟩
        (events.filterMap (own ticket))).1

/-- A subscription to some channels is all or nothing, whatever the server does
and whatever comes in meanwhile. It takes the same turn if nothing comes in. -/
theorem subscribed_all_or_nothing (session : Session) (channels : List String)
    (arrivals : List Arrival) :
    (session.subscribeAmid channels arrivals).1 =
        (session.subscribe channels (arrivals.filterMap Arrival.outcome?)).1 ∧
      AllOrNothing session channels arrivals (session.subscribeAmid channels arrivals).1
        (session.subscribeAmid channels arrivals).2 := by
  have sameTurn : (session.subscribeAmid channels arrivals).1 =
      (session.subscribe channels (arrivals.filterMap Arrival.outcome?)).1 := by
    by_cases asked : channels = []
    · rw [asked]
      rfl
    · rw [subscribeAmid_eq asked]
  refine ⟨sameTurn, ?empty, ?unconnected, ?stopped, ?confirmed, ?subscribed_iff, ?stream⟩
  case empty =>
    rintro rfl
    exact ⟨rfl, rfl⟩
  case unconnected =>
    intro asked error failed
    rw [subscribeAmid_eq asked, subscribe_of_failure asked _ failed]
    exact ⟨rfl, session.keepsFeeds_contacted⟩
  case stopped =>
    intro connected index fault stops
    rw [subscribeAmid_eq stops.ne_nil, subscribe_of_stopsAt connected stops]
    obtain ⟨feeds, nextTicket, capacity⟩ := keepsFeeds_idle session.contacted fault
    exact ⟨rfl, feeds, nextTicket, capacity⟩
  case confirmed =>
    intro asked connected all
    rw [subscribeAmid_eq asked, subscribe_of_confirmed asked connected all]
    split
    · exact ⟨rfl, rfl, session.keepsFeeds_contacted⟩
    · exact ⟨rfl, rfl⟩
  case subscribed_iff =>
    constructor
    · rintro ⟨ticket, made⟩
      rw [sameTurn] at made
      by_cases asked : channels = []
      · exact Or.inl asked
      · exact Or.inr (confirmed_of_subscribed asked made)
    · by_cases asked : channels = []
      · rw [asked]
        exact fun _ => ⟨_, rfl⟩
      · rintro (none | ⟨connected, all, fits⟩)
        · exact absurd none asked
        · rw [subscribeAmid_of_confirmed asked connected all fits]
          exact ⟨_, rfl⟩
  case stream =>
    intro asked ticket made events
    obtain ⟨connected, all, fits⟩ := confirmed_of_subscribed asked (sameTurn ▸ made)
    rw [subscribeAmid_of_confirmed asked connected all fits] at made ⊢
    cases made
    exact observed_keep session.contacted session.capacity _ events

/-- A message on the first channel that comes in before the second is confirmed. -/
example :
    ∃ opened,
      (connect (.ofAddress "h:1") 1 (fun _ => true) []).session = .ok opened ∧
        let amid := opened.subscribeAmid ["a", "b"]
          [.outcome (.reply .okay), .message ⟨"a", [1]⟩, .outcome (.reply .okay)]
        amid.1 = ⟨.subscribed 1, [["SUBSCRIBE", "a"], ["SUBSCRIBE", "b"]]⟩ ∧
          answer? (step amid.2 (.read 1 .poll)).1 = some (.polled (.message ⟨"a", [1]⟩)) :=
  ⟨_, rfl, rfl, rfl⟩

/-- A server that refuses a channel confirms it all the same. -/
theorem refused_channel_confirmed :
    ∃ opened,
      (connect (.ofAddress "h:1") 1 (fun _ => true) []).session = .ok opened ∧
        Reply.firstError? (.error "NOPERM no") = some (.extension "NOPERM" "no") ∧
        (opened.subscribe ["a"] [.reply (.error "NOPERM no")]).1 =
          ⟨.subscribed 1, [["SUBSCRIBE", "a"]]⟩ :=
  ⟨_, rfl, rfl, rfl⟩

end Session

end Remote

end SharedState
