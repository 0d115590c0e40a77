import SharedState.Reader
import SharedState.Run
import SharedState.Table
import SharedState.Text.Decimal

/-!
# The bus

Subscriptions to channels, each with a mailbox of its own. A message that is
published goes to the mailbox of every subscription that is registered on its
channel at that moment, and only a full mailbox loses it. A subscription is
known by its ticket; no ticket is given out twice.
-/

namespace SharedState

open SharedState.Text

/-- What a subscription is known by. Tickets count up from one and are taken to
stay below 2^64: a 64-bit counter gives the same ones until it wraps. -/
abbrev Ticket := Nat

/-- A stream of messages from some channels. -/
structure Subscription where
  /-- The channels that were asked for, as often as they were named. -/
  channels : List String
  /-- What was delivered and not yet read. -/
  mailbox : Mailbox
  /-- Whether it was ended by the subscriber. -/
  unsubscribed : Bool
deriving DecidableEq

/-- The counters of a bus, all taken to stay below 2^64. -/
structure Traffic where
  subscribers : Nat
  channels : Nat
  /-- Messages taken by a mailbox, counted once for each. -/
  delivered : Nat
  /-- Messages lost at a full mailbox, counted once for each. -/
  dropped : Nat
deriving DecidableEq

/-- Subscriptions, and who is registered where. Counters in 64 bits show the same
as these numbers while they are below 2^64. -/
structure Bus where
  capacity : Nat
  /-- The ticket that is given out next. -/
  nextTicket : Ticket
  /-- The tickets registered on each channel that has any. -/
  channels : Table String (List Ticket)
  /-- The subscriptions that their subscribers still hold on to. -/
  subscriptions : Table Ticket Subscription
  subscribers : Nat
  delivered : Nat
  dropped : Nat
  /-- Whether the bus is still there. -/
  running : Bool
deriving DecidableEq

namespace Bus

/-- The capacity of a mailbox if none is chosen. -/
def defaultCapacity : Nat := 100

/-- The greatest capacity that a mailbox can have. -/
def greatestCapacity : Nat := 0x1FFFFFFFFFFFFFFF

/-- A bus without subscriptions; a mailbox has room for at least one message. -/
def create (capacity : Nat) : Bus where
  capacity := max 1 capacity
  nextTicket := 1
  channels := Table.empty
  subscriptions := Table.empty
  subscribers := 0
  delivered := 0
  dropped := 0
  running := true

/-- The tickets registered on a channel. -/
def registered (bus : Bus) (channel : String) : List Ticket :=
  (bus.channels.get? channel).getD []

/-- Registers a ticket on channels. A channel named twice counts once. -/
def join (ticket : Ticket) :
    List String → Table String (List Ticket) → Table String (List Ticket)
  | [], channels => channels
  | channel :: rest, channels =>
      let tickets := (channels.get? channel).getD []
      join ticket rest
        (if ticket ∈ tickets then channels else channels.put channel (tickets ++ [ticket]))

/-- Takes a ticket off channels. A channel without tickets is forgotten. -/
def leave (ticket : Ticket) :
    List String → Table String (List Ticket) → Table String (List Ticket)
  | [], channels => channels
  | channel :: rest, channels =>
      match channels.get? channel with
      | none => leave ticket rest channels
      | some tickets =>
          let others := tickets.filter (· ≠ ticket)
          leave ticket rest
            (if others.isEmpty then channels.erase channel else channels.put channel others)

/-- Keeps a new subscription. -/
def keep (bus : Bus) (subscription : Subscription) : Bus :=
  { bus with
    nextTicket := bus.nextTicket + 1
    subscriptions := bus.subscriptions.put bus.nextTicket subscription }

/-- Subscribes to channels: the ticket, unless mailboxes of the capacity of
the bus cannot be made. A subscription to nothing has ended already and is
not registered. -/
def subscribe (bus : Bus) (channels : List String) : Option Ticket × Bus :=
  if channels.isEmpty then
    (some bus.nextTicket, bus.keep ⟨[], Mailbox.ended, false⟩)
  else if greatestCapacity < bus.capacity then (none, bus)
  else
    (some bus.nextTicket,
      { bus.keep ⟨channels, Mailbox.create bus.capacity, false⟩ with
        channels := join bus.nextTicket channels bus.channels
        subscribers := bus.subscribers + 1 })

/-- How many mailboxes took a message, and how many were full. -/
structure Tally where
  accepted : Nat
  full : Nat
deriving DecidableEq

/-- Adds one delivery to a tally. -/
def Tally.add (tally : Tally) : Delivery → Tally
  | .accepted => { tally with accepted := tally.accepted + 1 }
  | .full => { tally with full := tally.full + 1 }
  | .closed => tally

/-- Offers a message to the subscriptions with the given tickets. -/
def deliver (message : Message) :
    List Ticket → Tally × Table Ticket Subscription → Tally × Table Ticket Subscription
  | [], state => state
  | ticket :: rest, (tally, subscriptions) =>
      match subscriptions.get? ticket with
      | none => deliver message rest (tally, subscriptions)
      | some subscription =>
          let (delivery, mailbox) := subscription.mailbox.offer message
          deliver message rest
            (tally.add delivery, subscriptions.put ticket { subscription with mailbox })

/-- Publishes a message: how many mailboxes took it. -/
def publish (bus : Bus) (message : Message) : Nat × Bus :=
  let (tally, subscriptions) :=
    deliver message (bus.registered message.channel) (⟨0, 0⟩, bus.subscriptions)
  (tally.accepted,
    { bus with
      subscriptions
      delivered := bus.delivered + tally.accepted
      dropped := bus.dropped + tally.full })

/-- Ends a subscription; what is in its mailbox can still be read. Only the
first time has an effect. -/
def unsubscribe (bus : Bus) (ticket : Ticket) : Bus :=
  match bus.subscriptions.get? ticket with
  | none => bus
  | some subscription =>
      if subscription.unsubscribed then bus
      else
        let ended :=
          { subscription with mailbox := subscription.mailbox.close, unsubscribed := true }
        let bus := { bus with subscriptions := bus.subscriptions.put ticket ended }
        if bus.running && !subscription.channels.isEmpty then
          { bus with
            channels := leave ticket subscription.channels bus.channels
            subscribers := bus.subscribers - 1 }
        else bus

/-- Ends a subscription and throws its mailbox away. -/
def drop (bus : Bus) (ticket : Ticket) : Bus :=
  let bus := bus.unsubscribe ticket
  { bus with subscriptions := bus.subscriptions.erase ticket }

/-- Whether a subscription was ended by its subscriber; one that was thrown
away was. -/
def isUnsubscribed (bus : Bus) (ticket : Ticket) : Bool :=
  match bus.subscriptions.get? ticket with
  | none => true
  | some subscription => subscription.unsubscribed

/-- Changes the mailbox of a subscription. -/
def withMailbox (bus : Bus) (ticket : Ticket) (mailbox : Mailbox) : Bus :=
  match bus.subscriptions.get? ticket with
  | none => bus
  | some subscription =>
      { bus with subscriptions := bus.subscriptions.put ticket { subscription with mailbox } }

/-- The mailbox of a subscription; one that was thrown away has ended. -/
def mailbox (bus : Bus) (ticket : Ticket) : Mailbox :=
  match bus.subscriptions.get? ticket with
  | none => Mailbox.ended
  | some subscription => subscription.mailbox

/-- Takes the oldest message of a subscription, if there is one. -/
def take? (bus : Bus) (ticket : Ticket) : Option Message × Bus :=
  let (message, mailbox) := (bus.mailbox ticket).take?
  (message, bus.withMailbox ticket mailbox)

/-- Takes the oldest message of a subscription, or waits for one. -/
def poll (bus : Bus) (ticket : Ticket) : Poll × Bus :=
  let (poll, mailbox) := (bus.mailbox ticket).poll
  (poll, bus.withMailbox ticket mailbox)

/-- Ends the bus, and with it every stream. -/
def shutDown (bus : Bus) : Bus :=
  { bus with
    channels := Table.empty
    subscriptions := bus.subscriptions.mapValues fun subscription =>
      { subscription with mailbox := subscription.mailbox.close }
    running := false }

/-- The counters, while the bus is there. -/
def traffic? (bus : Bus) : Option Traffic :=
  if bus.running then
    some ⟨bus.subscribers, bus.channels.size, bus.delivered, bus.dropped⟩
  else none

/-- Does something with a subscription. -/
def read (bus : Bus) (ticket : Ticket) : Reader.Command → Reader.Answer × Bus
  | .take =>
      let (message, bus) := bus.take? ticket
      (.taken message, bus)
  | .poll =>
      let (poll, bus) := bus.poll ticket
      (.polled poll, bus)
  | .isWoken => (.flag (bus.mailbox ticket).isWoken, bus)
  | .unsubscribe => (.done, bus.unsubscribe ticket)
  | .isUnsubscribed => (.flag (bus.isUnsubscribed ticket), bus)
  | .drop => (.done, bus.drop ticket)

/-- A step in the life of a bus. -/
inductive Event where
  | subscribe (channels : List String)
  | publish (message : Message)
  | read (ticket : Ticket) (command : Reader.Command)
  | shutDown
deriving DecidableEq

/-- What a step gives. -/
inductive Result where
  | done
  | subscribed (ticket : Ticket)
  /-- No mailbox of this capacity can be made. -/
  | refused
  | delivered (mailboxes : Nat)
  | read (answer : Reader.Answer)
deriving DecidableEq, Inhabited

/-- Takes one step. -/
def step (bus : Bus) : Event → Result × Bus
  | .subscribe channels =>
      match bus.subscribe channels with
      | (some ticket, bus) => (.subscribed ticket, bus)
      | (none, bus) => (.refused, bus)
  | .publish message =>
      let (mailboxes, bus) := bus.publish message
      (.delivered mailboxes, bus)
  | .read ticket command =>
      let (answer, bus) := bus.read ticket command
      (.read answer, bus)
  | .shutDown => (.done, bus.shutDown)

/-- The counters in words. -/
def describeTraffic (traffic : Traffic) : String :=
  Record.render "PubSubStats"
    [("subscribers", Decimal.ofNat traffic.subscribers),
      ("channels", Decimal.ofNat traffic.channels),
      ("delivered", Decimal.ofNat traffic.delivered),
      ("dropped", Decimal.ofNat traffic.dropped)]

/-- A handle on a subscription in words. -/
def describeHandle (unsubscribed : Bool) : String :=
  Record.render "UnsubscribeHandle" [("unsubscribed", Record.truth unsubscribed)]

end Bus

end SharedState
