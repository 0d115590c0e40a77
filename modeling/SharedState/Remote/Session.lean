import SharedState.Remote.Feed
import SharedState.Remote.Link
import SharedState.Settings

/-!
# Sessions with a server

A session holds the link that all calls share, and the feeds. Whatever is
asked of it, it responds within the limit of a call, and it says which
commands it sent. A subscription is all or nothing: if the server does not
confirm a channel in time, there is none.
-/

namespace SharedState.Remote

/-- A session. -/
structure Session where
  server : Server
  limit : Duration
  capacity : Nat
  /-- The link that calls share. -/
  link : Link
  /-- The ticket that is given out next. -/
  nextTicket : Ticket
  /-- The feeds that their subscribers still hold on to. -/
  feeds : Table Ticket Feed

/-- A response, and the commands sent on the way to it. -/
structure Turn where
  response : Response
  sent : List Command

namespace Session

/-- A session that was opened, or why there is none. -/
structure Opening where
  session : Except Fault Session
  sent : List Command

/-- Opens a session with a server that says certain things to newcomers, if
anyone listens at the endpoint. -/
def connect (settings : ServerSettings) (mailboxCapacity : Nat) (listens : Endpoint → Bool)
    (script : List Reply) : Opening :=
  match settings.endpoint with
  | .error error => ⟨.error (.ofRemote error), []⟩
  | .ok endpoint =>
      let raised := Link.connect settings.timeout ⟨endpoint, listens endpoint, script⟩
      match raised.failure with
      | some fault => ⟨.error fault, raised.sent⟩
      | none =>
          ⟨.ok
            { server := raised.server
              limit := settings.timeout
              capacity := max 1 mailboxCapacity
              link := raised.link
              nextTicket := 1
              feeds := Table.empty },
            raised.sent⟩

/-- The response to an answer. -/
def respond : Except Fault Answer → Response
  | .ok .missing => .failed .missing
  | .ok answer => .answer answer
  | .error fault => .failed fault

/-- Goes on with what became of the link. -/
def follow (session : Session) (course : Link.Course) : List Command × Session :=
  (course.sent, { session with link := course.link, server := course.server })

/-- Sets the link up again if it was lost. -/
def recover (session : Session) (lost : Bool) : List Command × Session :=
  if lost then session.follow (Link.reconnect session.server) else ([], session)

/-- Lets the time pass that was waited in vain, if a fault says so. -/
def idle (session : Session) (fault : Fault) : List Command × Session :=
  match fault with
  | .timedOut limit => session.follow (session.link.elapse limit session.server)
  | _ => ([], session)

/-- Holds a dialogue over the link. A dialogue without a command needs none. -/
def converse (session : Session) (dialogue : Dialogue) (outcomes : List Outcome) :
    Turn × Session :=
  match dialogue with
  | .finish _ =>
      (⟨respond (dialogue.hold session.limit outcomes).result, []⟩, session)
  | .ask _ _ =>
      let raised := session.link.await session.limit session.server
      let session := { session with link := raised.link, server := raised.server }
      match raised.failure with
      | some fault => (⟨.failed fault, raised.sent⟩, session)
      | none =>
          let exchange := dialogue.hold session.limit outcomes
          let (again, session) := session.recover exchange.lost
          (⟨respond exchange.result, raised.sent ++ exchange.sent ++ again⟩, session)

/-- Gives out a ticket for a feed. -/
def keep (session : Session) (feed : Feed) : Session :=
  { session with
    nextTicket := session.nextTicket + 1
    feeds := session.feeds.put session.nextTicket feed }

/-- Asks for channels one after the other: the commands sent, and why not all
were confirmed, unless they were. Every reply in time confirms, whatever its type
and an error no less than others, since only its coming is waited for. A channel
that no outcome is left for is confirmed, as scripts have it (`Outcome`). -/
def confirm (limit : Duration) : List String → List Outcome → List Command × Option Fault
  | [], _ => ([], none)
  | channel :: rest, outcomes =>
      let command := ["SUBSCRIBE", channel]
      match outcomes with
      | .late :: _ => ([command], some (.timedOut limit))
      | .lost :: _ => ([command], some (.ofRemote broken))
      | _ =>
          let (sent, fault) := confirm limit rest outcomes.tail
          (command :: sent, fault)

/-- Subscribes to channels over a connection of its own. A subscription to
nothing needs none and has ended already. -/
def subscribe (session : Session) (channels : List String) (outcomes : List Outcome) :
    Turn × Session :=
  if channels.isEmpty then (⟨.subscribed session.nextTicket, []⟩, session.keep Feed.ended)
  else
    let attempt := session.server.attempt
    let session := { session with server := { session.server with script := attempt.script } }
    match attempt.failure with
    | some error => (⟨.failed (.ofRemote error), attempt.sent⟩, session)
    | none =>
        let (sent, fault) := confirm session.limit channels outcomes
        let sent := attempt.sent ++ sent
        match fault with
        | some fault =>
            let (tried, session) := session.idle fault
            (⟨.failed fault, sent ++ tried⟩, session)
        | none =>
            if Bus.greatestCapacity < session.capacity then (⟨.refused, sent⟩, session)
            else
              (⟨.subscribed session.nextTicket, sent⟩,
                session.keep (Feed.create session.capacity))

/-- The feed with a ticket; one that was thrown away has ended. -/
def feed (session : Session) (ticket : Ticket) : Feed :=
  (session.feeds.get? ticket).getD { Feed.ended with unsubscribed := true }

/-- Does something with a feed. -/
def read (session : Session) (ticket : Ticket) (command : Reader.Command) :
    Reader.Answer × Session :=
  let (answer, feed) := (session.feed ticket).read command
  let feeds :=
    if command = .drop then session.feeds.erase ticket
    else if session.feeds.contains ticket then session.feeds.put ticket feed
    else session.feeds
  (answer, { session with feeds })

/-- Responds to a request; the server does with the commands what it does. -/
def request (session : Session) (request : Request) (outcomes : List Outcome) :
    Turn × Session :=
  match request with
  | .call call => session.converse (callDialogue call) outcomes
  | .publish channel text => session.converse (publishDialogue channel text) outcomes
  | .subscribe channels => session.subscribe channels outcomes
  | .read ticket command =>
      let (answer, session) := session.read ticket command
      (⟨.read answer, []⟩, session)

/-- Messages come in for a feed: whether its connection is open. -/
def push (session : Session) (ticket : Ticket) (messages : List Message) : Bool × Session :=
  match session.feeds.get? ticket with
  | none => (false, session)
  | some feed =>
      (feed.forwarding,
        { session with feeds := session.feeds.put ticket (feed.receive messages) })

/-- The server closes the connection of a feed. -/
def disconnect (session : Session) (ticket : Ticket) : Session :=
  match session.feeds.get? ticket with
  | none => session
  | some feed => { session with feeds := session.feeds.put ticket feed.disconnect }

/-- Whether the connection of a feed is closed. -/
def hasEnded (session : Session) (ticket : Ticket) : Bool :=
  !(session.feed ticket).forwarding

/-- A step in the life of a session: something is asked of it, or something
comes over the connection of a feed. -/
inductive Event where
  /-- A request, and what the server does with the commands. -/
  | request (request : Request) (outcomes : List Outcome)
  | message (ticket : Ticket) (message : Message)
  /-- The connection is lost. -/
  | disconnect (ticket : Ticket)

/-- Something is done with a feed. -/
def Event.read (ticket : Ticket) (command : Reader.Command) : Event :=
  .request (.read ticket command) []

/-- Takes one step; only a request gets a turn. -/
def step (session : Session) : Event → Option Turn × Session
  | .request request outcomes =>
      let (turn, session) := session.request request outcomes
      (some turn, session)
  | .message ticket message => (none, (session.push ticket [message]).2)
  | .disconnect ticket => (none, session.disconnect ticket)

/-! ## Sessions in words -/

open SharedState.Text

/-- The name of the kind of backend. -/
def kind : String := "Redis"

/-- The backend in words. -/
def describe : String := Record.render "Backend" [("kind", kind)]

/-- The part that takes data calls in words. -/
def describeCache (session : Session) : String :=
  Record.renderOpen "RedisCache" [("timeout", Elapsed.render session.limit)]

/-- The part that takes messages in words. -/
def describeMessaging (session : Session) : String :=
  Record.renderOpen "RedisPubSub"
    [("timeout", Elapsed.render session.limit),
      ("mailbox_capacity", Decimal.ofNat session.capacity)]

end Session

end SharedState.Remote
