import SharedState.Reader

/-!
# Feeds

A subscription on a server has a connection of its own. Every message that
comes in over it is forwarded to a mailbox, where only a full mailbox loses it.
Forwarding ends, and the stream with it, when the subscriber ends the feed or
when the connection is lost.
-/

namespace SharedState.Remote

/-- A subscription on a server. -/
structure Feed where
  /-- What came in and was not yet read. -/
  mailbox : Mailbox
  /-- Whether messages are still forwarded. -/
  forwarding : Bool
  /-- Whether it was ended by the subscriber. This is also the signal to stop
  forwarding. -/
  unsubscribed : Bool
deriving DecidableEq

namespace Feed

/-- A feed over a new connection. -/
def create (capacity : Nat) : Feed := ⟨Mailbox.create capacity, true, false⟩

/-- A feed that has ended before it began. -/
def ended : Feed := ⟨Mailbox.ended, false, false⟩

/-- Ends forwarding, and with it the stream. -/
def finish (feed : Feed) : Feed :=
  { feed with mailbox := feed.mailbox.close, forwarding := false }

/-- Forwards what came in until nothing is left to do. The signal to stop is
looked at before every message, so nothing is forwarded behind it. Forwarding
also ends at a mailbox that takes no more, and behind the last message if the
connection is lost. -/
def forward (lost : Bool) : List Message → Feed → Feed
  | [], feed => if feed.unsubscribed || lost then feed.finish else feed
  | message :: rest, feed =>
      if feed.unsubscribed then feed.finish
      else
        match feed.mailbox.offer message with
        | (.closed, _) => feed.finish
        | (_, mailbox) => forward lost rest { feed with mailbox }

/-- Forwards what came in, unless forwarding has ended. -/
def wake (lost : Bool) (messages : List Message) (feed : Feed) : Feed :=
  if feed.forwarding then feed.forward lost messages else feed

/-- Messages come in. -/
def receive (feed : Feed) (messages : List Message) : Feed := feed.wake false messages

/-- The connection is lost. -/
def disconnect (feed : Feed) : Feed := feed.wake true []

/-- Ends the feed. Only the first time has an effect. -/
def unsubscribe (feed : Feed) : Feed :=
  if feed.unsubscribed then feed else { feed with unsubscribed := true }.wake false []

/-- Does something with a feed. -/
def read (feed : Feed) : Reader.Command → Reader.Answer × Feed
  | .take =>
      let (message, mailbox) := feed.mailbox.take?
      (.taken message, { feed with mailbox })
  | .poll =>
      let (poll, mailbox) := feed.mailbox.poll
      (.polled poll, { feed with mailbox })
  | .isWoken => (.flag feed.mailbox.isWoken, feed)
  | .unsubscribe => (.done, feed.unsubscribe)
  | .isUnsubscribed => (.flag feed.unsubscribed, feed)
  | .drop => (.done, feed.unsubscribe)

end Feed

end SharedState.Remote
