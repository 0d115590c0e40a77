import SharedState.Mailbox

/-!
# Readers

What the holder of a subscription, or of a handle on it, can do with it. It
is the same for subscriptions on the in-process bus and on a server.
-/

namespace SharedState.Reader

/-- Something that is done with a subscription. -/
inductive Command where
  /-- Take a message if there is one. -/
  | take
  /-- Take a message, or wait for one. -/
  | poll
  /-- Ask whether the last reader that had to wait was called. -/
  | isWoken
  | unsubscribe
  | isUnsubscribed
  /-- Throw the subscription away, which ends it too. -/
  | drop
deriving DecidableEq

/-- What comes of it. -/
inductive Answer where
  | done
  | taken (message : Option Message)
  | polled (poll : Poll)
  | flag (holds : Bool)
deriving DecidableEq, Inhabited

end SharedState.Reader
