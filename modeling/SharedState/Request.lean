import SharedState.Bus
import SharedState.Call
import SharedState.Fault

/-!
# Requests to a backend

A backend takes data calls and messages, and whoever uses it does not learn
whether a server is behind it.
-/

namespace SharedState

/-- Something that a backend is asked to do. -/
inductive Request where
  | call (call : Call)
  | publish (channel text : String)
  | subscribe (channels : List String)
  | read (ticket : Ticket) (command : Reader.Command)
deriving DecidableEq

/-- What a backend responds. -/
inductive Response where
  /-- The answer of a data call, or how many took a message. -/
  | answer (answer : Answer)
  | subscribed (ticket : Ticket)
  /-- No mailbox of the chosen size can be made. -/
  | refused
  | read (answer : Reader.Answer)
  | failed (fault : Fault)
deriving DecidableEq, Inhabited

/-- Whether the answer of a call says no more than that it was carried out,
whatever more the store knows. -/
def Call.isSilent : Call → Bool
  | .value (.set ..) => true
  | .hash (.put ..) => true
  | .ranking (.place ..) => true
  | .list (.trim ..) => true
  | _ => false

end SharedState
