import SharedState.Engine
import SharedState.Request
import SharedState.Settings

/-!
# The in-process backend

An engine for the data calls and a bus for the messages. The engine is swept
in the background.
-/

namespace SharedState

/-- An engine and a bus. -/
structure InProcess where
  engine : Engine
  bus : Bus
deriving DecidableEq

namespace InProcess

/-- A backend with nothing in it. -/
def create (settings : Settings) : InProcess where
  engine := Engine.createSwept settings.reclaimInterval
  bus := Bus.create settings.effectiveMailboxCapacity

/-- A step in the life of an in-process backend. -/
inductive Event where
  | request (request : Request)
  | advance (duration : Duration)
deriving DecidableEq

/-- The response to an answer of the engine. -/
def respond (call : Call) (answer : Answer) : Response :=
  if call.isSilent then .answer .done
  else
    match answer with
    | .missing => .failed .missing
    | other => .answer other

/-- Takes one step. -/
def step (backend : InProcess) : Event → Response × InProcess
  | .request (.call call) =>
      let (answer, engine) := backend.engine.step (.call call)
      (respond call answer, { backend with engine })
  | .request (.publish channel text) =>
      let (mailboxes, bus) := backend.bus.publish (Message.ofText channel text)
      (.answer (.count mailboxes), { backend with bus })
  | .request (.subscribe channels) =>
      match backend.bus.subscribe channels with
      | (some ticket, bus) => (.subscribed ticket, { backend with bus })
      | (none, bus) => (.refused, { backend with bus })
  | .request (.read ticket command) =>
      let (answer, bus) := backend.bus.read ticket command
      (.read answer, { backend with bus })
  | .advance duration =>
      let (answer, engine) := backend.engine.step (.advance duration)
      (.answer answer, { backend with engine })

/-- The name of the kind of backend. -/
def kind : String := "Memory"

/-- The backend in words. -/
def describe : String := Text.Record.render "Backend" [("kind", kind)]

end InProcess

end SharedState
