import SharedState.Text.Quoted
import SharedState.Text.Record
import SharedState.Text.Utf8

/-!
# Messages

A message is published on a channel and carries bytes, which may be text.
-/

namespace SharedState

open SharedState.Text

/-- A published message. -/
structure Message where
  channel : String
  payload : List UInt8
deriving DecidableEq, Inhabited

namespace Message

/-- A message that carries a text. -/
def ofText (channel text : String) : Message := ⟨channel, Utf8.encode text⟩

/-- The text that a message carries, if its bytes are a text. -/
def text? (message : Message) : Option String := Utf8.decode? message.payload

/-- A message in words. -/
def describe (message : Message) : String :=
  Record.render "Message"
    [("channel", Quoted.quote message.channel), ("payload", Quoted.quoteBytes message.payload)]

end Message

end SharedState
