import SharedState.Message

/-!
# Mailboxes

A mailbox holds the messages that were delivered and not yet read, oldest
first, up to its capacity. A message that finds it full is lost. Once it is
closed it takes no more; what it holds can still be read, and then the stream
has ended. A reader that has to wait leaves a wake-up call, which is made
once, by the next message or by the end.
-/

namespace SharedState

/-- What became of the wake-up call of the last reader. -/
inductive WakeUp where
  /-- There is none: the last reader did not have to wait. -/
  | idle
  /-- The last reader waits. -/
  | armed
  /-- The call was made. -/
  | fired
deriving DecidableEq, Inhabited

/-- Makes the wake-up call if a reader waits. -/
def WakeUp.fire : WakeUp → WakeUp
  | .armed => .fired
  | other => other

/-- What a reader finds. -/
inductive Poll where
  | message (message : Message)
  /-- Nothing yet. -/
  | pending
  /-- Nothing ever again. -/
  | closed
deriving DecidableEq, Inhabited

/-- A bounded mailbox. -/
structure Mailbox where
  capacity : Nat
  /-- The messages, oldest first. -/
  messages : List Message
  /-- Whether messages can still come in. -/
  isOpen : Bool
  wakeUp : WakeUp
deriving DecidableEq

/-- What becomes of a message offered to a mailbox. -/
inductive Delivery where
  | accepted
  /-- It was lost for want of room. -/
  | full
  /-- It came too late. -/
  | closed
deriving DecidableEq, Inhabited

namespace Mailbox

/-- An open mailbox without messages. -/
def create (capacity : Nat) : Mailbox := ⟨capacity, [], true, .idle⟩

/-- A mailbox of a stream that has ended before it began. -/
def ended : Mailbox := ⟨1, [], false, .idle⟩

/-- Offers a message. -/
def offer (mailbox : Mailbox) (message : Message) : Delivery × Mailbox :=
  if !mailbox.isOpen then (.closed, mailbox)
  else if mailbox.capacity ≤ mailbox.messages.length then (.full, mailbox)
  else
    (.accepted,
      { mailbox with
        messages := mailbox.messages ++ [message]
        wakeUp := mailbox.wakeUp.fire })

/-- Ends the stream behind the messages that are there. -/
def close (mailbox : Mailbox) : Mailbox :=
  if mailbox.isOpen then { mailbox with isOpen := false, wakeUp := mailbox.wakeUp.fire }
  else mailbox

/-- Takes the oldest message, if there is one, and does not wait. -/
def take? (mailbox : Mailbox) : Option Message × Mailbox :=
  match mailbox.messages with
  | [] => (none, mailbox)
  | oldest :: rest => (some oldest, { mailbox with messages := rest })

/-- Takes the oldest message, or waits for one unless the stream has ended. -/
def poll (mailbox : Mailbox) : Poll × Mailbox :=
  match mailbox.messages with
  | oldest :: rest => (.message oldest, { mailbox with messages := rest, wakeUp := .idle })
  | [] =>
      if mailbox.isOpen then (.pending, { mailbox with wakeUp := .armed })
      else (.closed, { mailbox with wakeUp := .idle })

/-- Whether the last reader was called. -/
def isWoken (mailbox : Mailbox) : Bool := mailbox.wakeUp = .fired

/-- A mailbox never holds more than fits. -/
theorem length_offer_le {mailbox : Mailbox} (message : Message)
    (fits : mailbox.messages.length ≤ mailbox.capacity) :
    (mailbox.offer message).2.messages.length ≤ (mailbox.offer message).2.capacity := by
  unfold offer
  by_cases isOpen : mailbox.isOpen = true
  · by_cases full : mailbox.capacity ≤ mailbox.messages.length
    · simpa [isOpen, full] using fits
    · simp only [isOpen, Bool.not_true, Bool.false_eq_true, if_false, full, List.length_append,
        List.length_cons, List.length_nil]
      omega
  · simpa [isOpen] using fits

end Mailbox

end SharedState
