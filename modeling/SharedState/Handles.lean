import SharedState.Bus

/-!
# Handles

A handle ends a subscription from elsewhere. Any number of handles on one
subscription can be kept under names, copied and let go of, and a handle may
outlive its subscription. What is done through a handle is done to the
subscription. Keeping, copying and letting go of handles is no business of
whatever the subscriptions belong to.
-/

namespace SharedState

/-- The handles that are kept under names, and what each of them is on. -/
structure Handles where
  tickets : Table String Ticket
deriving DecidableEq

namespace Handles

/-- No handle. -/
def empty : Handles := ⟨Table.empty⟩

/-- Something that is done with handles. -/
inductive Command where
  /-- Keep a handle on a subscription under a name. -/
  | keep (name : String) (ticket : Ticket)
  /-- Keep a copy of a handle under another name. -/
  | clone (name copy : String)
  /-- Let go of a handle. -/
  | drop (name : String)
  | unsubscribe (name : String)
  | isUnsubscribed (name : String)
deriving DecidableEq

/-- The subscription that something is asked of, what is asked of it, and the
handles afterwards. -/
def apply (handles : Handles) : Command → Option (Ticket × Reader.Command) × Handles
  | .keep name ticket => (none, ⟨handles.tickets.put name ticket⟩)
  | .clone name copy =>
      match handles.tickets.get? name with
      | none => (none, handles)
      | some ticket => (none, ⟨handles.tickets.put copy ticket⟩)
  | .drop name => (none, ⟨handles.tickets.erase name⟩)
  | .unsubscribe name =>
      ((handles.tickets.get? name).map fun ticket => (ticket, .unsubscribe), handles)
  | .isUnsubscribed name =>
      ((handles.tickets.get? name).map fun ticket => (ticket, .isUnsubscribed), handles)

/-- A step of a machine that has subscriptions, or one that is done with the
handles on them. -/
inductive Event (Step : Type) where
  | direct (event : Step)
  | handle (command : Command)
deriving DecidableEq

variable {State Step Result : Type}

/-- Takes a step of a machine and the handles on its subscriptions. There is no
result where the machine takes no part. -/
def step (machine : State → Step → Result × State) (read : Ticket → Reader.Command → Step)
    (state : State × Handles) : Event Step → Option Result × (State × Handles)
  | .direct event =>
      let (result, next) := machine state.1 event
      (some result, next, state.2)
  | .handle command =>
      match state.2.apply command with
      | (none, handles) => (none, state.1, handles)
      | (some (ticket, asked), handles) =>
          let (result, next) := machine state.1 (read ticket asked)
          (some result, next, handles)

end Handles

end SharedState
