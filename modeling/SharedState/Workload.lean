import SharedState.Engine
import SharedState.Bus
import SharedState.Text.Decimal

/-!
# Workloads

Several clients make the same calls side by side on a store and a bus that
are new. What the results add up to does not depend on the order in which the
calls of different clients come in.
-/

namespace SharedState.Workload

open SharedState.Text

/-- What every client does. -/
inductive Task where
  /-- Write one value unless it is there. -/
  | claimOne
  /-- Write a value of its own for every turn unless it is there. -/
  | claim
  /-- Write a value of its own and delete it, along with one that is not there. -/
  | delete
  /-- Write a field for every turn. -/
  | field
  /-- Add a member for every turn, and one that is always the same. -/
  | member
  /-- Rank a member for every turn. -/
  | rank
  /-- Push two elements. -/
  | push
  | publish
deriving DecidableEq

/-- Something that a client does in one go. -/
inductive Action where
  | call (call : Call)
  | publish (message : Message)
deriving DecidableEq

/-- A store, and a bus with one subscription. -/
structure Ground where
  store : Store
  bus : Bus
deriving DecidableEq

/-- The channel that all messages go to. -/
def channel : String := "x"

/-- The ground on which a workload starts, if the subscription can be made. -/
def start? (capacity : Nat) : Option Ground :=
  match (Bus.create capacity).subscribe [channel] with
  | (some _, bus) => some ⟨Store.empty, bus⟩
  | (none, _) => none

/-- What a client does in one turn. -/
def actions (task : Task) (client turn : Nat) : List Action :=
  let name := Decimal.ofNat turn
  let own := "k" ++ Decimal.ofNat client ++ "-" ++ name
  match task with
  | .claimOne => [.call (.value (.setIfAbsent "k" name 0))]
  | .claim => [.call (.value (.setIfAbsent ("k" ++ name) name 0))]
  | .delete => [.call (.value (.set own name 0)), .call (.value (.delete [own, "k"]))]
  | .field => [.call (.hash (.put "h" name name))]
  | .member => [.call (.set (.add "s" [name, "same"]))]
  | .rank => [.call (.ranking (.place "z" (Score.ofMagnitude false 0) name))]
  | .push => [.call (.list (.push "l" [name, name]))]
  | .publish => [.publish (Message.ofText channel name)]

/-- What an action adds to the total. A push adds the two elements pushed. -/
def weight : Action → Answer → Nat
  | .call (.list _), _ => 2
  | _, .flag holds => holds.toNat
  | _, .count number => number
  | _, _ => 0

/-- Carries out one action: what it adds to the total. -/
def step (ground : Ground) : Action → Nat × Ground
  | .call call =>
      let (answer, store) := ground.store.apply 0 call
      (weight (.call call) answer, { ground with store })
  | .publish message =>
      let (mailboxes, bus) := ground.bus.publish message
      (mailboxes, { ground with bus })

/-- The actions of all clients, one client after the other. -/
def sequential (task : Task) (clients turns : Nat) : List Action :=
  (List.range clients).flatMap fun client =>
    (List.range turns).flatMap fun turn => actions task client turn

/-- What a workload comes to. -/
structure Outcome where
  /-- What the results add up to. -/
  total : Nat
  counts : Store.Counts
  /-- How many messages the subscriber can read. -/
  received : Nat
  delivered : Nat
  dropped : Nat
deriving DecidableEq

/-- What numbers add up to. -/
def total (numbers : List Nat) : Nat := numbers.foldr (· + ·) 0

/-- What a list of actions comes to on a given ground. -/
def outcome (ground : Ground) (actions : List Action) : Outcome :=
  let (weights, ground) := run step ground actions
  { total := total weights
    counts := ground.store.counts
    received := total (ground.bus.subscriptions.bindings.map fun binding =>
      binding.2.mailbox.messages.length)
    delivered := ground.bus.delivered
    dropped := ground.bus.dropped }

end SharedState.Workload
