import SharedState.Hashes
import SharedState.KeyValue
import SharedState.Lists
import SharedState.Rankings
import SharedState.Sets

/-!
# Data calls

A data call goes to one of five name spaces; the same key may be in use in
each of them. The calls are the same for every backend.
-/

namespace SharedState

/-- A data call. -/
inductive Call where
  | value (command : KeyValue.Command)
  | hash (command : Hashes.Command)
  | set (command : Sets.Command)
  | ranking (command : Rankings.Command)
  | list (command : Lists.Command)
deriving DecidableEq

end SharedState
