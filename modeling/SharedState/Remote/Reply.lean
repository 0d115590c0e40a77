import SharedState.Fault
import SharedState.Score.Reading
import SharedState.Table
import SharedState.Text.Utf8

/-!
# Replies of a server

What a server replies to a command, the errors among the replies, and what a
reply means to a caller who expects a certain kind of value. A reply that
does not fit the expectation has no meaning.
-/

namespace SharedState.Remote

open SharedState.Text

/-- A reply. -/
inductive Reply where
  | nil
  | integer (value : Int)
  | bulk (bytes : List UInt8)
  /-- A text that is no status. -/
  | simple (text : String)
  /-- The status that all is well. -/
  | okay
  | array (items : List Reply)
  /-- An error: a code, and perhaps a blank and a detail. -/
  | error (line : String)

namespace Reply

/-- The reply of a line of text. -/
def ofLine (text : String) : Reply := if text = "OK" then okay else simple text

/-! ## Errors -/

/-- The kinds of errors that have a code of their own. -/
def knownKind? (code : String) : Option ErrorKind :=
  match code with
  | "ERR" => some .responseError
  | "EXECABORT" => some .execAbortError
  | "LOADING" => some .busyLoadingError
  | "NOSCRIPT" => some .noScriptError
  | "MOVED" => some .moved
  | "ASK" => some .ask
  | "TRYAGAIN" => some .tryAgain
  | "CLUSTERDOWN" => some .clusterDown
  | "CROSSSLOT" => some .crossSlot
  | "MASTERDOWN" => some .masterDown
  | "READONLY" => some .readOnly
  | "NOTBUSY" => some .notBusy
  | "NOSUB" => some .noSub
  | _ => none

/-- The code and the detail of an error line. -/
def divide (line : List Char) : List Char × Option (List Char) :=
  match line.span (· ≠ ' ') with
  | (code, _ :: detail) => (code, some detail)
  | (code, []) => (code, none)

/-- The code of an error line. -/
def code (line : String) : String := String.ofList (divide line.toList).1

/-- The detail of an error line, if it has one. -/
def detail? (line : String) : Option String := (divide line.toList).2.map String.ofList

/-- The error that a line reports. -/
def remoteError (line : String) : RemoteError :=
  match knownKind? (code line) with
  | some kind => .described kind "An error was signalled by the server" (detail? line)
  | none =>
      .extension (code line) ((detail? line).getD "Unknown extension error encountered")

mutual

/-- The first error in a reply. -/
def firstError? : Reply → Option RemoteError
  | error line => some (remoteError line)
  | array items => firstErrorAmong? items
  | _ => none

/-- The first error among replies. -/
def firstErrorAmong? : List Reply → Option RemoteError
  | [] => none
  | item :: rest => (firstError? item).or (firstErrorAmong? rest)

end

/-! ## Meanings -/

/-- A text. -/
def text? : Reply → Option String
  | bulk bytes => Utf8.decode? bytes
  | okay => some "OK"
  | simple text => some text
  | integer value => some (Decimal.ofInt value)
  | _ => none

/-- The text that stands for a number, if the reply is a text. -/
def numeral? : Reply → Option String
  | bulk bytes => Utf8.decode? bytes
  | simple text => some text
  | _ => none

/-- A truth value. -/
def flag? : Reply → Option Bool
  | nil => some false
  | integer value => some (value ≠ 0)
  | okay => some true
  | other =>
      match other.numeral? with
      | some "1" => some true
      | some "0" => some false
      | _ => none

/-- A count: an unsigned 64-bit word. A negative number wraps around. -/
def count? : Reply → Option Nat
  | integer value => some (value % 0x10000000000000000).toNat
  | other => other.numeral?.bind (Decimal.natural? 0x10000000000000000)

/-- A signed 64-bit word. -/
def integer? : Reply → Option Int
  | integer value => some value
  | other => other.numeral?.bind Decimal.integer?

/-- A score. -/
def score? : Reply → Option Score
  | integer value => some (Score.ofInt value)
  | other => other.numeral?.bind Score.read?

/-- Something or nothing. -/
def optional? {Value : Type} (meaning : Reply → Option Value) : Reply → Option (Option Value)
  | nil => some none
  | other => (meaning other).map some

/-- Several texts. -/
def texts? : Reply → Option (List String)
  | nil => some []
  | bulk bytes => (Utf8.decode? bytes).map ([·])
  | array items => items.mapM text?
  | _ => none

/-- Consecutive replies in pairs, if none is left over. -/
def pairs? : List Reply → Option (List (Reply × Reply))
  | [] => some []
  | [_] => none
  | first :: second :: rest => (pairs? rest).map ((first, second) :: ·)

/-- A field and its value. -/
def binding? (pair : Reply × Reply) : Option (String × String) := do
  let field ← pair.1.text?
  let value ← pair.2.text?
  some (field, value)

/-- Fields with their values. Of a field that occurs twice the last value counts. -/
def fields? : Reply → Option (Table String String)
  | nil => some Table.empty
  | array items => do
      let bindings ← (← pairs? items).mapM binding?
      some (bindings.foldl (fun table binding => table.put binding.1 binding.2) Table.empty)
  | _ => none

/-- A member and its score. -/
def placing? (pair : Reply × Reply) : Option (String × Score) := do
  let member ← pair.1.text?
  let score ← pair.2.score?
  some (member, score)

/-- The pairs among replies that are arrays of two. -/
def nestedPairs : List Reply → List (Reply × Reply)
  | [] => []
  | array [first, second] :: rest => (first, second) :: nestedPairs rest
  | _ :: rest => nestedPairs rest

/-- Members with their scores: each pair in an array of its own, or all in a row. -/
def placings? : Reply → Option (List (String × Score))
  | nil => some []
  | array items =>
      match nestedPairs items with
      | [] => (pairs? items).bind fun pairs => pairs.mapM placing?
      | pairs => pairs.mapM placing?
  | _ => none

end Reply

end SharedState.Remote
