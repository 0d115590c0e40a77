import SharedState.Endpoint
import SharedState.Remote.Dialogue

/-!
# Setting up a connection

On a new connection the client introduces itself and selects the database.
All commands are sent at once; their replies are looked at in order, and an
error inside of a reply is passed over. A server that does not know user names
refuses the introduction in a way of its own; then everything is sent again
without the user name.
-/

namespace SharedState.Remote.Setup

open SharedState.Text

/-- The introduction: in the later protocol it is part of the greeting; in the
earlier one there is none without a password. -/
def introduction (endpoint : Endpoint) (named : Bool) : Option Command :=
  match endpoint.protocol, endpoint.password with
  | .resp3, none => some ["HELLO", "3"]
  | .resp3, some password =>
      some ["HELLO", "3", "AUTH", endpoint.username.getD "default", password]
  | .resp2, none => none
  | .resp2, some password =>
      let username := if named then endpoint.username.toList else []
      some ("AUTH" :: username ++ [password])

/-- The command that selects the database; the first is selected already. -/
def selection (endpoint : Endpoint) : Option Command :=
  if endpoint.db = 0 then none else some ["SELECT", Decimal.ofInt endpoint.db]

/-- What came of an introduction. -/
inductive Verdict where
  | accepted
  /-- The server does not know user names. -/
  | withoutName
  | rejected (error : RemoteError)
deriving DecidableEq

/-- How a server refuses a user name that it cannot make sense of. -/
def nameless : String := "wrong number of arguments for \x27auth\x27 command"

/-- How a server refuses the later protocol. -/
def greetingless : String := "unknown command \x60HELLO\x60"

/-- Whether a text occurs in another. -/
def occurs (part : List Char) : List Char → Bool
  | [] => part.isEmpty
  | letter :: rest => part.isPrefixOf (letter :: rest) || occurs part rest

/-- The verdict on a greeting in the later protocol. -/
def greetingVerdict (reply : Reply) : Verdict :=
  match reply with
  | .error line =>
      if greetingless.toList.isPrefixOf ((Reply.detail? line).getD "").toList then
        .rejected
          (.described .resp3NotSupported
            "Redis Server doesn\x27t support HELLO command therefore resp3 cannot be used" none)
      else .rejected (Reply.remoteError line)
  | _ => .accepted

/-- The verdict on an introduction in the earlier protocol. -/
def passwordVerdict (reply : Reply) : Verdict :=
  match reply with
  | .okay => .accepted
  | .error line =>
      if occurs nameless.toList ((Reply.detail? line).getD "").toList then .withoutName
      else .rejected (.described .authenticationFailed "Password authentication failed" none)
  | _ =>
      .rejected
        (.described .responseError
          "Redis server refused to authenticate, returns Ok() != Value::Okay" none)

/-- The verdict on the selection of a database. -/
def selectionVerdict (reply : Reply) : Verdict :=
  match reply with
  | .error line =>
      .rejected
        (.described .responseError "Redis server refused to switch database" (Reply.detail? line))
  | _ => .accepted

/-- The verdict on an introduction. -/
def introductionVerdict (protocol : Protocol) (reply : Reply) : Verdict :=
  match protocol with
  | .resp2 => passwordVerdict reply
  | .resp3 => greetingVerdict reply

/-- One reply for a command, if there is a command; without a script it is good. -/
def takeReply (command : Option Command) (script : List Reply) : Reply × List Reply :=
  match command, script with
  | none, script => (.okay, script)
  | some _, [] => (.okay, [])
  | some _, reply :: rest => (reply, rest)

/-- One round of commands and what came of it. -/
structure Round where
  /-- What came of it. -/
  verdict : Verdict
  sent : List Command
  /-- The replies that the server has left. -/
  script : List Reply

/-- Sends everything once. -/
def round (endpoint : Endpoint) (named : Bool) (script : List Reply) : Round :=
  let introduction := introduction endpoint named
  let selection := selection endpoint
  let (first, script) := takeReply introduction script
  let (second, script) := takeReply selection script
  let verdict :=
    match introductionVerdict endpoint.protocol first with
    | .accepted => selectionVerdict second
    | other => other
  ⟨verdict, introduction.toList ++ selection.toList, script⟩

/-- A connection that was tried. -/
structure Attempt where
  /-- Why there is no connection, unless there is one. -/
  failure : Option RemoteError
  sent : List Command
  /-- The replies that the server has left. -/
  script : List Reply

/-- Sets a connection up. A second complaint about the user name, which is
not sent any more, is passed over. -/
def attempt (endpoint : Endpoint) (script : List Reply) : Attempt :=
  let first := round endpoint true script
  match first.verdict with
  | .accepted => ⟨none, first.sent, first.script⟩
  | .rejected error => ⟨some error, first.sent, first.script⟩
  | .withoutName =>
      let second := round endpoint false first.script
      let failure :=
        match second.verdict with
        | .rejected error => some error
        | _ => none
      ⟨failure, first.sent ++ second.sent, second.script⟩

end SharedState.Remote.Setup
