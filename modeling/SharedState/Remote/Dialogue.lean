import SharedState.Remote.Reply
import SharedState.Request
import SharedState.Score.Text

/-!
# Dialogues with a server

A call becomes a dialogue: commands that are sent one at a time, each
depending on the reply to the one before, and at the end an answer. Most
calls take one command and some take none. What the server does decides how a
dialogue goes: it replies in time, too late, or not at all because the
connection is lost.
-/

namespace SharedState.Remote

open SharedState.Text

/-- A command: its name and its arguments. -/
abbrev Command := List String

/-- What is said to a server in order to carry out a call. -/
inductive Dialogue where
  /-- There is nothing more to say. -/
  | finish (result : Except RemoteError Answer)
  /-- Send a command, and go on as the reply says. -/
  | ask (command : Command) (next : Reply → Dialogue)

/-- A reply that does not mean what was expected. -/
def unexpected : RemoteError :=
  .described .typeError "Response was of incompatible type" none

namespace Dialogue

/-- Answers without a word to the server. -/
def answer (answer : Answer) : Dialogue := finish (.ok answer)

/-- Sends a command and goes on with the meaning of the reply. -/
def expect {Value : Type} (command : Command) (meaning : Reply → Option Value)
    (next : Value → Dialogue) : Dialogue :=
  ask command fun reply =>
    match meaning reply with
    | some value => next value
    | none => finish (.error unexpected)

/-- Sends a command and answers with the meaning of the reply. -/
def single {Value : Type} (command : Command) (meaning : Reply → Option Value)
    (result : Value → Answer) : Dialogue :=
  expect command meaning fun value => answer (result value)

/-- Sends a command whose reply says no more than that it was carried out. -/
def order (command : Command) : Dialogue := ask command fun _ => answer .done

/-- Sends a command unless there is nothing to apply it to. -/
def unlessEmpty (arguments : List String) (command : Command) : Dialogue :=
  if arguments.isEmpty then answer (.count 0) else single command Reply.count? .count

end Dialogue

/-! ## Lifetimes in milliseconds -/

/-- The milliseconds that a lifetime is sent as: whole ones, at least one, and
no more than fit an unsigned 64-bit word. -/
def millis (lifetime : Duration) : Nat := max 1 (min lifetime.toMillis 0xFFFFFFFFFFFFFFFF)

/-- The same where a signed word is sent. -/
def signedMillis (lifetime : Duration) : Nat := min (millis lifetime) 0x7FFFFFFFFFFFFFFF

/-- What a number of milliseconds left means: two negative numbers stand for
no key and for no deadline. -/
def lifetimeAnswer (value : Int) : Answer :=
  if value = -2 then .missing
  else if value = -1 then .lifetime none
  else .lifetime (some (Duration.ofMillis value.toNat))

/-! ## The dialogue of each call -/

open Dialogue

/-- A value, or the report that it is not there. -/
def found (value : Option String) : Answer := Answer.ofText? value

/-- The dialogue of a call on values. -/
def valueDialogue : KeyValue.Command → Dialogue
  | .get key => single ["GET", key] (Reply.optional? Reply.text?) found
  | .set key value lifetime =>
      if lifetime = 0 then order ["SET", key, value]
      else order ["PSETEX", key, Decimal.ofNat (millis lifetime), value]
  | .delete keys => unlessEmpty keys ("DEL" :: keys)
  | .contains key => single ["EXISTS", key] Reply.flag? .flag
  | .setIfAbsent key value lifetime =>
      if lifetime = 0 then single ["SETNX", key, value] Reply.flag? .flag
      else
        single ["SET", key, value, "NX", "PX", Decimal.ofNat (millis lifetime)]
          (Reply.optional? Reply.text?) fun reply => .flag reply.isSome
  | .expire key lifetime =>
      if lifetime = 0 then
        expect ["EXISTS", key] Reply.flag? fun live =>
          if live then order ["PERSIST", key] else answer .missing
      else
        single ["PEXPIRE", key, Decimal.ofNat (signedMillis lifetime)] Reply.flag?
          fun applied => if applied then .done else .missing
  | .lifetime key => single ["PTTL", key] Reply.integer? lifetimeAnswer

/-- The dialogue of a call on hashes. -/
def hashDialogue : Hashes.Command → Dialogue
  | .put key field value => order ["HSET", key, field, value]
  | .get key field => single ["HGET", key, field] (Reply.optional? Reply.text?) found
  | .list key => single ["HGETALL", key] Reply.fields? fun table => .sortedFields table.bindings
  | .remove key fields => unlessEmpty fields ("HDEL" :: key :: fields)

/-- The dialogue of a call on sets. -/
def setDialogue : Sets.Command → Dialogue
  | .add key names => unlessEmpty names ("SADD" :: key :: names)
  | .remove key names => unlessEmpty names ("SREM" :: key :: names)
  | .list key => single ["SMEMBERS", key] Reply.texts? .sortedMembers
  | .contains key name => single ["SISMEMBER", key, name] Reply.flag? .flag

/-- The dialogue of a call on rankings. -/
def rankingDialogue : Rankings.Command → Dialogue
  | .place key score member => order ["ZADD", key, score.render, member]
  | .members key start stop =>
      single ["ZREVRANGE", key, Decimal.ofInt start, Decimal.ofInt stop] Reply.texts? .members
  | .placings key start stop =>
      single ["ZREVRANGE", key, Decimal.ofInt start, Decimal.ofInt stop, "WITHSCORES"]
        Reply.placings? .ranking
  | .score key member =>
      single ["ZSCORE", key, member] (Reply.optional? Reply.score?) fun score =>
        (score.map Answer.score).getD .missing
  | .remove key members => unlessEmpty members ("ZREM" :: key :: members)

/-- The dialogue of a call on lists. -/
def listDialogue : Lists.Command → Dialogue
  | .push key values =>
      if values.isEmpty then single ["LLEN", key] Reply.count? .count
      else single ("LPUSH" :: key :: values) Reply.count? .count
  | .range key start stop =>
      single ["LRANGE", key, Decimal.ofInt start, Decimal.ofInt stop] Reply.texts? .members
  | .trim key start stop => order ["LTRIM", key, Decimal.ofInt start, Decimal.ofInt stop]
  | .length key => single ["LLEN", key] Reply.count? .count

/-- The dialogue of a data call. -/
def callDialogue : Call → Dialogue
  | .value command => valueDialogue command
  | .hash command => hashDialogue command
  | .set command => setDialogue command
  | .ranking command => rankingDialogue command
  | .list command => listDialogue command

/-- The dialogue that publishes a text. -/
def publishDialogue (channel text : String) : Dialogue :=
  single ["PUBLISH", channel, text] Reply.count? .count

/-! ## How a dialogue goes -/

/-- What the server does with a command. A script of what a server does lists
outcomes in the order of the commands and may end before they do. A server does
nothing about a command of a dialogue that is beyond the end, since only a script
can say what a call is answered with. A channel that is asked for beyond the end
is confirmed, since confirming it is what every server does if nothing is said. -/
inductive Outcome where
  /-- It replies in time. -/
  | reply (reply : Reply)
  /-- It replies when nobody waits for the reply any more. -/
  | late
  /-- It closes the connection. -/
  | lost

/-- A connection that broke during a call. -/
def broken : RemoteError := .socket .brokenPipe "broken pipe"

/-- What came of a dialogue. -/
structure Exchange where
  /-- The answer, or why there is none. -/
  result : Except Fault Answer
  sent : List Command
  lost : Bool

/-- Holds a dialogue. The first command that fails is the last one sent; one
that the server does nothing about is waited for in vain. -/
def Dialogue.hold (limit : Duration) : Dialogue → List Outcome → Exchange
  | finish (.ok answer), _ => ⟨.ok answer, [], false⟩
  | finish (.error error), _ => ⟨.error (.ofRemote error), [], false⟩
  | ask command next, .reply reply :: rest =>
      match reply.firstError? with
      | some error => ⟨.error (.ofRemote error), [command], false⟩
      | none =>
          let further := hold limit (next reply) rest
          { further with sent := command :: further.sent }
  | ask command _, .lost :: _ => ⟨.error (.ofRemote broken), [command], true⟩
  | ask command _, .late :: _ => ⟨.error (.timedOut limit), [command], false⟩
  | ask command _, [] => ⟨.error (.timedOut limit), [command], false⟩

end SharedState.Remote
