import Mathlib.Algebra.GroupWithZero.Nat
import SharedState.Remote.Session

/-!
# Data calls to a server

What a call sends and how it ends, whatever the server does. A call without
anything to apply it to sends nothing; expiry is lifted by two commands, and
the second is sent only if the server says that the key is there; every other
call sends one command. The call ends as the outcome of its last command says:
that something is missing and that something went wrong are never mistaken for
each other.
-/

namespace SharedState

open Remote

/-! ## The rules -/

namespace Remote

/-- The reply that there is nothing. -/
def Reply.isNil : Reply → Bool
  | .nil => true
  | _ => false

/-- Whether a connection was closed in place of a reply. -/
def Outcome.isLost : Option Outcome → Bool
  | some .lost => true
  | _ => false

/-- The first command of a dialogue, if it has any. -/
def Dialogue.opening? : Dialogue → Option Command
  | .finish _ => none
  | .ask command _ => some command

end Remote

/-- Why a response is none. -/
def Response.fault? : Response → Option Fault
  | .failed fault => some fault
  | _ => none

namespace Call

/-- Whether there is nothing to apply a call to. -/
def isVoid : Call → Bool
  | .value (.delete keys) => keys.isEmpty
  | .hash (.remove _ fields) => fields.isEmpty
  | .set (.add _ names) => names.isEmpty
  | .set (.remove _ names) => names.isEmpty
  | .ranking (.remove _ members) => members.isEmpty
  | _ => false

/-- Whether the reply to a command of a call, the first or a later one, can be
read as what the call asks for. A call that only gives an order takes any
reply. -/
def reads (call : Call) (index : Nat) (reply : Reply) : Bool :=
  match call with
  | .value (.get _) => (Reply.optional? Reply.text? reply).isSome
  | .value (.set ..) => true
  | .value (.delete _) => reply.count?.isSome
  | .value (.contains _) => reply.flag?.isSome
  | .value (.setIfAbsent _ _ lifetime) =>
      if lifetime = 0 then reply.flag?.isSome else (Reply.optional? Reply.text? reply).isSome
  | .value (.expire ..) => index ≠ 0 || reply.flag?.isSome
  | .value (.lifetime _) => reply.integer?.isSome
  | .hash (.put ..) => true
  | .hash (.get ..) => (Reply.optional? Reply.text? reply).isSome
  | .hash (.list _) => reply.fields?.isSome
  | .hash (.remove ..) => reply.count?.isSome
  | .set (.add ..) => reply.count?.isSome
  | .set (.remove ..) => reply.count?.isSome
  | .set (.list _) => reply.texts?.isSome
  | .set (.contains ..) => reply.flag?.isSome
  | .ranking (.place ..) => true
  | .ranking (.members ..) => reply.texts?.isSome
  | .ranking (.placings ..) => reply.placings?.isSome
  | .ranking (.score ..) => (Reply.optional? Reply.score? reply).isSome
  | .ranking (.remove ..) => reply.count?.isSome
  | .list (.push ..) => reply.count?.isSome
  | .list (.range ..) => reply.texts?.isSome
  | .list (.trim ..) => true
  | .list (.length _) => reply.count?.isSome

/-- Whether the reply to a command of a call says that what was asked for is
not there. -/
def denied (call : Call) (index : Nat) (reply : Reply) : Bool :=
  match call with
  | .value (.get _) => reply.isNil
  | .hash (.get ..) => reply.isNil
  | .ranking (.score ..) => reply.isNil
  | .value (.lifetime _) => reply.integer? = some (-2)
  | .value (.expire ..) => index = 0 && reply.flag? = some false
  | _ => false

/-- How a call fails by the outcome of one of its commands, if it does. -/
def faultAt (limit : Duration) (call : Call) (index : Nat) : Option Outcome → Option Fault
  | some (.reply reply) =>
      match reply.firstError? with
      | some error => some (.command error)
      | none =>
          if !call.reads index reply then some (.command unexpected)
          else if call.denied index reply then some .missing
          else none
  | some .lost => some (.connection broken)
  | some .late => some (.timedOut limit)
  | none => some (.timedOut limit)

end Call

/-! ## Errors that servers report -/

namespace Remote

theorem breaksConnection_remoteError (line : String) :
    (Reply.remoteError line).breaksConnection = false := by
  unfold Reply.remoteError
  split <;> rfl

mutual

theorem ofRemote_firstError? {error : RemoteError} :
    ∀ {reply : Reply}, reply.firstError? = some error → Fault.ofRemote error = .command error
  | .error line, found => by
      cases found
      simp [Fault.ofRemote, breaksConnection_remoteError]
  | .array items, found => ofRemote_firstErrorAmong? found
  | .nil, found => by cases found
  | .integer _, found => by cases found
  | .bulk _, found => by cases found
  | .simple _, found => by cases found
  | .okay, found => by cases found

theorem ofRemote_firstErrorAmong? {error : RemoteError} :
    ∀ {items : List Reply}, Reply.firstErrorAmong? items = some error →
      Fault.ofRemote error = .command error
  | [], found => by cases found
  | item :: rest, found => by
      rw [Reply.firstErrorAmong?, Option.or_eq_some_iff] at found
      rcases found with first | ⟨-, later⟩
      · exact ofRemote_firstError? first
      · exact ofRemote_firstErrorAmong? later

end

theorem Reply.firstError?_of_flag? {reply : Reply} {holds : Bool}
    (read : reply.flag? = some holds) : reply.firstError? = none := by
  cases reply with
  | array items => cases read
  | error line => cases read
  | _ => rfl

theorem Reply.firstError?_of_integer? {reply : Reply} {value : Int}
    (read : reply.integer? = some value) : reply.firstError? = none := by
  cases reply with
  | array items => cases read
  | error line => cases read
  | _ => rfl

theorem Reply.eq_nil_of_isNil {reply : Reply} (nothing : reply.isNil = true) : reply = .nil := by
  cases reply with
  | nil => rfl
  | _ => cases nothing

/-- A reply by which something is missing is no error, and can be read. -/
theorem readable_of_denied {call : Call} {index : Nat} {reply : Reply}
    (denied : call.denied index reply = true) :
    reply.firstError? = none ∧ call.reads index reply = true := by
  unfold Call.denied at denied
  split at denied
  · cases Reply.eq_nil_of_isNil denied
    exact ⟨rfl, rfl⟩
  · cases Reply.eq_nil_of_isNil denied
    exact ⟨rfl, rfl⟩
  · cases Reply.eq_nil_of_isNil denied
    exact ⟨rfl, rfl⟩
  · have read := of_decide_eq_true denied
    exact ⟨Reply.firstError?_of_integer? read, by simp [Call.reads, read]⟩
  · obtain ⟨-, read⟩ : index = 0 ∧ reply.flag? = some false := by simpa using denied
    exact ⟨Reply.firstError?_of_flag? read, by simp [Call.reads, read]⟩
  · cases denied

theorem faultAt_eq_missing_iff {limit : Duration} {call : Call} {index : Nat}
    {outcome : Option Outcome} :
    call.faultAt limit index outcome = some .missing ↔
      ∃ reply, outcome = some (.reply reply) ∧ call.denied index reply = true := by
  constructor
  · intro missing
    cases outcome with
    | none => cases missing
    | some outcome =>
        cases outcome with
        | late => cases missing
        | lost => cases missing
        | reply reply =>
            refine ⟨reply, rfl, ?_⟩
            cases reported : reply.firstError? with
            | some error => simp [Call.faultAt, reported] at missing
            | none =>
                cases read : call.reads index reply <;> cases denied : call.denied index reply <;>
                  simp [Call.faultAt, reported, read, denied] at missing ⊢
  · rintro ⟨reply, rfl, denied⟩
    obtain ⟨sound, read⟩ := readable_of_denied denied
    simp [Call.faultAt, sound, read, denied]

/-! ## How dialogues go -/

namespace Dialogue

variable {limit : Duration} {call : Call} {index : Nat} {command : Command}
  {next : Reply → Dialogue}

/-- A command fails, or is replied to and the dialogue goes on. -/
theorem hold_ask_cases (limit : Duration) (call : Call) (index : Nat) (command : Command)
    (next : Reply → Dialogue) (outcomes : List Outcome) :
    (∃ fault, call.faultAt limit index outcomes.head? = some fault ∧
        hold limit (ask command next) outcomes =
          ⟨.error fault, [command], Outcome.isLost outcomes.head?⟩) ∨
      ∃ reply rest, outcomes = .reply reply :: rest ∧ reply.firstError? = none ∧
        hold limit (ask command next) outcomes =
          { hold limit (next reply) rest with
            sent := command :: (hold limit (next reply) rest).sent } := by
  cases outcomes with
  | nil => exact Or.inl ⟨_, rfl, rfl⟩
  | cons outcome rest =>
      cases outcome with
      | late => exact Or.inl ⟨_, rfl, rfl⟩
      | lost => exact Or.inl ⟨_, rfl, rfl⟩
      | reply reply =>
          cases reported : reply.firstError? with
          | none => exact Or.inr ⟨reply, rest, rfl, reported, by simp [hold, reported]⟩
          | some error =>
              refine Or.inl ⟨.command error, ?_, ?_⟩
              · simp [Call.faultAt, reported]
              · simp [hold, reported, ofRemote_firstError? reported, Outcome.isLost]

/-- How a dialogue ends by a reply is what a call makes of it. -/
def Settles (call : Call) (index : Nat) (reply : Reply) : Except RemoteError Answer → Prop
  | .error error => error = unexpected ∧ call.reads index reply = false
  | .ok answer =>
      call.reads index reply = true ∧ (answer = .missing ↔ call.denied index reply = true)

/-- A command of a call that the dialogue ends with. -/
def Closes (call : Call) (index : Nat) (next : Reply → Dialogue) : Prop :=
  ∀ reply, ∃ result, next reply = finish result ∧ Settles call index reply result

/-- The outcome of a command that a dialogue ends with decides the call. -/
theorem Closes.hold (closes : Closes call index next) (limit : Duration) (command : Command)
    (outcomes : List Outcome) :
    let exchange := Dialogue.hold limit (ask command next) outcomes
    exchange.sent = [command] ∧ exchange.lost = Outcome.isLost outcomes.head? ∧
      (Session.respond exchange.result).fault? = call.faultAt limit index outcomes.head? := by
  rcases hold_ask_cases limit call index command next outcomes with
    ⟨fault, fails, held⟩ | ⟨reply, rest, rfl, sound, held⟩
  · rw [held, fails]
    exact ⟨rfl, rfl, rfl⟩
  · obtain ⟨result, ends, settles⟩ := closes reply
    rw [held, ends]
    cases result with
    | error error =>
        obtain ⟨rfl, unread⟩ := settles
        refine ⟨rfl, rfl, ?_⟩
        simp [Dialogue.hold, Call.faultAt, sound, unread, Session.respond, Response.fault?,
          Fault.ofRemote, unexpected, RemoteError.breaksConnection]
    | ok answer =>
        obtain ⟨read, missing⟩ := settles
        refine ⟨rfl, rfl, ?_⟩
        cases denied : call.denied index reply with
        | true =>
            obtain rfl : answer = .missing := missing.mpr denied
            simp [Dialogue.hold, Call.faultAt, sound, read, denied, Session.respond,
              Response.fault?]
        | false =>
            have present : answer ≠ .missing := by simp [missing, denied]
            have answers : Session.respond (.ok answer) = .answer answer := by
              cases answer with
              | missing => exact absurd rfl present
              | _ => rfl
            simp [Dialogue.hold, Call.faultAt, sound, read, denied, answers, Response.fault?]

/-- An order takes any reply. -/
theorem closes_order (reads : ∀ reply, call.reads index reply = true)
    (granted : ∀ reply, call.denied index reply = false) :
    Closes call index fun _ => answer .done :=
  fun reply => ⟨.ok .done, rfl, reads reply, by simp [granted]⟩

/-- What is made of a reply with a certain meaning. -/
def conclude {Value : Type} (meaning : Reply → Option Value) (result : Value → Answer)
    (reply : Reply) : Dialogue :=
  match meaning reply with
  | some value => answer (result value)
  | none => finish (.error unexpected)

theorem single_eq {Value : Type} (command : Command) (meaning : Reply → Option Value)
    (result : Value → Answer) :
    single command meaning result = ask command (conclude meaning result) :=
  rfl

/-- A reply is read as what the call asks for, or not at all. -/
theorem closes_conclude {Value : Type} {meaning : Reply → Option Value} {result : Value → Answer}
    (reads : ∀ reply, call.reads index reply = (meaning reply).isSome)
    (denied : ∀ {reply value}, meaning reply = some value →
      (result value = .missing ↔ call.denied index reply = true)) :
    Closes call index (conclude meaning result) := by
  intro reply
  have read := reads reply
  unfold conclude
  cases means : meaning reply with
  | none => exact ⟨_, rfl, rfl, by rw [read, means, Option.isSome_none]⟩
  | some value => exact ⟨_, rfl, by rw [read, means, Option.isSome_some], denied means⟩

/-- Where a reply says whether the key is there, it is missing if it is not. -/
theorem closes_flag (key : String) (lifetime : Duration) :
    Closes (.value (.expire key lifetime)) 0
      (conclude Reply.flag? fun live => if live then .done else .missing) := by
  refine closes_conclude (fun _ => rfl) ?_
  intro reply live means
  cases live <;> simp [Call.denied, means]

/-- A dialogue of one command, which closes it. -/
def ClosesAtOnce (call : Call) (dialogue : Dialogue) : Prop :=
  ∃ command next, dialogue = ask command next ∧ Closes call 0 next

theorem closesAtOnce_order (command : Command) (reads : ∀ reply, call.reads 0 reply = true)
    (granted : ∀ reply, call.denied 0 reply = false) : ClosesAtOnce call (order command) :=
  ⟨command, _, rfl, closes_order reads granted⟩

theorem closesAtOnce_single {Value : Type} {meaning : Reply → Option Value}
    {result : Value → Answer} (command : Command)
    (reads : ∀ reply, call.reads 0 reply = (meaning reply).isSome)
    (denied : ∀ {reply value}, meaning reply = some value →
      (result value = .missing ↔ call.denied 0 reply = true)) :
    ClosesAtOnce call (single command meaning result) :=
  ⟨command, _, single_eq .., closes_conclude reads denied⟩

/-- A call that cannot find anything missing. -/
theorem closesAtOnce_granted {Value : Type} {meaning : Reply → Option Value}
    {result : Value → Answer} (command : Command)
    (reads : ∀ reply, call.reads 0 reply = (meaning reply).isSome)
    (granted : ∀ reply, call.denied 0 reply = false) (present : ∀ value, result value ≠ .missing) :
    ClosesAtOnce call (single command meaning result) :=
  closesAtOnce_single command reads (by simp [granted, present])

/-- A call for something that is missing if the reply is that there is nothing. -/
theorem closesAtOnce_optional {Value : Type} {meaning : Reply → Option Value}
    {result : Option Value → Answer} (command : Command)
    (reads : ∀ reply, call.reads 0 reply = (Reply.optional? meaning reply).isSome)
    (denied : ∀ reply, call.denied 0 reply = reply.isNil)
    (missing : ∀ value, result value = .missing ↔ value = none) :
    ClosesAtOnce call (single command (Reply.optional? meaning) result) := by
  apply closesAtOnce_single command reads
  intro reply value means
  rw [denied, missing]
  cases reply with
  | nil =>
      cases means
      simp [Reply.isNil]
  | _ =>
      obtain ⟨found, -, rfl⟩ := Option.map_eq_some_iff.mp means
      simp [Reply.isNil]

theorem closesAtOnce_unlessEmpty {arguments : List String} (command : Command)
    (applies : arguments.isEmpty = false)
    (reads : ∀ reply, call.reads 0 reply = reply.count?.isSome)
    (granted : ∀ reply, call.denied 0 reply = false) :
    ClosesAtOnce call (unlessEmpty arguments command) := by
  rw [unlessEmpty, applies]
  exact closesAtOnce_granted command reads granted fun _ => nofun

theorem found_eq_missing_iff (value : Option String) : found value = .missing ↔ value = none := by
  cases value <;> simp [found, Answer.ofText?]

theorem lifetimeAnswer_eq_missing_iff (value : Int) :
    lifetimeAnswer value = .missing ↔ value = -2 := by
  unfold lifetimeAnswer
  split
  · simp [*]
  · split <;> simp [*]

/-- Every call that is neither void nor lifts an expiry is a dialogue of one
command. -/
theorem closesAtOnce_call (call : Call) (applies : call.isVoid = false)
    (plain : ∀ key, call ≠ .value (.expire key 0)) : ClosesAtOnce call (callDialogue call) := by
  cases call with
  | value command =>
      cases command with
      | get key =>
          exact closesAtOnce_optional _ (fun _ => rfl) (fun _ => rfl) found_eq_missing_iff
      | set key value lifetime =>
          rw [callDialogue, valueDialogue]
          split
          · exact closesAtOnce_order _ (fun _ => rfl) fun _ => rfl
          · exact closesAtOnce_order _ (fun _ => rfl) fun _ => rfl
      | delete keys => exact closesAtOnce_unlessEmpty _ applies (fun _ => rfl) fun _ => rfl
      | contains key =>
          exact closesAtOnce_granted _ (fun _ => rfl) (fun _ => rfl) fun _ => nofun
      | setIfAbsent key value lifetime =>
          rw [callDialogue, valueDialogue]
          split
          · next unlimited =>
              exact closesAtOnce_granted _ (fun _ => if_pos unlimited) (fun _ => rfl) fun _ => nofun
          · next limited =>
              exact closesAtOnce_granted _ (fun _ => if_neg limited) (fun _ => rfl) fun _ => nofun
      | expire key lifetime =>
          have limited : lifetime ≠ 0 := by
            rintro rfl
            exact plain key rfl
          rw [callDialogue, valueDialogue, if_neg limited]
          exact ⟨_, _, single_eq .., closes_flag key lifetime⟩
      | lifetime key =>
          refine closesAtOnce_single _ (fun _ => rfl) ?_
          intro reply value means
          simp [Call.denied, means, lifetimeAnswer_eq_missing_iff]
  | hash command =>
      cases command with
      | put key field value => exact closesAtOnce_order _ (fun _ => rfl) fun _ => rfl
      | get key field =>
          exact closesAtOnce_optional _ (fun _ => rfl) (fun _ => rfl) found_eq_missing_iff
      | list key => exact closesAtOnce_granted _ (fun _ => rfl) (fun _ => rfl) fun _ => nofun
      | remove key fields => exact closesAtOnce_unlessEmpty _ applies (fun _ => rfl) fun _ => rfl
  | set command =>
      cases command with
      | add key names | remove key names =>
          exact closesAtOnce_unlessEmpty _ applies (fun _ => rfl) fun _ => rfl
      | list key | contains key name =>
          exact closesAtOnce_granted _ (fun _ => rfl) (fun _ => rfl) fun _ => nofun
  | ranking command =>
      cases command with
      | place key score member => exact closesAtOnce_order _ (fun _ => rfl) fun _ => rfl
      | members key start stop | placings key start stop =>
          exact closesAtOnce_granted _ (fun _ => rfl) (fun _ => rfl) fun _ => nofun
      | score key member =>
          refine closesAtOnce_optional _ (fun _ => rfl) (fun _ => rfl) ?_
          intro value
          cases value <;> simp
      | remove key members => exact closesAtOnce_unlessEmpty _ applies (fun _ => rfl) fun _ => rfl
  | list command =>
      cases command with
      | push key values =>
          rw [callDialogue, listDialogue]
          split
          · exact closesAtOnce_granted _ (fun _ => rfl) (fun _ => rfl) fun _ => nofun
          · exact closesAtOnce_granted _ (fun _ => rfl) (fun _ => rfl) fun _ => nofun
      | trim key start stop => exact closesAtOnce_order _ (fun _ => rfl) fun _ => rfl
      | range key start stop | length key =>
          exact closesAtOnce_granted _ (fun _ => rfl) (fun _ => rfl) fun _ => nofun

/-- A call is decided by the outcome of its last command; those before it were
replied to and did not fail. -/
structure Decides (limit : Duration) (call : Call) (outcomes : List Outcome)
    (exchange : Exchange) : Prop where
  asked : exchange.sent ≠ []
  passed : ∀ index, index + 1 < exchange.sent.length →
    call.faultAt limit index outcomes[index]? = none
  lost : exchange.lost = Outcome.isLost outcomes[exchange.sent.length - 1]?
  decided : (Session.respond exchange.result).fault? =
    call.faultAt limit (exchange.sent.length - 1) outcomes[exchange.sent.length - 1]?

theorem Closes.decides (closes : Closes call 0 next) (limit : Duration) (command : Command)
    (outcomes : List Outcome) :
    Decides limit call outcomes (Dialogue.hold limit (ask command next) outcomes) := by
  obtain ⟨sent, lost, decided⟩ := closes.hold limit command outcomes
  rw [List.head?_eq_getElem?] at lost decided
  constructor
  · rw [sent]
    exact List.cons_ne_nil _ _
  · rw [sent]
    intro index earlier
    simp at earlier
  · rw [lost, sent]
    rfl
  · rw [decided, sent]
    rfl

/-- The server says, without an error, that something is there. -/
def Affirms (outcome : Option Outcome) : Prop :=
  ∃ reply, outcome = some (.reply reply) ∧ reply.firstError? = none ∧ reply.flag? = some true

theorem Affirms.faultAt {outcome : Option Outcome} (affirms : Affirms outcome) (limit : Duration)
    (key : String) (lifetime : Duration) :
    Call.faultAt limit (.value (.expire key lifetime)) 0 outcome = none := by
  obtain ⟨reply, rfl, sound, there⟩ := affirms
  simp [Call.faultAt, sound, Call.reads, Call.denied, there]

/-- A dialogue goes on only by a reply that is no error. -/
theorem hold_ask_congr {other : Reply → Dialogue} {outcomes : List Outcome}
    (same : ∀ reply, outcomes.head? = some (.reply reply) → reply.firstError? = none →
      next reply = other reply) :
    hold limit (ask command next) outcomes = hold limit (ask command other) outcomes := by
  cases outcomes with
  | nil => rfl
  | cons outcome rest =>
      cases outcome with
      | late => rfl
      | lost => rfl
      | reply reply =>
          cases reported : reply.firstError? with
          | some error => simp [hold, reported]
          | none => simp [hold, reported, same reply rfl reported]

/-- Lifting an expiry takes a second command if and only if the reply to the
first says that the key is there. -/
theorem hold_expire (limit : Duration) (key : String) (outcomes : List Outcome) :
    let exchange := hold limit (callDialogue (.value (.expire key 0))) outcomes
    Decides limit (.value (.expire key 0)) outcomes exchange ∧
      (Affirms outcomes.head? → exchange.sent = [["EXISTS", key], ["PERSIST", key]]) ∧
        (¬Affirms outcomes.head? → exchange.sent = [["EXISTS", key]]) := by
  intro exchange
  by_cases affirms : Affirms outcomes.head?
  · have passed := affirms.faultAt limit key 0
    obtain ⟨reply, answered, sound, there⟩ := id affirms
    obtain ⟨rest, rfl⟩ := List.head?_eq_some_iff.mp answered
    have goesOn : exchange =
        { hold limit (order ["PERSIST", key]) rest with
          sent := ["EXISTS", key] :: (hold limit (order ["PERSIST", key]) rest).sent } := by
      simp [exchange, callDialogue, valueDialogue, expect, hold, sound, there]
    have closes : Closes (.value (.expire key 0)) 1 fun _ => answer .done :=
      closes_order (fun _ => rfl) fun _ => rfl
    obtain ⟨sent, lost, decided⟩ := closes.hold limit ["PERSIST", key] rest
    rw [List.head?_eq_getElem?] at lost decided
    have both : exchange.sent = [["EXISTS", key], ["PERSIST", key]] := by
      rw [goesOn]
      exact congrArg _ sent
    have decides : Decides limit (.value (.expire key 0)) (.reply reply :: rest) exchange := by
      constructor
      · rw [both]
        exact List.cons_ne_nil _ _
      · rw [both]
        intro index earlier
        obtain rfl : index = 0 := Nat.lt_one_iff.mp (Nat.lt_of_succ_lt_succ earlier)
        exact passed
      · rw [both, goesOn]
        exact lost
      · rw [both, goesOn]
        exact decided
    exact ⟨decides, fun _ => both, fun nothing => absurd affirms nothing⟩
  · -- Without a second command the dialogue is that of a flag.
    have stops : exchange = hold limit (ask ["EXISTS", key]
        (conclude Reply.flag? fun live => if live then .done else .missing)) outcomes := by
      have unlimited : callDialogue (.value (.expire key 0)) =
          expect ["EXISTS", key] Reply.flag? fun live =>
            if live then order ["PERSIST", key] else answer .missing := rfl
      rw [show exchange = hold limit _ outcomes from rfl, unlimited]
      apply hold_ask_congr
      intro reply answered sound
      have notThere : reply.flag? ≠ some true := fun there =>
        affirms ⟨reply, answered, sound, there⟩
      unfold conclude
      cases means : reply.flag? with
      | none => rfl
      | some live =>
          cases live with
          | true => exact absurd means notThere
          | false => rfl
    have closes := closes_flag key 0
    have sent : exchange.sent = [["EXISTS", key]] := by
      rw [stops]
      exact (closes.hold limit ["EXISTS", key] outcomes).1
    have decides : Decides limit (.value (.expire key 0)) outcomes exchange := by
      rw [stops]
      exact closes.decides limit ["EXISTS", key] outcomes
    exact ⟨decides, fun there => absurd there affirms, fun _ => sent⟩

/-- Such a call sends the first command of its dialogue and no other. -/
theorem sent_of_plain (limit : Duration) {call : Call} (applies : call.isVoid = false)
    (plain : ∀ key, call ≠ .value (.expire key 0)) (outcomes : List Outcome) :
    ∃ command, (callDialogue call).opening? = some command ∧
      (hold limit (callDialogue call) outcomes).sent = [command] := by
  obtain ⟨command, next, dialogue, closes⟩ := closesAtOnce_call call applies plain
  rw [dialogue]
  exact ⟨command, rfl, (closes.hold limit command outcomes).1⟩

theorem decides_call (limit : Duration) {call : Call} (applies : call.isVoid = false)
    (outcomes : List Outcome) :
    Decides limit call outcomes (hold limit (callDialogue call) outcomes) := by
  by_cases lifts : ∃ key, call = .value (.expire key 0)
  · obtain ⟨key, rfl⟩ := lifts
    exact (hold_expire limit key outcomes).1
  · have plain : ∀ key, call ≠ .value (.expire key 0) := not_exists.mp lifts
    obtain ⟨command, next, dialogue, closes⟩ := closesAtOnce_call call applies plain
    rw [dialogue]
    exact closes.decides limit command outcomes

/-- A call without anything to apply it to is answered at once. -/
theorem callDialogue_of_isVoid {call : Call} (void : call.isVoid = true) :
    callDialogue call = answer (.count 0) := by
  cases call with
  | value command =>
      cases command with
      | delete keys => exact if_pos void
      | _ => cases void
  | hash command =>
      cases command with
      | remove key fields => exact if_pos void
      | _ => cases void
  | set command =>
      cases command with
      | add key names | remove key names => exact if_pos void
      | _ => cases void
  | ranking command =>
      cases command with
      | remove key members => exact if_pos void
      | _ => cases void
  | list command => cases void

/-- A call with something to apply it to is a dialogue with a first command. -/
theorem callDialogue_of_not_isVoid {call : Call} (applies : call.isVoid = false) :
    ∃ command next, callDialogue call = ask command next := by
  by_cases lifts : ∃ key, call = .value (.expire key 0)
  · obtain ⟨key, rfl⟩ := lifts
    exact ⟨_, _, rfl⟩
  · obtain ⟨command, next, dialogue, -⟩ :=
      closesAtOnce_call call applies (not_exists.mp lifts)
    exact ⟨command, next, dialogue⟩

end Dialogue

/-! ## Waiting for the link -/

namespace Link

/-- Where nobody accepts connections, a caller learns so after the last try, or
waits in vain if that comes too late. -/
theorem raise_refused (limit rest : Duration) {server : Server}
    (unreachable : server.reachable = false) (pauses : List Duration) :
    (raise limit rest server Server.refused pauses).failure =
        some (if pauses = [] ∨ pauses.sum < rest then .connection Server.refused
          else .timedOut limit) ∧
      (raise limit rest server Server.refused pauses).sent = [] := by
  induction pauses generalizing rest with
  | nil => exact ⟨rfl, rfl⟩
  | cons pause later ih =>
      have tries : retry server later = ⟨[], waiting later Server.refused, server⟩ := by
        have fails : server.attempt = ⟨some Server.refused, [], server.script⟩ := by
          simp [Server.attempt, unreachable]
        rw [retry, fails]
      obtain ⟨failure, sent⟩ := ih (rest - pause)
      rw [raise, List.sum_cons]
      by_cases soon : pause < rest
      · rw [if_pos soon, tries]
        have inTime : later = [] ∨ later.sum < rest - pause ↔
            pause :: later = [] ∨ pause + later.sum < rest := by
          rw [Nat.lt_sub_iff_add_lt']
          cases later with
          | nil => simpa using soon
          | cons first others => simp
        simp only [failure, sent, inTime, List.append_nil, and_self]
      · have tooLate : ¬pause + later.sum < rest := fun inTime =>
          soon (Nat.lt_of_le_of_lt (Nat.le_add_right ..) inTime)
        simp [soon, tooLate]

/-- A caller who does not get a link was kept waiting, or learns how the last
try failed. -/
theorem raise_failure (limit rest : Duration) (server : Server) (error : RemoteError)
    (pauses : List Duration) {fault : Fault}
    (failed : (raise limit rest server error pauses).failure = some fault) :
    fault = .timedOut limit ∨ ∃ last, fault = .ofRemote last := by
  induction pauses generalizing rest server error with
  | nil =>
      cases failed
      exact Or.inr ⟨error, rfl⟩
  | cons pause later ih =>
      rw [raise] at failed
      split at failed
      · dsimp only at failed
        split at failed
        · cases failed
        · exact ih _ _ _ failed
      · cases failed
        exact Or.inl rfl

theorem await_failure (limit : Duration) (server : Server) (link : Link) {fault : Fault}
    (failed : (await limit server link).failure = some fault) :
    fault = .timedOut limit ∨ ∃ last, fault = .ofRemote last := by
  cases link with
  | up => cases failed
  | waiting pauses error => exact raise_failure limit limit server error pauses failed

end Link

/-! ## Calls -/

namespace Session

theorem fault?_respond (result : Except Fault Answer) :
    ((respond result).fault? = none → ∃ answer, respond result = .answer answer) ∧
      ∀ fault, respond result = .failed fault ↔ (respond result).fault? = some fault := by
  cases result with
  | error fault => simp [respond, Response.fault?]
  | ok answer => cases answer <;> simp [respond, Response.fault?]

/-- Over a link that is up, what is sent for a call lies between what was sent
to set the link up before and after. -/
theorem converse_of_raised (session : Session) {dialogue : Dialogue}
    (asks : ∃ command next, dialogue = .ask command next) (outcomes : List Outcome)
    (raised : (session.link.await session.limit session.server).failure = none) :
    (session.converse dialogue outcomes).1.response =
        respond (dialogue.hold session.limit outcomes).result ∧
      (session.converse dialogue outcomes).1.sent =
        (session.link.await session.limit session.server).sent ++
            (dialogue.hold session.limit outcomes).sent ++
          if (dialogue.hold session.limit outcomes).lost then
            (Link.reconnect (session.link.await session.limit session.server).server).sent
          else [] := by
  obtain ⟨command, next, rfl⟩ := asks
  cases lost : ((Dialogue.ask command next).hold session.limit outcomes).lost <;>
    simp [converse, raised, recover, follow, lost]

/-- A call that does not get a link sends nothing of its own. -/
theorem converse_of_failure (session : Session) {dialogue : Dialogue} {fault : Fault}
    (asks : ∃ command next, dialogue = .ask command next) (outcomes : List Outcome)
    (failed : (session.link.await session.limit session.server).failure = some fault) :
    (session.converse dialogue outcomes).1 =
      ⟨.failed fault, (session.link.await session.limit session.server).sent⟩ := by
  obtain ⟨command, next, rfl⟩ := asks
  simp [converse, failed]

/-- What a data call sends and how it ends, for every session, every call and
everything that the server can do. A call without anything to apply it to is
answered with zero and sends nothing. A call that gets no link sends nothing
either; where connections are refused it is told so after the last try, or
waits in vain. Over a link that is up one command is sent, which is the length
for a push of nothing. Lifting an expiry is the exception: it begins by asking
whether the key is there, and only a reply that says so is followed by a second
command. The outcome of the last command decides the call, and none before it
failed: a fault is what the call makes of that outcome, something is missing
exactly if the reply says so, and if nothing failed there is an answer. -/
theorem call_follows_outcomes (session : Session) (call : Call) (outcomes : List Outcome) :
    let turn := (session.request (.call call) outcomes).1
    let raised := session.link.await session.limit session.server
    let commands := ((callDialogue call).hold session.limit outcomes).sent
    let last := commands.length - 1
    (call.isVoid = true →
        session.request (.call call) outcomes = (⟨.answer (.count 0), []⟩, session)) ∧
      (call.isVoid = false → ∀ fault, raised.failure = some fault →
        turn = ⟨.failed fault, raised.sent⟩ ∧
          (fault = .timedOut session.limit ∨ ∃ error, fault = .ofRemote error)) ∧
      (∀ pauses, session.link = .waiting pauses Server.refused →
        session.server.reachable = false →
          raised.failure = some (if pauses = [] ∨ pauses.sum < session.limit then
            .connection Server.refused else .timedOut session.limit) ∧ raised.sent = []) ∧
      (call.isVoid = false → raised.failure = none →
        turn.sent = raised.sent ++ commands ++
            (if Outcome.isLost outcomes[last]? then (Link.reconnect raised.server).sent else []) ∧
          (∀ fault, turn.response = .failed fault ↔
            call.faultAt session.limit last outcomes[last]? = some fault) ∧
          (turn.response = .failed .missing ↔
            ∃ reply, outcomes[last]? = some (.reply reply) ∧ call.denied last reply = true) ∧
          (call.faultAt session.limit last outcomes[last]? = none →
            ∃ answer, turn.response = .answer answer) ∧
          (∀ index, index + 1 < commands.length →
            call.faultAt session.limit index outcomes[index]? = none)) ∧
      ((∀ key, call ≠ .value (.expire key 0)) → call.isVoid = false →
        ∃ command, (callDialogue call).opening? = some command ∧ commands = [command]) ∧
      (∀ key, call = .list (.push key []) → commands = [["LLEN", key]]) ∧
      (∀ key, call = .value (.expire key 0) →
        (Dialogue.Affirms outcomes.head? → commands = [["EXISTS", key], ["PERSIST", key]]) ∧
          (¬Dialogue.Affirms outcomes.head? → commands = [["EXISTS", key]])) := by
  intro turn raised commands last
  refine ⟨?_, ?_, ?_, ?_, ?_, ?_, ?_⟩
  · intro void
    rw [request, Dialogue.callDialogue_of_isVoid void]
    rfl
  · intro applies fault failed
    have asks := Dialogue.callDialogue_of_not_isVoid applies
    refine ⟨session.converse_of_failure asks outcomes failed, ?_⟩
    exact Link.await_failure session.limit session.server session.link failed
  · rintro pauses down unreachable
    simp only [raised, down]
    exact Link.raise_refused session.limit session.limit unreachable pauses
  · intro applies up
    have asks := Dialogue.callDialogue_of_not_isVoid applies
    obtain ⟨response, sent⟩ := session.converse_of_raised asks outcomes up
    have decides := Dialogue.decides_call session.limit applies outcomes
    obtain ⟨answers, fails⟩ :=
      fault?_respond ((callDialogue call).hold session.limit outcomes).result
    rw [← response] at answers fails
    have decided := decides.decided
    rw [← response] at decided
    rw [decides.lost] at sent
    have failsBy : ∀ fault, turn.response = .failed fault ↔
        call.faultAt session.limit last outcomes[last]? = some fault :=
      fun fault => (fails fault).trans (by rw [decided])
    have misses := (failsBy .missing).trans faultAt_eq_missing_iff
    exact ⟨sent, failsBy, misses, fun nothing => answers (decided.trans nothing), decides.passed⟩
  · exact fun plain applies => Dialogue.sent_of_plain session.limit applies plain outcomes
  · rintro key rfl
    have applies : (Call.list (.push key [])).isVoid = false := rfl
    obtain ⟨command, opening, sent⟩ :=
      Dialogue.sent_of_plain session.limit applies (fun _ => nofun) outcomes
    cases opening
    exact sent
  · rintro key rfl
    exact (Dialogue.hold_expire session.limit key outcomes).2

/-- The connection is lost at the second command of a call that lifts an
expiry; it is set up again, and the call fails. -/
theorem call_follows_outcomes_persist :
    let endpoint : Endpoint := ⟨"h", 1, 0, none, some "p", .resp2⟩
    let session : Session := ⟨⟨endpoint, true, []⟩, 5, 1, .up, 1, Table.empty⟩
    let turn := (session.request (.call (.value (.expire "k" 0))) [.reply (.integer 1), .lost]).1
    turn.sent = [["EXISTS", "k"], ["PERSIST", "k"], ["AUTH", "p"]] ∧
      turn.response = .failed (.connection broken) := by
  intro endpoint session turn
  obtain ⟨-, -, -, decided, -, -, lifts⟩ := session.call_follows_outcomes
    (.value (.expire "k" 0)) [.reply (.integer 1), .lost]
  obtain ⟨sent, fails, -⟩ := decided rfl rfl
  have both := (lifts "k" rfl).1 ⟨.integer 1, rfl, rfl, rfl⟩
  rw [both] at sent fails
  exact ⟨sent, (fails (.connection broken)).mpr rfl⟩

end Session

end Remote

end SharedState
