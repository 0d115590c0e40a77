import SharedState.Proofs.IndexRange
import SharedState.Proofs.Remote.Calls

/-!
# Lifetimes in milliseconds

A server counts lifetimes in whole milliseconds, and at least one. A lifetime
is rounded down on its way to the server, but never to nothing, since zero
means without end: that holds of what is written, and a key that is to lapse is
written together with its lifetime, in one command. It does not hold of what is
read. A server that says that no whole millisecond is left is understood to say
zero, and whoever writes that back makes the key stay for good.
-/

namespace SharedState

open Remote SharedState.Text

/-! ## What a call sends -/

/-- The commands of a call, by what the server does with them. Over a link that
is up they stand between what is sent to set it up before and, if it is lost at
the last of them, after. Without a link nothing is sent for the call. -/
def Call.Sends (call : Call) (outcomes : List Outcome) (commands : List Command) : Prop :=
  ∀ session : Session,
    let sent := (session.request (.call call) outcomes).1.sent
    let raised := session.link.await session.limit session.server
    (raised.failure = none → sent = raised.sent ++ commands ++
        if Outcome.isLost outcomes[commands.length - 1]? then
          (Link.reconnect raised.server).sent
        else []) ∧
      (raised.failure ≠ none → sent = raised.sent)

namespace Remote

theorem sends_of_hold {call : Call} {outcomes : List Outcome} {commands : List Command}
    (applies : call.isVoid = false)
    (held : ∀ limit, ((callDialogue call).hold limit outcomes).sent = commands) :
    call.Sends outcomes commands := by
  intro session
  have asks := Dialogue.callDialogue_of_not_isVoid applies
  constructor
  · intro up
    have sent := (session.converse_of_raised asks outcomes up).2
    have decides := Dialogue.decides_call session.limit applies outcomes
    rw [decides.lost, held] at sent
    exact sent
  · intro down
    rcases Option.ne_none_iff_exists'.mp down with ⟨fault, failed⟩
    exact congrArg Turn.sent (session.converse_of_failure asks outcomes failed)

/-- A call that begins with a command, and does not lift an expiry, sends that
command and no other. -/
theorem sends_opening {call : Call} {command : Command} (applies : call.isVoid = false)
    (plain : ∀ key, call ≠ .value (.expire key 0))
    (opens : (callDialogue call).opening? = some command) (outcomes : List Outcome) :
    call.Sends outcomes [command] := by
  apply sends_of_hold applies
  intro limit
  rcases Dialogue.sent_of_plain limit applies plain outcomes with ⟨first, opening, sent⟩
  rw [opens] at opening
  cases opening
  exact sent

theorem sends_expire {key : String} {lifetime : Duration} (limited : lifetime ≠ 0)
    (outcomes : List Outcome) :
    Call.Sends (.value (.expire key lifetime)) outcomes
      [["PEXPIRE", key, Decimal.ofNat (signedMillis lifetime)]] := by
  have opens : (callDialogue (.value (.expire key lifetime))).opening? =
      some ["PEXPIRE", key, Decimal.ofNat (signedMillis lifetime)] := by
    rw [callDialogue, valueDialogue, if_neg limited]
    rfl
  refine sends_opening rfl ?_ opens outcomes
  rintro other same
  cases same
  exact limited rfl

/-! ## What a command says -/

/-- What a command says to write. -/
structure Order where
  key : String
  /-- The value; none if the one that is there stays. -/
  value : Option String
  /-- Whether the key has to be free. -/
  ifFree : Bool
  /-- After how many milliseconds the key lapses; none if it does not. -/
  millis : Option Nat
deriving DecidableEq

namespace Order

/-- A number of milliseconds. -/
def millis? (text : String) : Option Nat := Decimal.natural? 0x10000000000000000 text

/-- Reads a command that writes a value or a lifetime. -/
def read? : Command → Option Order
  | ["SET", key, value] => some ⟨key, some value, false, none⟩
  | ["PSETEX", key, millis, value] =>
      (millis? millis).map fun number => ⟨key, some value, false, some number⟩
  | ["SETNX", key, value] => some ⟨key, some value, true, none⟩
  | ["SET", key, value, "NX", "PX", millis] =>
      (millis? millis).map fun number => ⟨key, some value, true, some number⟩
  | ["PEXPIRE", key, millis] =>
      (millis? millis).map fun number => ⟨key, none, false, some number⟩
  | _ => none

end Order

/-- The second bound makes up for the first. -/
theorem signedMillis_eq (lifetime : Duration) :
    signedMillis lifetime = max 1 (min lifetime.toMillis 0x7FFFFFFFFFFFFFFF) := by
  simp only [signedMillis, millis]
  omega

theorem respond_lifetime (session : Session) (key : String) {reply : Reply} {value : Int}
    (read : reply.integer? = some value)
    (up : (session.link.await session.limit session.server).failure = none)
    (rest : List Outcome) :
    (session.request (.call (.value (.lifetime key))) (.reply reply :: rest)).1.response =
      Session.respond (.ok (lifetimeAnswer value)) := by
  have applies : (Call.value (.lifetime key)).isVoid = false := rfl
  have asks := Dialogue.callDialogue_of_not_isVoid applies
  have sound := Reply.firstError?_of_integer? read
  refine (session.converse_of_raised asks (.reply reply :: rest) up).1.trans ?_
  simp [callDialogue, valueDialogue, Dialogue.single, Dialogue.expect, Dialogue.hold, sound, read,
    Dialogue.answer]

/-- A positive number of milliseconds that was read is sent as it is. -/
theorem signedMillis_ofMillis {millis : Nat} (positive : 0 < millis)
    (small : millis ≤ 0x7FFFFFFFFFFFFFFF) : signedMillis (Duration.ofMillis millis) = millis := by
  rw [signedMillis_eq, Duration.toMillis_ofMillis]
  omega

/-- Lifting an expiry asks first whether the key is there. -/
theorem sends_lifting (key : String) (outcomes : List Outcome) :
    (Dialogue.Affirms outcomes.head? →
        Call.Sends (.value (.expire key 0)) outcomes [["EXISTS", key], ["PERSIST", key]]) ∧
      (¬Dialogue.Affirms outcomes.head? →
        Call.Sends (.value (.expire key 0)) outcomes [["EXISTS", key]]) := by
  constructor
  · intro there
    exact sends_of_hold rfl fun limit => (Dialogue.hold_expire limit key outcomes).2.1 there
  · intro notThere
    exact sends_of_hold rfl fun limit => (Dialogue.hold_expire limit key outcomes).2.2 notThere

/-- The lifetime of a key is asked for, and the answer is given to the key as a
new lifetime, zero for one without end. The first call finds no key if the
server says `-2`, and an unlimited lifetime exactly if it says `-1`. A positive
number of milliseconds goes back to the server as it came. Any other number is
taken for zero: it is answered as a lifetime that has an end, and writing it back
lifts the expiry just as if it had none. -/
theorem lifetime_restored_iff_positive (session : Session) (key : String) {reply : Reply}
    {value : Int} (read : reply.integer? = some value) (word : IsWord value)
    (up : (session.link.await session.limit session.server).failure = none)
    (rest : List Outcome) :
    let response :=
      (session.request (.call (.value (.lifetime key))) (.reply reply :: rest)).1.response
    (value = -2 → response = .failed .missing) ∧
      (value ≠ -2 → ∃ remaining, response = .answer (.lifetime remaining) ∧
        (remaining = none ↔ value = -1) ∧
        let renewal := Call.value (.expire key (remaining.getD 0))
        (0 < value → ∀ outcomes,
          renewal.Sends outcomes [["PEXPIRE", key, Decimal.ofInt value]]) ∧
        (value ≤ 0 → ∀ outcomes,
          (Dialogue.Affirms outcomes.head? →
              renewal.Sends outcomes [["EXISTS", key], ["PERSIST", key]]) ∧
            (¬Dialogue.Affirms outcomes.head? → renewal.Sends outcomes [["EXISTS", key]]))) := by
  intro response
  have answers : response = Session.respond (.ok (lifetimeAnswer value)) :=
    respond_lifetime session key read up rest
  constructor
  · rintro rfl
    exact answers
  · intro there
    by_cases endless : value = -1
    · refine ⟨none, ?_, by simp [endless], ?_⟩
      · rw [answers, lifetimeAnswer, if_neg there, if_pos endless]
        rfl
      · constructor
        · intro positive
          omega
        · exact fun _ outcomes => sends_lifting key outcomes
    · refine ⟨some (Duration.ofMillis value.toNat), ?_, by simp [endless], ?_⟩
      · rw [answers, lifetimeAnswer, if_neg there, if_neg endless]
        rfl
      · constructor
        · intro positive outcomes
          obtain ⟨millis, rfl⟩ := Int.eq_ofNat_of_zero_le (Int.le_of_lt positive)
          have whole : 0 < millis := Int.ofNat_lt.mp positive
          have small : millis ≤ 0x7FFFFFFFFFFFFFFF := Int.ofNat_le.mp word.2
          have limited : Duration.ofMillis millis ≠ 0 :=
            Nat.ne_of_gt (Nat.mul_pos whole (by decide))
          have sends : Call.Sends (.value (.expire key (Duration.ofMillis millis))) outcomes _ :=
            sends_expire limited outcomes
          rw [signedMillis_ofMillis whole small] at sends
          exact sends
        · intro spent outcomes
          have nothing : value.toNat = 0 := Int.toNat_of_nonpos spent
          rw [nothing]
          exact sends_lifting key outcomes

/-- The longest lifetime that a word of milliseconds can state, sent as a text. -/
theorem lifetime_restored_iff_positive_longest :
    let session : Session :=
      ⟨⟨⟨"h", 1, 0, none, none, .resp2⟩, true, []⟩, 5, 1, .up, 1, Table.empty⟩
    let longest : Int := 0x7FFFFFFFFFFFFFFF
    let reply : Reply := .simple "9223372036854775807"
    reply.integer? = some longest ∧ IsWord longest ∧
      (session.link.await session.limit session.server).failure = none ∧
      ∃ remaining, (session.request (.call (.value (.lifetime "k"))) [.reply reply]).1.response =
          .answer (.lifetime remaining) ∧
        Call.Sends (.value (.expire "k" (remaining.getD 0))) [.lost]
          [["PEXPIRE", "k", "9223372036854775807"]] := by
  intro session longest reply
  have read : reply.integer? = some longest := by decide
  have word : IsWord longest := by decide
  have up : (session.link.await session.limit session.server).failure = none := rfl
  obtain ⟨remaining, answers, -, restored, -⟩ :=
    (lifetime_restored_iff_positive session "k" read word up []).2 (by decide)
  exact ⟨read, word, up, remaining, answers, restored (by decide) [.lost]⟩

/-- A key that has less than a millisecond left stays for good once its lifetime
is read and written back: the answer is a lifetime that has an end, and zero. -/
theorem spent_lifetime_lifts_expiry :
    let session : Session :=
      ⟨⟨⟨"h", 1, 0, none, none, .resp2⟩, true, []⟩, 5, 1, .up, 1, Table.empty⟩
    let asked := session.request (.call (.value (.lifetime "k"))) [.reply (.integer 0)]
    let renewed := asked.2.request (.call (.value (.expire "k" 0)))
      [.reply (.integer 1), .reply (.integer 1)]
    asked.1.response = .answer (.lifetime (some 0)) ∧
      renewed.1.sent = [["EXISTS", "k"], ["PERSIST", "k"]] := by
  decide

end Remote

end SharedState
