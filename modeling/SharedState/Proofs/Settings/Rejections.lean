import SharedState.Proofs.Settings.Numerals
import SharedState.Settings.Variables

/-!
# Values that are not used

Whatever the variables hold, there are settings. A number is taken from its own
variable and from nothing else, and a value that is no such number, or a pause of
zero, counts as if the variable were not set, but for a warning: one for each
value that is not used, in a fixed order. The variables of the server are left
alone if there is no address.

Which numbers a variable may hold, its `Rule` says, in terms of numerals and not of
how they are read.
-/

namespace SharedState

open SharedState.Text

namespace Settings

/-! ## What a variable may hold -/

/-- What a variable of a number may hold: whether a minus sign may stand in front,
the least number, the least one above it that is too large, and the number that
counts if it holds none. -/
structure Rule where
  name : String
  negative : Bool
  least : Int
  limit : Int
  fallback : Int
deriving DecidableEq

namespace Rule

/-- The database: a signed 64-bit word. -/
def db : Rule := ⟨"REDIS_DB", true, -0x8000000000000000, 0x8000000000000000, 0⟩

/-- The limit of a call in milliseconds: an unsigned 64-bit word. -/
def millis : Rule := ⟨"REDIS_TIMEOUT_MS", false, 0, 0x10000000000000000, 2000⟩

/-- The pause between two sweeps in seconds: an unsigned 64-bit word, but not zero. -/
def seconds : Rule := ⟨"CACHE_RECLAIM_INTERVAL_SECS", false, 1, 0x10000000000000000, 30⟩

/-- The size of a mailbox: an unsigned 64-bit word. -/
def capacity : Rule := ⟨"PUBSUB_MAILBOX_CAPACITY", false, 0, 0x10000000000000000, 100⟩

/-- The rules in the order of the warnings. -/
def all : List Rule := [db, millis, seconds, capacity]

/-- Whether a variable is consulted only if there is a server. -/
def isOfServer (rule : Rule) : Bool := rule = db || rule = millis

/-- A text holds a number that counts. -/
def Allows (rule : Rule) (raw : String) (value : Int) : Prop :=
  Holds rule.negative raw value ∧ rule.least ≤ value ∧ value < rule.limit

/-- The number that a variable gives: the one it holds, or else the default. -/
def Gives (rule : Rule) (lookup : Variables) (value : Int) : Prop :=
  (∃ raw, lookup rule.name = some raw ∧ rule.Allows raw value) ∨
    value = rule.fallback ∧
      ∀ raw, lookup rule.name = some raw → ∀ other, ¬rule.Allows raw other

/-- A variable is set to something that is no number that counts. -/
def Refuses (rule : Rule) (lookup : Variables) : Prop :=
  ∃ raw, lookup rule.name = some raw ∧ ∀ value, ¬rule.Allows raw value

end Rule

/-! ## How it is read -/

/-- The number that a variable holds, if it holds one that counts. -/
def choice? {Value : Type} (lookup : Variables) (name : String) (parse : String → Option Value) :
    Option Value :=
  (lookup name).bind fun raw => parse (Blank.trim raw)

/-- The seconds of a pause, of which there is one at least. -/
def pause? (text : String) : Option Nat := (word? text).filter (0 < ·)

/-- The variables of numbers, in order; those of the server count only if there
is an address. -/
def consulted (lookup : Variables) : List String :=
  (if (address? lookup).isSome then ["REDIS_DB", "REDIS_TIMEOUT_MS"] else []) ++
    ["CACHE_RECLAIM_INTERVAL_SECS", "PUBSUB_MAILBOX_CAPACITY"]

/-- Whether a variable of a number may hold a text. -/
def accepts (name text : String) : Bool :=
  if name = "REDIS_DB" then (Decimal.integer? text).isSome
  else if name = "CACHE_RECLAIM_INTERVAL_SECS" then (pause? text).isSome
  else (word? text).isSome

/-- Whether a variable is set to what it may not hold. -/
def rejects (lookup : Variables) (name : String) : Bool :=
  (lookup name).any fun raw => !accepts name (Blank.trim raw)

/-- The variables that are consulted and hold what they may not hold. -/
def rejected (lookup : Variables) : List String := (consulted lookup).filter (rejects lookup)

/-- The warning about a value that is not used. It quotes the value as it
stands, but a zero as a number. -/
def complaint (lookup : Variables) (name : String) : Warning where
  name := name
  value :=
    if name = "CACHE_RECLAIM_INTERVAL_SECS" ∧ choice? lookup name word? = some 0 then "0"
    else (lookup name).getD ""

/-- The same variables, without some. -/
def without (names : List String) (lookup : Variables) : Variables := fun name =>
  if name ∈ names then none else lookup name

/-! ## One number -/

/-- A number is what its variable holds, or the default, and there is a warning
if the variable holds something else. -/
theorem number_eq {Value : Type} (lookup : Variables) (name : String)
    (parse : String → Option Value) (fallback : Value)
    (rule : ∀ text, accepts name text = (parse text).isSome)
    (plain : name ≠ "CACHE_RECLAIM_INTERVAL_SECS") :
    number lookup name parse fallback =
      ((choice? lookup name parse).getD fallback,
        if rejects lookup name then [complaint lookup name] else []) := by
  apply Prod.ext
  · exact number_fst lookup name parse fallback
  · simp only [number, rejects, complaint, rule, plain, false_and, if_false]
    cases lookup name with
    | none => rfl
    | some raw => cases read : parse (Blank.trim raw) <;> simp [read]

/-- The pause is read like any number, and then once more. -/
theorem reclaimSeconds_eq (lookup : Variables) :
    reclaimSeconds lookup =
      ((choice? lookup "CACHE_RECLAIM_INTERVAL_SECS" pause?).getD defaultReclaimSeconds,
        if rejects lookup "CACHE_RECLAIM_INTERVAL_SECS" then
          [complaint lookup "CACHE_RECLAIM_INTERVAL_SECS"]
        else []) := by
  simp only [reclaimSeconds, number, rejects, complaint, choice?]
  cases lookup "CACHE_RECLAIM_INTERVAL_SECS" with
  | none => rfl
  | some raw =>
      cases read : word? (Blank.trim raw) with
      | none => simp [accepts, pause?, read, defaultReclaimSeconds]
      | some seconds => cases seconds <;> simp [accepts, pause?, read, Option.filter]

/-! ## All settings -/

/-- The settings that the variables ask for. -/
def asked (lookup : Variables) : Settings where
  server := (address? lookup).map fun address =>
    { address
      password := (lookup "REDIS_PASSWORD").filter fun password => !password.isEmpty
      db := (choice? lookup "REDIS_DB" Decimal.integer?).getD 0
      timeout := Duration.ofMillis ((choice? lookup "REDIS_TIMEOUT_MS" word?).getD 2000) }
  reclaimInterval :=
    Duration.ofSeconds ((choice? lookup "CACHE_RECLAIM_INTERVAL_SECS" pause?).getD 30)
  mailboxCapacity := (choice? lookup "PUBSUB_MAILBOX_CAPACITY" word?).getD 100

theorem map_complaint_cons (lookup : Variables) (name : String) (rest : List String) :
    ((name :: rest).filter (rejects lookup)).map (complaint lookup) =
      (if rejects lookup name then [complaint lookup name] else []) ++
        (rest.filter (rejects lookup)).map (complaint lookup) := by
  cases rejected : rejects lookup name <;> simp [rejected]

/-- There are always settings: those that were asked for, and a warning about
each value that is not used. -/
theorem ofVariables_eq (lookup : Variables) :
    ofVariables lookup = (asked lookup, (rejected lookup).map (complaint lookup)) := by
  have db := number_eq lookup "REDIS_DB" Decimal.integer? 0 (fun _ => rfl) (by decide)
  have millis := number_eq lookup "REDIS_TIMEOUT_MS" word? ServerSettings.defaultTimeout.toMillis
    (fun _ => rfl) (by decide)
  have capacity := number_eq lookup "PUBSUB_MAILBOX_CAPACITY" word? defaultMailboxCapacity
    (fun _ => rfl) (by decide)
  simp only [ofVariables, reclaimSeconds_eq, capacity, serverAt, db, millis, asked, rejected,
    consulted]
  cases address? lookup with
  | none =>
      simp only [Option.isSome_none, Bool.false_eq_true, if_false, List.nil_append,
        map_complaint_cons]
      simp [defaultReclaimSeconds, defaultMailboxCapacity]
  | some address =>
      simp only [Option.isSome_some, if_true, List.cons_append, List.nil_append,
        map_complaint_cons]
      simp [defaultReclaimSeconds, defaultMailboxCapacity, ServerSettings.defaultTimeout]

/-! ## Variables that are not set -/

section

variable {lookup : Variables} {name : String}

theorem mem_rejected_iff :
    name ∈ rejected lookup ↔ name ∈ consulted lookup ∧ rejects lookup name = true :=
  List.mem_filter

theorem without_of_notMem {names : List String} (kept : name ∉ names) :
    without names lookup name = lookup name :=
  if_neg kept

theorem without_of_mem {names : List String} (removed : name ∈ names) :
    without names lookup name = none :=
  if_pos removed

/-- The address and the password are never rejected. -/
theorem notMem_rejected (other : name ∉ ["REDIS_DB", "REDIS_TIMEOUT_MS",
    "CACHE_RECLAIM_INTERVAL_SECS", "PUBSUB_MAILBOX_CAPACITY"]) : name ∉ rejected lookup := by
  intro member
  have among := (mem_rejected_iff.mp member).1
  unfold consulted at among
  split at among <;> simp_all

theorem address?_without : address? (without (rejected lookup) lookup) = address? lookup := by
  rw [address?, without_of_notMem (notMem_rejected (by decide)), address?]

/-- A value that is not used counts as none at all. -/
theorem choice?_without {Value : Type} (lookup : Variables) (name : String)
    (parse : String → Option Value) (rule : ∀ text, accepts name text = (parse text).isSome) :
    choice? (without (rejected lookup) lookup) name parse = choice? lookup name parse := by
  by_cases removed : name ∈ rejected lookup
  · have refused := (mem_rejected_iff.mp removed).2
    rw [choice?, choice?, without_of_mem removed]
    cases held : lookup name with
    | none => rfl
    | some raw =>
        have unread : parse (Blank.trim raw) = none := by simpa [rejects, held, rule] using refused
        exact unread.symm
  · rw [choice?, choice?, without_of_notMem removed]

theorem rejects_without (asked : name ∈ consulted lookup) :
    rejects (without (rejected lookup) lookup) name = false := by
  by_cases removed : name ∈ rejected lookup
  · rw [rejects, without_of_mem removed]
    rfl
  · rw [rejects, without_of_notMem removed]
    exact Bool.eq_false_iff.mpr fun refused => removed (mem_rejected_iff.mpr ⟨asked, refused⟩)

theorem asked_without : asked (without (rejected lookup) lookup) = asked lookup := by
  have password : without (rejected lookup) lookup "REDIS_PASSWORD" = lookup "REDIS_PASSWORD" :=
    without_of_notMem (notMem_rejected (by decide))
  have db := choice?_without lookup "REDIS_DB" Decimal.integer? fun _ => rfl
  have millis := choice?_without lookup "REDIS_TIMEOUT_MS" word? fun _ => rfl
  have seconds := choice?_without lookup "CACHE_RECLAIM_INTERVAL_SECS" pause? fun _ => rfl
  have capacity := choice?_without lookup "PUBSUB_MAILBOX_CAPACITY" word? fun _ => rfl
  rw [asked, address?_without, password, db, millis, seconds, capacity, asked]

theorem rejected_without : rejected (without (rejected lookup) lookup) = [] := by
  have same : consulted (without (rejected lookup) lookup) = consulted lookup := by
    rw [consulted, address?_without, consulted]
  rw [rejected, same, List.filter_eq_nil_iff]
  intro name member
  simp [rejects_without member]

end

theorem address?_eq_none_iff (lookup : Variables) :
    address? lookup = none ↔ ∀ raw, lookup "REDIS_ADDR" = some raw →
      ∀ letter ∈ raw.toList, Blank.isBlank letter = true := by
  unfold address?
  cases lookup "REDIS_ADDR" with
  | none => simp
  | some raw => simp [Option.filter_eq_none_iff, Blank.trim_eq_empty_iff]

theorem pos_of_pause? {text : String} {seconds : Nat} (read : pause? text = some seconds) :
    0 < seconds := by
  have passed := (Option.filter_eq_some_iff.mp read).2
  simpa using passed

theorem choice?_congr {Value : Type} {lookup other : Variables} {name : String}
    {parse : String → Option Value} (same : other name = lookup name) :
    choice? other name parse = choice? lookup name parse := by
  rw [choice?, same, choice?]

/-- Without an address the other variables of the server are not looked at. -/
theorem ofVariables_congr {lookup other : Variables} (nowhere : address? lookup = none)
    (same : ∀ name ∉ ["REDIS_PASSWORD", "REDIS_DB", "REDIS_TIMEOUT_MS"],
      other name = lookup name) : ofVariables other = ofVariables lookup := by
  have elsewhere : address? other = none := by
    rw [address?, same "REDIS_ADDR" (by decide)]
    exact nowhere
  have alike : ∀ name ∈ consulted lookup, other name = lookup name := by
    intro name member
    apply same
    simp only [consulted, nowhere, Option.isSome_none, Bool.false_eq_true, if_false,
      List.nil_append, List.mem_cons, List.not_mem_nil, or_false] at member
    rcases member with rfl | rfl <;> decide
  have numbers : asked other = asked lookup := by
    have seconds : choice? other "CACHE_RECLAIM_INTERVAL_SECS" pause? = choice? lookup _ pause? :=
      choice?_congr (same _ (by decide))
    have capacity : choice? other "PUBSUB_MAILBOX_CAPACITY" word? = choice? lookup _ word? :=
      choice?_congr (same _ (by decide))
    rw [asked, asked, elsewhere, nowhere, seconds, capacity, Option.map_none, Option.map_none]
  have bad : rejected other = rejected lookup := by
    have names : consulted other = consulted lookup := by
      rw [consulted, consulted, elsewhere, nowhere]
    rw [rejected, names]
    exact List.filter_congr fun name member => by rw [rejects, alike name member, rejects]
  rw [ofVariables_eq, ofVariables_eq, numbers, bad]
  refine congrArg _ (List.map_congr_left fun name member => ?_)
  have unchanged := alike name (mem_rejected_iff.mp member).1
  rw [complaint, complaint, choice?_congr unchanged, unchanged]

/-! ## What is read is what may be held -/

section

variable {Value : Type} {parse : String → Option Value} {toInt : Value → Int} {rule : Rule}
variable {lookup : Variables}

/-- A text is read as a number if it holds one that counts, and only then. -/
def Rule.ReadBy (rule : Rule) (parse : String → Option Value) (toInt : Value → Int) : Prop :=
  ∀ raw value, rule.Allows raw value ↔
    ∃ read, parse (Blank.trim raw) = some read ∧ toInt read = value

theorem readBy_db : Rule.db.ReadBy Decimal.integer? id := by
  intro raw value
  rw [Rule.Allows, holds_iff]
  exact ⟨fun allowed => ⟨value, Decimal.integer?_eq_some_iff.mpr allowed, rfl⟩,
    fun ⟨_, read, same⟩ => same ▸ Decimal.integer?_eq_some_iff.mp read⟩

/-- Without a minus sign there are no negative numbers. -/
theorem exists_nat_of_numeral {letters : List Char} {value : Int}
    (numeral : Numeral false letters value) : ∃ natural : Nat, (natural : Int) = value := by
  cases numeral with
  | plain run => exact ⟨_, rfl⟩
  | plus run => exact ⟨_, rfl⟩
  | minus negative => cases negative

theorem word?_eq_some_iff {text : String} {value : Nat} :
    word? text = some value ↔ Numeral false text.toList value ∧ value < 0x10000000000000000 :=
  Decimal.natural?_eq_some_iff

theorem readBy_word {name : String} {fallback : Int} :
    (⟨name, false, 0, 0x10000000000000000, fallback⟩ : Rule).ReadBy word? Int.ofNat := by
  intro raw value
  rw [Rule.Allows, holds_iff]
  constructor
  · rintro ⟨numeral, -, below⟩
    obtain ⟨natural, rfl⟩ := exists_nat_of_numeral numeral
    exact ⟨natural, word?_eq_some_iff.mpr ⟨numeral, Int.ofNat_lt.mp below⟩, rfl⟩
  · rintro ⟨natural, read, rfl⟩
    obtain ⟨numeral, below⟩ := word?_eq_some_iff.mp read
    exact ⟨numeral, Int.natCast_nonneg natural, Int.ofNat_lt.mpr below⟩

theorem readBy_seconds : Rule.seconds.ReadBy pause? Int.ofNat := by
  intro raw value
  rw [Rule.Allows, holds_iff]
  simp only [pause?, Option.filter_eq_some_iff, decide_eq_true_iff]
  constructor
  · rintro ⟨numeral, positive, below⟩
    obtain ⟨natural, rfl⟩ := exists_nat_of_numeral numeral
    exact ⟨natural, ⟨word?_eq_some_iff.mpr ⟨numeral, Int.ofNat_lt.mp below⟩,
      Int.ofNat_lt.mp positive⟩, rfl⟩
  · rintro ⟨natural, ⟨read, positive⟩, rfl⟩
    obtain ⟨numeral, below⟩ := word?_eq_some_iff.mp read
    exact ⟨numeral, Int.ofNat_lt.mpr positive, Int.ofNat_lt.mpr below⟩

/-- A variable gives one number, which is the one that is read. -/
theorem Rule.ReadBy.gives_iff (reads : rule.ReadBy parse toInt) {fallback : Value}
    (same : toInt fallback = rule.fallback) (value : Int) :
    rule.Gives lookup value ↔
      value = toInt ((choice? lookup rule.name parse).getD fallback) := by
  rw [Rule.Gives, choice?, ← same]
  cases lookup rule.name with
  | none => simp
  | some raw =>
      simp only [Option.some.injEq, Option.bind_some, exists_eq_left', forall_eq', reads raw]
      cases parse (Blank.trim raw) with
      | none => simp
      | some read => simp [eq_comm]

theorem Rule.ReadBy.refuses_iff (reads : rule.ReadBy parse toInt)
    (accepted : ∀ text, accepts rule.name text = (parse text).isSome) :
    rule.Refuses lookup ↔ rejects lookup rule.name = true := by
  rw [Rule.Refuses, rejects]
  cases lookup rule.name with
  | none => simp
  | some raw =>
      simp only [Option.some.injEq, exists_eq_left', reads raw, Option.any_some, accepted]
      cases parse (Blank.trim raw) <;> simp

/-- What is refused is rejected. -/
theorem refuses_iff_rejects (known : rule ∈ Rule.all) :
    rule.Refuses lookup ↔ rejects lookup rule.name = true := by
  simp only [Rule.all, List.mem_cons, List.not_mem_nil, or_false] at known
  rcases known with rfl | rfl | rfl | rfl
  · exact readBy_db.refuses_iff fun _ => rfl
  · exact readBy_word.refuses_iff fun _ => rfl
  · exact readBy_seconds.refuses_iff fun _ => rfl
  · exact readBy_word.refuses_iff fun _ => rfl

theorem mem_consulted_iff (known : rule ∈ Rule.all) :
    rule.name ∈ consulted lookup ↔
      (rule.isOfServer = true → (address? lookup).isSome = true) := by
  simp only [Rule.all, List.mem_cons, List.not_mem_nil, or_false] at known
  rcases known with rfl | rfl | rfl | rfl <;>
    cases found : (address? lookup).isSome <;> simp [consulted, found] <;> decide

theorem rejected_sublist (lookup : Variables) :
    (rejected lookup).Sublist (Rule.all.map Rule.name) := by
  apply List.filter_sublist.trans
  unfold consulted
  split
  · exact List.Sublist.refl _
  · exact List.sublist_append_right ["REDIS_DB", "REDIS_TIMEOUT_MS"] _

end

/-- Loading the settings from variables, whatever they hold. There is a second
between two sweeps at least. There is a server exactly if the address is set to
more than white space; if not, the other variables of the server make no
difference. A number is the one that its variable holds between white space, if
it is in range and no pause of zero, and the default if not. There is one warning
for each value that is not used, in a fixed order, and without these values the
settings are the same and there is no warning. -/
theorem rejected_count_as_unset (lookup : Variables) :
    let settings := (ofVariables lookup).1
    let warned := (ofVariables lookup).2.map Warning.name
    Duration.ofSeconds 1 ≤ settings.reclaimInterval ∧
      (settings.server = none ↔ ∀ raw, lookup "REDIS_ADDR" = some raw →
        ∀ letter ∈ raw.toList, Blank.isBlank letter = true) ∧
      (settings.server = none → ∀ other : Variables,
        (∀ name ∉ ["REDIS_PASSWORD", "REDIS_DB", "REDIS_TIMEOUT_MS"],
            other name = lookup name) → ofVariables other = ofVariables lookup) ∧
      (∀ server, settings.server = some server →
        (lookup "REDIS_ADDR").map Blank.trim = some server.address ∧
          server.password = (lookup "REDIS_PASSWORD").filter (fun password => !password.isEmpty) ∧
          (∀ value, Rule.db.Gives lookup value ↔ value = server.db) ∧
          ∃ millis : Nat, (∀ value, Rule.millis.Gives lookup value ↔ value = millis) ∧
            server.timeout = Duration.ofMillis millis) ∧
      (∃ seconds : Nat, (∀ value, Rule.seconds.Gives lookup value ↔ value = seconds) ∧
        settings.reclaimInterval = Duration.ofSeconds seconds) ∧
      (∀ value, Rule.capacity.Gives lookup value ↔ value = settings.mailboxCapacity) ∧
      warned.Sublist (Rule.all.map Rule.name) ∧
      (∀ rule ∈ Rule.all, rule.name ∈ warned ↔
        rule.Refuses lookup ∧ (rule.isOfServer = true → settings.server ≠ none)) ∧
      ofVariables (without warned lookup) = (settings, []) := by
  intro settings warned
  have closed := ofVariables_eq lookup
  have isAsked : settings = asked lookup := congrArg Prod.fst closed
  have areRejected : warned = rejected lookup := by
    rw [show warned = _ from congrArg (fun read => read.2.map Warning.name) closed, List.map_map]
    exact List.map_id _
  have noServer : settings.server = none ↔ address? lookup = none := by
    rw [isAsked]
    exact Option.map_eq_none_iff
  rw [areRejected]
  refine ⟨?_, noServer.trans (address?_eq_none_iff lookup), ?_, ?_, ?_, ?_,
    rejected_sublist lookup, ?_, ?_⟩
  · rw [isAsked]
    apply Nat.mul_le_mul_right
    cases read : choice? lookup "CACHE_RECLAIM_INTERVAL_SECS" pause? with
    | none => decide
    | some seconds =>
        rcases Option.bind_eq_some_iff.mp read with ⟨raw, -, parsed⟩
        exact pos_of_pause? parsed
  · intro alone other same
    exact ofVariables_congr (noServer.mp alone) same
  · intro server there
    rw [isAsked] at there
    obtain ⟨address, found, rfl⟩ := Option.map_eq_some_iff.mp there
    refine ⟨(Option.filter_eq_some_iff.mp found).1, rfl, readBy_db.gives_iff rfl, ?_⟩
    exact ⟨_, readBy_word.gives_iff rfl, rfl⟩
  · rw [isAsked]
    exact ⟨_, readBy_seconds.gives_iff rfl, rfl⟩
  · rw [isAsked]
    exact readBy_word.gives_iff rfl
  · intro rule known
    rw [mem_rejected_iff, mem_consulted_iff known, refuses_iff_rejects known, ne_eq, noServer,
      and_comm, Option.isSome_iff_ne_none]
  · rw [ofVariables_eq, asked_without, rejected_without, isAsked]
    rfl

/-- An address with numbers next to it, some with a sign and white space, and a
pause of zero: all but the pause are used. And a blank address next to a number of
a database that is none: only the pause is looked at. -/
theorem rejected_count_as_unset_signed :
    let lookup : Variables := fun name =>
      if name = "REDIS_ADDR" then some "host"
      else if name = "REDIS_DB" then some " -7\t"
      else if name = "REDIS_TIMEOUT_MS" then some "+250"
      else if name = "CACHE_RECLAIM_INTERVAL_SECS" then some "0"
      else if name = "PUBSUB_MAILBOX_CAPACITY" then some "0064"
      else none
    let blank : Variables := fun name =>
      if name = "REDIS_ADDR" then some " "
      else if name = "REDIS_DB" then some "first"
      else if name = "CACHE_RECLAIM_INTERVAL_SECS" then some "0"
      else none
    ((∃ server, (ofVariables lookup).1.server = some server ∧ server.db = -7 ∧
        server.timeout = Duration.ofMillis 250) ∧
      (ofVariables lookup).1.mailboxCapacity = 64 ∧
      ofVariables (without ["CACHE_RECLAIM_INTERVAL_SECS"] lookup) =
        ((ofVariables lookup).1, [])) ∧
    ((ofVariables blank).1.server = none ∧
      ofVariables (without ["REDIS_DB"] blank) = ofVariables blank ∧
      ofVariables (without ["CACHE_RECLAIM_INTERVAL_SECS"] blank) =
        ((ofVariables blank).1, [])) := by
  intro lookup blank
  constructor
  · obtain ⟨-, isNone, -, used, -, capacity, -, -, cleared⟩ := rejected_count_as_unset lookup
    have seven : Digits ['7'] 7 := ⟨by decide, by simp, by decide⟩
    have size : Digits ['0', '0', '6', '4'] 64 := ⟨by decide, by simp, by decide⟩
    have pause : Digits ['2', '5', '0'] 250 := ⟨by decide, by simp, by decide⟩
    have db : Rule.db.Gives lookup (-7) :=
      Or.inl ⟨" -7\t", by decide,
        ⟨[' '], ['-', '7'], ['\t'], by decide, List.forall_mem_singleton.mpr (by decide),
          List.forall_mem_singleton.mpr (by decide), .minus rfl seven⟩,
        by decide, by decide⟩
    have millis : Rule.millis.Gives lookup 250 :=
      Or.inl ⟨"+250", by decide,
        ⟨[], ['+', '2', '5', '0'], [], by decide, nofun, nofun, .plus pause⟩,
        by decide, by decide⟩
    have mailbox : Rule.capacity.Gives lookup 64 :=
      Or.inl ⟨"0064", by decide,
        ⟨[], ['0', '0', '6', '4'], [], by decide, nofun, nofun, .plain size⟩,
        by decide, by decide⟩
    have there : (ofVariables lookup).1.server ≠ none := by decide
    obtain ⟨server, found⟩ := Option.ne_none_iff_exists'.mp there
    obtain ⟨-, -, number, timeout, limit, same⟩ := used server found
    have bad : (ofVariables lookup).2.map Warning.name = ["CACHE_RECLAIM_INTERVAL_SECS"] := by
      decide
    rw [bad] at cleared
    refine ⟨⟨server, found, ((number _).mp db).symm, ?_⟩,
      (Int.ofNat_inj.mp ((capacity _).mp mailbox)).symm, cleared⟩
    rw [same, ← Int.ofNat_inj.mp ((limit _).mp millis)]
  · obtain ⟨-, isNone, alone, -, -, -, -, -, cleared⟩ := rejected_count_as_unset blank
    have bad : (ofVariables blank).2.map Warning.name = ["CACHE_RECLAIM_INTERVAL_SECS"] := by
      decide
    have nowhere : (ofVariables blank).1.server = none := by decide
    rw [bad] at cleared
    refine ⟨nowhere, alone nowhere _ fun name other => ?_, cleared⟩
    exact without_of_notMem fun member => other (by simp_all)

end Settings

end SharedState
