import SharedState.Settings

/-!
# Settings from named variables

Every setting has a variable. A number may have white space around it; one
that cannot be read, or a pause of zero, is reported and replaced by the
default. The variables of the server count only if there is an address.
-/

namespace SharedState.Settings

open SharedState.Text

/-- A look-up of variables by name. -/
abbrev Variables := String → Option String

/-- A value that was not used. -/
structure Warning where
  name : String
  value : String
deriving DecidableEq

/-- What a warning says. -/
def Warning.message : String := "Invalid configuration value, using default"

/-- A setting, and the warnings that came with it. -/
abbrev Read (Value : Type) := Value × List Warning

/-- Reads a number, or takes the default. -/
def number {Value : Type} (lookup : Variables) (name : String)
    (parse : String → Option Value) (fallback : Value) : Read Value :=
  match lookup name with
  | none => (fallback, [])
  | some raw =>
      match parse (Blank.trim raw) with
      | some value => (value, [])
      | none => (fallback, [⟨name, raw⟩])

/-- What is read is what the variable says, as far as it says anything. -/
theorem number_fst {Value : Type} (lookup : Variables) (name : String)
    (parse : String → Option Value) (fallback : Value) :
    (number lookup name parse fallback).1 =
      ((lookup name).bind fun raw => parse (Blank.trim raw)).getD fallback := by
  unfold number
  cases lookup name with
  | none => rfl
  | some raw =>
      simp only [Option.bind_some]
      cases parse (Blank.trim raw) <;> rfl

/-- A number that fits an unsigned 64-bit word. -/
def word? (text : String) : Option Nat := Decimal.natural? 0x10000000000000000 text

/-- The address, unless it is blank. -/
def address? (lookup : Variables) : Option String :=
  ((lookup "REDIS_ADDR").map Blank.trim).filter fun address => !address.isEmpty

/-- The settings of the server at an address. -/
def serverAt (lookup : Variables) (address : String) : Read ServerSettings :=
  let db := number lookup "REDIS_DB" Decimal.integer? 0
  let millis :=
    number lookup "REDIS_TIMEOUT_MS" word? ServerSettings.defaultTimeout.toMillis
  ({ address
     password := (lookup "REDIS_PASSWORD").filter fun password => !password.isEmpty
     db := db.1
     timeout := Duration.ofMillis millis.1 },
    db.2 ++ millis.2)

/-- The pause between two sweeps in seconds. Without a pause the sweeps would
follow each other at once, so zero is refused. -/
def reclaimSeconds (lookup : Variables) : Read Nat :=
  let name := "CACHE_RECLAIM_INTERVAL_SECS"
  match number lookup name word? defaultReclaimSeconds with
  | (0, warnings) => (defaultReclaimSeconds, warnings ++ [⟨name, "0"⟩])
  | read => read

/-- All settings. -/
def ofVariables (lookup : Variables) : Read Settings :=
  let server : Read (Option ServerSettings) :=
    match address? lookup with
    | none => (none, [])
    | some address =>
        let read := serverAt lookup address
        (some read.1, read.2)
  let seconds := reclaimSeconds lookup
  let capacity := number lookup "PUBSUB_MAILBOX_CAPACITY" word? defaultMailboxCapacity
  ({ server := server.1
     reclaimInterval := Duration.ofSeconds seconds.1
     mailboxCapacity := capacity.1 },
    server.2 ++ seconds.2 ++ capacity.2)

end SharedState.Settings
