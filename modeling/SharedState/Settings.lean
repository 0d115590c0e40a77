import SharedState.Address.Url
import SharedState.Text.Quoted
import SharedState.Text.Record

/-!
# Settings

What a deployment chooses: the server, if there is one, the pause between two
sweeps, and the size of a mailbox. The text of the settings does not show the
password.
-/

namespace SharedState

open SharedState.Text

/-- How to reach the server. -/
structure ServerSettings where
  /-- `host:port` or a URL. -/
  address : String
  /-- The password, if there is one; a URL brings its own. -/
  password : Option String
  /-- The database; a URL brings its own. -/
  db : Int
  timeout : Duration
deriving DecidableEq

/-- What a deployment chooses. -/
structure Settings where
  /-- The server; none selects the in-process engine. -/
  server : Option ServerSettings
  reclaimInterval : Duration
  mailboxCapacity : Nat
deriving DecidableEq

namespace ServerSettings

/-- The limit of a call if none is chosen. -/
def defaultTimeout : Duration := Duration.ofMillis 2000

/-- A server at an address, with nothing else chosen. -/
def ofAddress (address : String) : ServerSettings where
  address := address
  password := none
  db := 0
  timeout := defaultTimeout

/-- The endpoint. A URL is taken as it is; with any other address the
password and the database are the chosen ones. -/
def endpoint (server : ServerSettings) : Except RemoteError Endpoint :=
  if Address.Url.looksLike server.address then Address.Url.endpoint server.address
  else
    match Address.parse? server.address with
    | none => .error Address.invalid
    | some (host, port) =>
        .ok
          { host
            port
            db := server.db
            username := none
            password := server.password
            protocol := .resp2 }

/-- The server settings in words. -/
def describe (server : ServerSettings) : String :=
  Record.render "RedisConfig"
    [("addr", Quoted.quote server.address),
      ("password", Record.optional (server.password.map fun _ => Quoted.quote "***")),
      ("db", Decimal.ofInt server.db),
      ("command_timeout", Elapsed.render server.timeout)]

end ServerSettings

namespace Settings

/-- The pause between two sweeps if none is chosen. -/
def defaultReclaimSeconds : Nat := 30

/-- The size of a mailbox if none is chosen. -/
def defaultMailboxCapacity : Nat := 100

/-- The settings if nothing is chosen. -/
def default : Settings where
  server := none
  reclaimInterval := Duration.ofSeconds defaultReclaimSeconds
  mailboxCapacity := defaultMailboxCapacity

/-- The size of a mailbox that is used: at least one message fits. -/
def effectiveMailboxCapacity (settings : Settings) : Nat := max 1 settings.mailboxCapacity

/-- The settings in words. -/
def describe (settings : Settings) : String :=
  Record.render "CacheConfig"
    [("redis", Record.optional (settings.server.map ServerSettings.describe)),
      ("reclaim_interval", Elapsed.render settings.reclaimInterval),
      ("mailbox_capacity", Decimal.ofNat settings.mailboxCapacity)]

end Settings

end SharedState
