import SharedState.Text.Elapsed

/-!
# Faults

What can go wrong with a call: what was asked for is not there, the server
cannot be reached, the server or the client refuses the call, or no answer
comes in time. The first is an expected outcome; the in-process engine knows
no other.
-/

namespace SharedState

open SharedState.Text

/-- The kinds of errors that a client of the server reports. -/
inductive ErrorKind where
  | responseError | authenticationFailed | typeError | execAbortError | busyLoadingError
  | noScriptError | invalidClientConfig | moved | ask | tryAgain | clusterDown | crossSlot
  | masterDown | ioError | clientError | extensionError | readOnly
  | masterNameNotFoundBySentinel | noValidReplicasFoundBySentinel | emptySentinelList | notBusy
  | clusterConnectionNotFound | parseError | noSub | resp3NotSupported | serializationError
deriving DecidableEq, Inhabited

namespace ErrorKind

/-- All kinds. -/
def all : List ErrorKind :=
  [responseError, authenticationFailed, typeError, execAbortError, busyLoadingError,
    noScriptError, invalidClientConfig, moved, ask, tryAgain, clusterDown, crossSlot,
    masterDown, ioError, clientError, extensionError, readOnly, masterNameNotFoundBySentinel,
    noValidReplicasFoundBySentinel, emptySentinelList, notBusy, clusterConnectionNotFound,
    parseError, noSub, resp3NotSupported, serializationError]

/-- The name under which a kind is reported. -/
def name : ErrorKind → String
  | responseError => "ResponseError"
  | authenticationFailed => "AuthenticationFailed"
  | typeError => "TypeError"
  | execAbortError => "ExecAbortError"
  | busyLoadingError => "BusyLoadingError"
  | noScriptError => "NoScriptError"
  | invalidClientConfig => "InvalidClientConfig"
  | moved => "Moved"
  | ask => "Ask"
  | tryAgain => "TryAgain"
  | clusterDown => "ClusterDown"
  | crossSlot => "CrossSlot"
  | masterDown => "MasterDown"
  | ioError => "IoError"
  | clientError => "ClientError"
  | extensionError => "ExtensionError"
  | readOnly => "ReadOnly"
  | masterNameNotFoundBySentinel => "MasterNameNotFoundBySentinel"
  | noValidReplicasFoundBySentinel => "NoValidReplicasFoundBySentinel"
  | emptySentinelList => "EmptySentinelList"
  | notBusy => "NotBusy"
  | clusterConnectionNotFound => "ClusterConnectionNotFound"
  | parseError => "ParseError"
  | noSub => "NoSub"
  | resp3NotSupported => "RESP3NotSupported"
  | serializationError => "Serialize"

/-- The kind with a name. -/
def ofName? (name : String) : Option ErrorKind := all.find? fun kind => kind.name = name

end ErrorKind

/-- The kinds of faults of a socket, as far as they are told apart. -/
inductive SocketFault where
  | connectionRefused | notFound | timedOut | wouldBlock | brokenPipe | connectionReset
  | unexpectedEof | other
deriving DecidableEq, Inhabited

/-- Whether a fault of a socket means that there is no connection. -/
def SocketFault.breaksConnection : SocketFault → Bool
  | .other => false
  | _ => true

/-- An error that the client of the server reports. -/
inductive RemoteError where
  /-- An error of a known kind with a description and perhaps a detail. -/
  | described (kind : ErrorKind) (description : String) (detail : Option String)
  /-- An error whose code only the server knows. -/
  | extension (code detail : String)
  | socket (fault : SocketFault) (text : String)
deriving DecidableEq, Inhabited

namespace RemoteError

/-- The kind of an error. -/
def kind : RemoteError → ErrorKind
  | described kind _ _ => kind
  | extension _ _ => .extensionError
  | socket _ _ => .ioError

/-- An error in words. -/
def message : RemoteError → String
  | described kind description none => description ++ "- " ++ kind.name
  | described kind description (some detail) =>
      description ++ " - " ++ kind.name ++ ": " ++ detail
  | extension code detail => code ++ ": " ++ detail
  | socket _ text => text

/-- Whether there is no connection, or no longer. -/
def breaksConnection : RemoteError → Bool
  | socket fault _ => fault.breaksConnection
  | _ => false

end RemoteError

/-- Why a call gave no answer. -/
inductive Fault where
  /-- The key, field or member is not there. -/
  | missing
  /-- The server cannot be reached, or the connection broke. -/
  | connection (error : RemoteError)
  | command (error : RemoteError)
  /-- No answer came within the limit. -/
  | timedOut (limit : Duration)
deriving DecidableEq, Inhabited

namespace Fault

/-- The fault that an error of the client amounts to. -/
def ofRemote (error : RemoteError) : Fault :=
  if error.breaksConnection then connection error else command error

/-- The name under which a fault is reported. -/
def name : Fault → String
  | missing => "NotFound"
  | connection _ => "Connection"
  | command _ => "Command"
  | timedOut _ => "TimedOut"

/-- A fault in words. -/
def message : Fault → String
  | missing => "key not found"
  | connection error => "backend connection failed: " ++ error.message
  | command error => "backend command failed: " ++ error.message
  | timedOut limit => "backend call timed out after " ++ Elapsed.render limit

/-- Whether what was asked for is not there. -/
def isMissing : Fault → Bool
  | missing => true
  | _ => false

/-- The error behind a fault. -/
def source? : Fault → Option RemoteError
  | connection error => some error
  | command error => some error
  | _ => none

/-- A fault as text that shows how it is built up. -/
def describe : Fault → String
  | missing => "NotFound"
  | connection error => "Transport(Connection(" ++ error.message ++ "))"
  | command error => "Transport(Command(" ++ error.message ++ "))"
  | timedOut limit => "Transport(TimedOut(" ++ Elapsed.render limit ++ "))"

end Fault

end SharedState
