import SharedState.Address
import SharedState.Address.Ipv6
import SharedState.Text.Blank
import SharedState.Text.Percent

/-!
# Server URLs

A URL names the host, and it may name a user, a password, a port, the
database as its path and the protocol in its query. Reading it has two
stages: the text is taken apart by the general rules for URLs whose scheme
has no rules of its own, and then the parts are given their meaning.
-/

namespace SharedState.Address.Url

open SharedState.Text

/-- A URL that was taken apart; nothing but the host is decoded. -/
structure Parts where
  /-- Whether the connection is to be encrypted. -/
  encrypted : Bool
  username : List Char
  password : Option (List Char)
  /-- The host; empty if there is none. -/
  host : String
  port : Option Nat
  /-- The segments of the path that are left. -/
  path : List (List Char)
  query : List Char
deriving DecidableEq

/-! ## Taking a URL apart -/

/-- Whether a letter ends the part that names user, host and port. -/
def endsAuthority (letter : Char) : Bool := letter = '/' || letter = '?' || letter = '#'

/-- Whether a letter ends the path. -/
def endsPath (letter : Char) : Bool := letter = '?' || letter = '#'

/-- Drops controls and spaces at both ends, and tabs and line ends everywhere. -/
def clean (letters : List Char) : List Char :=
  (Blank.strip (fun letter => letter ≤ ' ') letters).filter fun letter =>
    letter ≠ '\t' && letter ≠ '\n' && letter ≠ '\r'

/-- The user and the password before an at sign. An empty password is none. -/
def credentials (letters : List Char) : List Char × Option (List Char) :=
  match splitFirst ':' letters with
  | none => (letters, none)
  | some (user, []) => (user, none)
  | some (user, password) => (user, some password)

/-- Splits off the host: it goes up to a colon outside of brackets. -/
def spanHost (bracketed : Bool) : List Char → List Char × List Char
  | [] => ([], [])
  | letter :: rest =>
      if letter = ':' && !bracketed then ([], letter :: rest)
      else
        let inside := if letter = '[' then true else if letter = ']' then false else bracketed
        let (host, remaining) := spanHost inside rest
        (letter :: host, remaining)

/-- Letters that no host may hold. -/
def forbidden : List Char :=
  ['\x00', '\t', '\n', '\r', ' ', '#', '/', ':', '<', '>', '?', '@', '[', '\\', ']', '^', '|']

/-- The host: an address in brackets, or a name whose letters outside of
printable ASCII are escaped. -/
def host? (letters : List Char) : Option String :=
  match letters with
  | '[' :: rest =>
      match rest.reverse with
      | ']' :: inner => (Ipv6.parse? inner.reverse).map Ipv6.render
      | _ => none
  | _ =>
      if letters.any forbidden.contains then none
      else
        let plain := fun letter : Char => 0x20 ≤ letter.toNat && letter.toNat < 0x7F
        some (String.ofList (Percent.encode plain letters))

/-- The port behind a host, and what follows it. A port of no digits is none. -/
def port? (letters : List Char) : Option (Option Nat × List Char) :=
  match letters with
  | ':' :: rest =>
      let (digits, following) := rest.span fun letter => (Decimal.digit? letter).isSome
      if following.isEmpty || following.head? = some '\\' then
        if digits.isEmpty then some (none, following)
        else (Address.port? digits).map fun port => (some port, following)
      else none
  | _ => some (none, letters)

/-- Replaces the two escapes of a full stop. -/
def plainStops : List Char → List Char
  | '%' :: '2' :: 'e' :: rest => '.' :: plainStops rest
  | '%' :: '2' :: 'E' :: rest => '.' :: plainStops rest
  | letter :: rest => letter :: plainStops rest
  | [] => []

/-- Whether a segment names a drive, alone or with a backslash behind it; such
a segment is never left. -/
def isDrive : List Char → Bool
  | letter :: mark :: rest =>
      letter.isAlpha && (mark = ':' || mark = '|') && (rest.isEmpty || rest.head? = some '\\')
  | _ => false

/-- Walks along the segments of a path: one stop stays, two go back.
The segments walked so far come last first. -/
def walk : List (List Char) → List (List Char) → List (List Char)
  | walked, [] => walked.reverse
  | walked, segment :: rest =>
      let plain := plainStops segment
      if plain = ['.', '.'] then
        match walked with
        | last :: earlier => walk (if isDrive last then walked else earlier) rest
        | [] => walk [] rest
      else if plain = ['.'] then walk walked rest
      else walk (segment :: walked) rest

/-- The segments of a path. -/
def segments (letters : List Char) : List (List Char) :=
  match letters with
  | [] => []
  | '/' :: rest => walk [] (rest.splitOn '/')
  | _ => walk [] (letters.splitOn '/')

/-- The query in what follows a path. -/
def query (letters : List Char) : List Char :=
  match letters with
  | '?' :: rest => rest.takeWhile (· ≠ '#')
  | _ => []

/-- Takes apart what follows the scheme. -/
def split? (encrypted : Bool) (letters : List Char) : Option Parts := do
  let (authority, tail) := letters.span fun letter => !endsAuthority letter
  let (info, address) := (splitLast '@' authority).getD ([], authority)
  let (username, password) := credentials info
  let (hostLetters, portLetters) := spanHost false address
  let host ← host? hostLetters
  let (port, following) ← port? portLetters
  let dangling := authority.head? = some '@' && info.isEmpty && address.isEmpty && !tail.isEmpty
  let named := !username.isEmpty || password.isSome
  if hostLetters.isEmpty && (dangling || named || portLetters.head? = some ':') then none
  else
    let (path, rest) := (following ++ tail).span fun letter => !endsPath letter
    some
      { encrypted
        username
        password
        host
        port
        path := segments path
        query := query rest }

/-- Takes a URL apart; none if it is not one, or not one for a server. -/
def parts? (address : String) : Option Parts :=
  match clean address.toList with
  | 'r' :: 'e' :: 'd' :: 'i' :: 's' :: ':' :: '/' :: '/' :: rest => split? false rest
  | 'r' :: 'e' :: 'd' :: 'i' :: 's' :: 's' :: ':' :: '/' :: '/' :: rest => split? true rest
  | _ => none

/-! ## What the parts mean -/

/-- The database that a path names; none at all is the first. -/
def db? (path : List (List Char)) : Option Int :=
  match Blank.strip (· = '/') (List.intercalate ['/'] path) with
  | [] => some 0
  | letters => Decimal.integer? (String.ofList letters)

/-- The text behind escapes, if it is one. -/
def decoded? (letters : List Char) : Option String :=
  Utf8.decode? (Percent.decode (Utf8.encode (String.ofList letters)))

/-- A name or a value in a query: a plus sign stands for a space. -/
def formText (letters : List Char) : String :=
  let spaced := letters.map fun letter => if letter = '+' then ' ' else letter
  Utf8.decodeLossy (Percent.decode (Utf8.encode (String.ofList spaced)))

/-- The names and values of a query. -/
def formPairs (query : List Char) : List (String × String) :=
  ((query.splitOn '&').filter (!·.isEmpty)).map fun part =>
    let (name, value) := (splitFirst '=' part).getD (part, [])
    (formText name, formText value)

/-- The value that was given last to a name. -/
def lastValue? (name : String) (pairs : List (String × String)) : Option String :=
  (pairs.reverse.find? fun pair => pair.1 = name).map Prod.snd

/-- The protocol that a query asks for. -/
def protocol (query : List Char) : Except RemoteError Protocol :=
  match lastValue? "protocol" (formPairs query) with
  | none => .ok .resp2
  | some value =>
      if value = "2" ∨ value = "resp2" then .ok .resp2
      else if value = "3" ∨ value = "resp3" then .ok .resp3
      else .error (.described .invalidClientConfig "Invalid protocol version" (some value))

/-- Insists on a value. -/
def require {Value : Type} (value : Option Value) (reason : String) : Except RemoteError Value :=
  match value with
  | some value => .ok value
  | none => .error (refuse reason)

/-- The text behind an optional part. -/
def optionalText (letters : Option (List Char)) (reason : String) :
    Except RemoteError (Option String) :=
  match letters with
  | none => .ok none
  | some letters => (require (decoded? letters) reason).map some

/-- The endpoint that a URL names. -/
def endpoint (address : String) : Except RemoteError Endpoint := do
  let parts ← require (parts? address) "Redis URL did not parse"
  if parts.host.isEmpty then throw (refuse "Missing hostname")
  if parts.encrypted then throw (refuse "can\x27t connect with TLS, the feature is not enabled")
  let db ← require (db? parts.path) "Invalid database number"
  let username := if parts.username.isEmpty then none else some parts.username
  let username ← optionalText username "Username is not valid UTF-8 string"
  let password ← optionalText parts.password "Password is not valid UTF-8 string"
  let protocol ← protocol parts.query
  return {
    host := parts.host
    port := parts.port.getD Endpoint.defaultPort
    db
    username
    password
    protocol }

/-- Whether an address is meant to be a URL. -/
def looksLike (address : String) : Bool :=
  "redis://".toList.isPrefixOf address.toList || "rediss://".toList.isPrefixOf address.toList

end SharedState.Address.Url
