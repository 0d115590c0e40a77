/-!
# Endpoints

Where a server is and how to introduce oneself to it.
-/

namespace SharedState

/-- The version of the protocol that is spoken. -/
inductive Protocol where
  | resp2
  | resp3
deriving DecidableEq, Inhabited

/-- The name of a version. -/
def Protocol.name : Protocol → String
  | .resp2 => "RESP2"
  | .resp3 => "RESP3"

/-- Everything that is needed to connect. -/
structure Endpoint where
  host : String
  port : Nat
  db : Int
  username : Option String
  password : Option String
  protocol : Protocol
deriving DecidableEq, Inhabited

/-- The port of a server that names none. -/
def Endpoint.defaultPort : Nat := 6379

end SharedState
