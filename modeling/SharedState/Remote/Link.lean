import SharedState.Remote.Setup

/-!
# The link to a server

One connection is shared by all calls. It is tried up to seven times, with
pauses in between, and a caller waits for it no longer than the limit of a
call. A connection that is lost is set up again at once. While it is down it is
tried again whenever a pause is over, whether anybody waits for it or not.
-/

namespace SharedState.Remote

/-- Where a server is, and what it is going to say to newcomers. -/
structure Server where
  endpoint : Endpoint
  /-- Whether anyone listens there. -/
  reachable : Bool
  /-- The replies to the commands that set connections up; good ones follow. -/
  script : List Reply

namespace Server

/-- A connection that nobody accepts. -/
def refused : RemoteError := .socket .connectionRefused "Connection refused (os error 111)"

/-- Tries to connect. -/
def attempt (server : Server) : Setup.Attempt :=
  if server.reachable then Setup.attempt server.endpoint server.script
  else ⟨some refused, [], server.script⟩

end Server

/-- The state of the link. -/
inductive Link where
  | up
  /-- It is tried again after each of these pauses; the last try failed as it did. -/
  | waiting (pauses : List Duration) (error : RemoteError)

namespace Link

/-- The pauses between tries. -/
def pauses : List Duration := [1, 60, 60, 60, 60, 60].map Duration.ofSeconds

/-- What became of the link. -/
structure Course where
  sent : List Command
  link : Link
  server : Server

/-- Tries once; these pauses are left if that fails. -/
def retry (server : Server) (pauses : List Duration) : Course :=
  let attempt := server.attempt
  let server := { server with script := attempt.script }
  match attempt.failure with
  | none => ⟨attempt.sent, up, server⟩
  | some error => ⟨attempt.sent, waiting pauses error, server⟩

/-- What came of waiting for the link. -/
structure Raised extends Course where
  /-- Why the link is not up, unless it is. -/
  failure : Option Fault

/-- Waits for the link for the rest of a limit, and tries whenever a pause is
over before it. -/
def raise (limit rest : Duration) (server : Server) (error : RemoteError) :
    List Duration → Raised
  | [] => ⟨⟨[], waiting [] error, server⟩, some (.ofRemote error)⟩
  | pause :: later =>
      if pause < rest then
        let course := retry server later
        match course.link with
        | up => ⟨course, none⟩
        | waiting _ error =>
            let further := raise limit (rest - pause) course.server error later
            { further with sent := course.sent ++ further.sent }
      else ⟨⟨[], waiting ((pause - rest) :: later) error, server⟩, some (.timedOut limit)⟩

/-- Waits for the link no longer than a limit. -/
def await (limit : Duration) (server : Server) : Link → Raised
  | up => ⟨⟨[], up, server⟩, none⟩
  | waiting pauses error => raise limit limit server error pauses

/-- Sets the link up for the first time. -/
def connect (limit : Duration) (server : Server) : Raised :=
  raise limit limit server Server.refused (0 :: pauses)

/-- Sets a lost link up again; the first try is made at once. -/
def reconnect (server : Server) : Course := retry server pauses

/-- Lets time pass while nobody waits for the link. However much passes at
once, it is tried at most once, and the next pause begins then. -/
def elapse (time : Duration) (server : Server) : Link → Course
  | up => ⟨[], up, server⟩
  | waiting [] error => ⟨[], waiting [] error, server⟩
  | waiting (pause :: later) error =>
      if pause ≤ time then retry server later
      else ⟨[], waiting ((pause - time) :: later) error, server⟩

end Link

end SharedState.Remote
