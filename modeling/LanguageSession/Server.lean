import LanguageSession.Text.Utf8
import LanguageSession.Json.Basic

/-!
Server processes as a session sees them.  How a process behaves is its conduct:
whether it starts, which writes it refuses, what it replies and how it ends.  The
conduct may depend on the message written and on how many writes came before it.
-/

namespace LanguageSession

structure Conduct where
  pid : Int := 0
  /-- Why the process does not start. -/
  refusesStart : Option Text := none
  /-- Why a write fails; writes are counted from zero. -/
  refusesWrite : Nat → Option Text := fun _ => none
  /-- The process ends when it is given this message. -/
  diesOn : Json → Bool := fun _ => false
  /-- The process has ended of itself by the time of a look at it; looks are counted from zero. -/
  endsBefore : Nat → Option Int := fun _ => none
  /-- Output that arrives while the message is still being written. -/
  replies : Json → List Bytes := fun _ => []
  /-- The process ends after an `exit` notification, when it is waited for. -/
  obeysExit : Bool := true
  survivesKill : Bool := false
  /-- Why closing the process fails. -/
  refusesClose : Option Text := none

structure Server where
  argv : List Text
  conduct : Conduct
  running : Bool := false
  code : Option Int := none
  /-- An `exit` notification was written. -/
  exitWritten : Bool := false
  /-- How many writes were tried. -/
  writes : Nat := 0
  /-- How often the process was looked at. -/
  looks : Nat := 0

namespace Server

def finish (server : Server) (code : Int) : Server :=
  { server with running := false, code := some code }

/-- What the process is when it is looked at. -/
def look (server : Server) : Server :=
  match server.running, server.conduct.endsBefore server.looks with
  | true, some code => { server.finish code with looks := server.looks + 1 }
  | _, _ => { server with looks := server.looks + 1 }

/-- What the process is after a message was written to it. -/
def accept (server : Server) (message : Json) : Server :=
  match message.member "method" with
  | .string method =>
    let server := { server with exitWritten := server.exitWritten || method = "exit" }
    if server.conduct.diesOn message then server.finish 1 else server
  | _ => server

def settle (server : Server) : Server :=
  if server.conduct.obeysExit && server.exitWritten && server.running then server.finish 0
  else server

def kill (server : Server) : Server :=
  if server.conduct.survivesKill then server else server.finish (-9)

end Server

end LanguageSession
