import LanguageSession.Message

/-!
Log records.  A record has a level, the component that wrote it, a message and
further fields in a fixed order.  The records of a session are made here and nowhere
else, so their wording can be read in one place.
-/

namespace LanguageSession

namespace Log

inductive Level where
  | debug
  | info
  | warning
  | error
  | critical
  deriving DecidableEq, Repr

def Level.name : Level → Text
  | .debug => "DEBUG"
  | .info => "INFO"
  | .warning => "WARNING"
  | .error => "ERROR"
  | .critical => "CRITICAL"

/-- Levels are compared by their rank. -/
def Level.rank : Level → Nat
  | .debug => 10
  | .info => 20
  | .warning => 30
  | .error => 40
  | .critical => 50

structure Record where
  level : Level
  component : Text
  message : Text
  fields : List (Text × Json) := []
  deriving Repr

/-- A number that may be missing. -/
def optional : Option Int → Json
  | none => .null
  | some n => .integer n

/-- A root that is missing or empty is shown as a hyphen. -/
def spawning (argv : List Text) (root : Option Text) : Record where
  level := .info
  component := "PROCESS"
  message :=
    let place : Text := if (root.getD []).isEmpty then "-" else root.getD []
    "Spawning: " ++ Text.join " " argv ++ " (root " ++ place ++ ")"
  fields := [("argv", .array (argv.map .string)), ("root_uri", (root.map Json.string).getD .null)]

def exited (pid code : Option Int) : Record where
  level := .info
  component := "PROCESS"
  message := "Exited: pid=" ++ (optional pid).display ++ " code=" ++ (optional code).display
  fields := [("pid", optional pid), ("returncode", optional code)]

def stateChange (old new : Text) : Record where
  level := .debug
  component := "CLIENT"
  message := "State: " ++ old ++ " -> " ++ new
  fields := [("old_state", .string old), ("new_state", .string new)]

def messageOut (message : Json) (size : Int) : Record where
  level := .debug
  component := "WIRE"
  message := "--> " ++ Message.describe message ++ " (" ++ Text.ofInt size ++ " bytes)"
  fields := [("direction", .literal "out"), ("size", .integer size)]

def messageIn (message : Json) : Record where
  level := .debug
  component := "WIRE"
  message := "<-- " ++ Message.describe message
  fields := [("direction", .literal "in")]

/-- What the listeners of log events are told is recorded under `SESSION`. -/
def sessionEvent (text : Text) : Record where
  level := .info
  component := "SESSION"
  message := text

def failure (component message : Text) : Record where
  level := .error
  component := component
  message := "ERROR: " ++ message
  fields := [("error", .string message)]

/-- A failure with an error behind it, which is named on a line of its own. -/
def failureBecause (component message kind reason : Text) : Record where
  level := .error
  component := component
  message :=
    let cause : Text := if reason.isEmpty then kind else kind ++ ": " ++ reason
    "ERROR: " ++ message ++ "\n" ++ cause ++ "\n"
  fields := [("error", .string reason)]

def warning (component message : Text) : Record where
  level := .warning
  component := component
  message := "WARNING: " ++ message

/-- A record of one of the parts of a session, without further fields. -/
def note (level : Level) (component message : Text) : Record where
  level := level
  component := component
  message := message

def unsupportedRequest (method : Json) : Record :=
  note .debug "RPC" ("Unsupported server request: " ++ method.display)

def untrackedResponse (id : Json) : Record :=
  note .debug "RPC" ("Discarding response for untracked request " ++ id.inspect)

def handlerFailed (id : Json) : Record :=
  note .error "RPC" ("Response handler for request " ++ id.inspect ++ " failed")

def listenerFailed (listener : Text) : Record :=
  note .error "EVENTS" ("Event listener " ++ listener ++ " failed")

def serverExited (code : Option Int) : Record :=
  note .debug "CLIENT" ("LSP server exited with code " ++ (optional code).display)

def ignoredMessage (message : Json) : Record :=
  note .debug "CLIENT" ("Ignoring message without method or id: " ++ message.inspect)

def malformedPayload (size : Nat) (reason : Text) : Record :=
  note .debug "FRAMER" ("Dropping malformed payload (" ++ Text.ofNat size ++ " bytes): " ++ reason)

def notAnObject (payload : Json) : Record :=
  note .debug "FRAMER" ("Dropping non-object payload: " ++ payload.kindName)

/-- Output between messages when nobody listens for it. -/
def strayOutput (text : Text) : Record := note .info "FRAMER" text

end Log

end LanguageSession
