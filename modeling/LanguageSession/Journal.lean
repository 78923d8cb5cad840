import LanguageSession.Duration
import LanguageSession.Fault
import LanguageSession.Log.Record
import LanguageSession.Terminal.Output

/-!
The journal of a run: everything that can be observed from outside, in the order in
which it happens.  Code that writes to a journal works in any monad that has one.
-/

namespace LanguageSession

inductive Channel where
  | ready
  | log
  | diagnostics
  deriving DecidableEq, Repr

def Channel.name : Channel → Text
  | .ready => "ready"
  | .log => "log"
  | .diagnostics => "diagnostics"

/-- What the listeners of a session are told. -/
inductive Event where
  | ready (value : Bool)
  | log (text : Text)
  | diagnostics (uri : Text) (items : List Json)
  deriving Repr

def Event.channel : Event → Channel
  | .ready _ => .ready
  | .log _ => .log
  | .diagnostics _ _ => .diagnostics

inductive Entry where
  | logged (record : Log.Record)
  /-- The listeners of an event are about to be told. -/
  | emitted (event : Event)
  /-- A scripted callback was called. -/
  | called (callback : Nat) (kind name : Text) (arguments : List Json)
  | doing (operation : Text)
  | did (operation : Text) (result : Json)
  | spawned (server : Nat) (argv : List Text) (timeout : Duration)
  | wrote (server : Nat) (message : Json) (data : Bytes)
  | writeRefused (server : Nat) (message : Json)
  /-- A server process was looked at. -/
  | looked (server : Nat) (running : Bool)
  | waited (server : Nat) (timeout : Duration)
  | killed (server : Nat)
  | closed (server : Nat)
  | shown (output : Terminal.Output)
  /-- The session has another server now, or none. -/
  | serving (server : Option Nat)
  /-- The session with a server begins to end. -/
  | ending (server : Nat)
  /-- Output of a server arrives. -/
  | arrived (server : Nat) (data : Bytes)
  /-- A message from a server is about to be handled. -/
  | handling (server : Nat) (message : Json)
  /-- A callback waits for the response to a request to this server. -/
  | awaiting (callback id : Nat) (server : Option Nat)
  /-- A request with this callback has returned its id, or none. -/
  | requested (callback : Nat) (id : Option Nat)
  /-- All who wait for a response are forgotten. -/
  | dropped
  deriving Repr

/-- Monads that keep a journal. -/
class Journaling (m : Type → Type) where
  write : Entry → m Unit

export Journaling (write)

section

variable {m : Type → Type} [Monad m] [Journaling m] [MonadExceptOf Fault m]

def record (entry : Log.Record) : m Unit := write (.logged entry)

def contain (action : m Unit) (report : m Unit) : m Unit :=
  tryCatch action fun _ => report

end

end LanguageSession
