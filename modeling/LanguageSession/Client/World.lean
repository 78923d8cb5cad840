import LanguageSession.Client.Step
import LanguageSession.Documents
import LanguageSession.Events.Basic
import LanguageSession.Registry.Basic
import LanguageSession.Run
import LanguageSession.Settings

/-!
The state of a client and of everything around it: the session with one server, who
listens, the callbacks, the server processes made so far, and the journal.
-/

namespace LanguageSession

namespace Client

/-- The life of a session. -/
inductive Phase where
  | notStarted
  | starting
  | ready
  | shuttingDown
  | stopped
  deriving DecidableEq, Repr

def Phase.name : Phase → Text
  | .notStarted => "not_started"
  | .starting => "starting"
  | .ready => "ready"
  | .shuttingDown => "shutting_down"
  | .stopped => "stopped"

/-- Who waits for the response to a request. -/
inductive Handler where
  /-- The session itself waits for the response to `initialize`. -/
  | handshake
  /-- A caller waits and finds the completion in a mailbox. -/
  | mailbox (slot : Nat)
  | callback (who : Nat)
  deriving DecidableEq, Repr

inductive Listener where
  | callback (who : Nat)
  /-- Shows the output of the server on the terminal. -/
  | echo
  /-- Keeps the latest diagnostics of every document. -/
  | collect
  deriving DecidableEq, Repr

structure Session where
  phase : Phase := .notStarted
  ready : Bool := false
  root : Text := []
  nextId : Nat := 1
  /-- The id of the `initialize` request, while its response is awaited. -/
  handshakeId : Option Nat := none
  /-- The number of the current server process. -/
  server : Option Nat := none
  stopping : Bool := false
  abortRequested : Bool := false
  /-- Output of the server that is not a whole frame yet. -/
  buffer : Bytes := []
  pending : Registry Handler := {}
  documents : Documents := {}

structure World where
  settings : Settings := {}
  session : Session := {}
  subscriptions : Subscriptions Listener := {}
  /-- Under which name each listener can be unsubscribed, the newest first. -/
  handles : List (Text × Channel × Listener) := []
  cast : Cast Step := {}
  servers : List Server := []
  /-- How the servers made from now on behave. -/
  factory : Conduct := {}
  /-- Completions that arrived for callers who wait, and the next free slot. -/
  mail : List (Nat × Completion) := []
  nextSlot : Nat := 0
  /-- The latest diagnostics of every document, in the order of first publication. -/
  collected : List (Text × List Json) := []
  journal : Journal := {}

instance : KeepsJournal World where
  journal := World.journal
  setJournal journal world := { world with journal := journal }

instance : MonadStateOf Session (Act World) :=
  zoom World.session fun session world => { world with session := session }

instance : MonadStateOf (Registry Handler) (Act World) :=
  zoom (fun world => world.session.pending) fun pending world =>
    { world with session := { world.session with pending := pending } }

instance : MonadStateOf (Subscriptions Listener) (Act World) :=
  zoom World.subscriptions fun subscriptions world => { world with subscriptions := subscriptions }

instance : MonadStateOf (Cast Step) (Act World) :=
  zoom World.cast fun cast world => { world with cast := cast }

namespace World

def server? (world : World) (server : Nat) : Option Server := world.servers[server]?

def modifyServer (server : Nat) (change : Server → Server) (world : World) : World :=
  { world with servers := world.servers.modify server change }

def isRunning (world : World) (server : Nat) : Bool := (world.server? server).any Server.running

def serverRuns (world : World) : Bool := world.session.server.any world.isRunning

end World

end Client

end LanguageSession
