import LanguageSession.Callback
import LanguageSession.Server

/-!
Steps of a scenario: what the user of a client calls, what a server process does, and
how processes are made to behave.  Listeners and handlers are scripted and may
perform steps themselves.
-/

namespace LanguageSession

namespace Client

inductive Step where
  | start (command : Text) (arguments : List Text) (root : Option Text)
  | stop
  /-- Waits until a session that is starting is ready. -/
  | waitReady (timeout : Option Duration)
  | version (uri : Text)
  | request (method : Text) (params : Json) (handler : Option (Callback Step))
  /-- Sends a request and waits for its response, for the configured time if none is given. -/
  | requestSync (method : Text) (params : Json) (timeout : Option Duration)
  | didOpen (uri language : Text) (text : Json)
  | didChange (uri : Text) (text : Json)
  | didClose (uri : Text)
  | subscribe (channel : Channel) (listener : Callback Step)
  | unsubscribe (name : Text)
  /-- A server writes a message; the newest server, if none is named. -/
  | send (server : Option Nat) (message : Json)
  /-- A server writes bytes. -/
  | raw (server : Option Nat) (data : Bytes)
  /-- A server writes a line to its error output. -/
  | stderr (server : Option Nat) (text : Text)
  /-- A server ends and its end is reported. -/
  | exit (server : Option Nat) (code : Option Int)
  /-- The end of a server is reported, whether it has ended or not. -/
  | onExit (server : Option Nat) (code : Option Int)
  | set (server : Option Nat) (running : Option Bool) (change : Conduct → Conduct)
  /-- Changes the conduct of the servers that are made later. -/
  | setFactory (change : Conduct → Conduct)

def Step.operation : Step → Text
  | .start _ _ _ => "start"
  | .stop => "stop"
  | .waitReady _ => "wait_ready"
  | .version _ => "version"
  | .request _ _ _ => "request"
  | .requestSync _ _ _ => "request_sync"
  | .didOpen _ _ _ => "did_open"
  | .didChange _ _ => "did_change"
  | .didClose _ => "did_close"
  | .subscribe _ _ => "subscribe"
  | .unsubscribe _ => "unsubscribe"
  | .send _ _ => "send"
  | .raw _ _ => "raw"
  | .stderr _ _ => "stderr"
  | .exit _ _ => "exit"
  | .onExit _ _ => "on_exit"
  | .set _ _ _ => "set"
  | .setFactory _ => "set_factory"

mutual

/-- How many steps there are, those in the scripts of callbacks included. -/
def Step.weight : Step → Nat
  | .request _ _ (some ⟨_, _, script, _, _⟩) => scriptWeight script + 1
  | .subscribe _ ⟨_, _, script, _, _⟩ => scriptWeight script + 1
  | _ => 1

def scriptWeight : List Step → Nat
  | [] => 0
  | step :: rest => step.weight + scriptWeight rest

end

end Client

end LanguageSession
