import LanguageSession.Journal

/-!
Events and who listens to them.  Each channel has a list of listeners in the order
of subscription, and a listener that subscribed twice stands in it twice.
-/

namespace LanguageSession

/-- What a listener of an event is given. -/
def Event.arguments : Event → List Json
  | .ready value => [.bool value]
  | .log text => [.string text]
  | .diagnostics uri items => [.string uri, .array items]

/-- The event that a notification of the server stands for, if any. -/
def Event.ofNotification? (message : Json) : Option Event :=
  let params := message.member "params"
  match message.member "method" with
  | .string method =>
    if method = "textDocument/publishDiagnostics" then
      some (.diagnostics ((params.member "uri").text?.getD [])
        ((params.member "diagnostics").array?.getD []))
    else if method = "window/logMessage" || method = "window/showMessage" then
      some (.log ((params.member "message").text?.getD []))
    else none
  | _ => none

/-- The listeners of every channel. -/
structure Subscriptions (Listener : Type) where
  ready : List Listener := []
  log : List Listener := []
  diagnostics : List Listener := []

namespace Subscriptions

variable {Listener : Type}

def on (subscriptions : Subscriptions Listener) : Channel → List Listener
  | .ready => subscriptions.ready
  | .log => subscriptions.log
  | .diagnostics => subscriptions.diagnostics

def modify (subscriptions : Subscriptions Listener) (channel : Channel)
    (change : List Listener → List Listener) : Subscriptions Listener :=
  match channel with
  | .ready => { subscriptions with ready := change subscriptions.ready }
  | .log => { subscriptions with log := change subscriptions.log }
  | .diagnostics => { subscriptions with diagnostics := change subscriptions.diagnostics }

def subscribe (subscriptions : Subscriptions Listener) (channel : Channel) (listener : Listener) :
    Subscriptions Listener :=
  subscriptions.modify channel fun listeners => listeners ++ [listener]

/-- Removes the oldest subscription of a listener; without one nothing changes. -/
def unsubscribe [BEq Listener] (subscriptions : Subscriptions Listener) (channel : Channel)
    (listener : Listener) : Subscriptions Listener :=
  subscriptions.modify channel fun listeners => listeners.erase listener

section

variable {m : Type → Type} [Monad m] [Journaling m] [MonadExceptOf Fault m]
variable [MonadStateOf (Subscriptions Listener) m]

/--
Tells an event to everyone who listens when it happens.  The failure of a listener
is noted and the others are still told.
-/
def emit (call : Listener → Event → m Unit) (label : Listener → m Text) (event : Event) :
    m Unit := do
  let subscriptions ← getThe (Subscriptions Listener)
  write (.emitted event)
  (subscriptions.on event.channel).forM fun listener =>
    contain (call listener event) do record (Log.listenerFailed (← label listener))

end

end Subscriptions

end LanguageSession
