import LanguageSession.Answer
import LanguageSession.Client.World
import LanguageSession.Frame.Scan
import LanguageSession.Terminal.Display

/-!
The operations of a client.  While an operation runs, listeners and handlers may call
the client again and a server may deliver output before a write has returned.  These
nested calls come from outside an operation: every operation takes them as an
argument, and `Scenario` closes the circle.
-/

namespace LanguageSession

namespace Client

/-- The calls that may be made while an operation is running. -/
structure Nested where
  perform : Step → Act World Json
  /-- Takes output of a server. -/
  receive : Nat → Bytes → Act World Unit

variable (nested : Nested)

/-! ## Events -/

def collectDiagnostics (uri : Text) (items : List Json) : Act World Unit :=
  modifyThe World fun world =>
    { world with collected := Association.put uri items world.collected }

def tell (listener : Listener) (event : Event) : Act World Unit :=
  match listener, event with
  | .callback who, event => invoke Step.operation nested.perform who event.arguments
  | .echo, .log text => write (.shown (Terminal.serverLine text))
  | .collect, .diagnostics uri items => collectDiagnostics uri items
  | _, _ => return ()

def listenerLabel (listener : Listener) : Act World Text := do
  match listener with
  | .callback who => return (← getThe (Cast Step)).label who
  | .echo => return "<echo>"
  | .collect => return "<collect>"

def emit (event : Event) : Act World Unit :=
  Subscriptions.emit (tell nested) listenerLabel event

def emitLog (text : Text) : Act World Unit := do
  record (Log.sessionEvent text)
  emit nested (.log text)

/-! ## State -/

def setPhase (phase : Phase) : Act World Unit := do
  let session ← getThe Session
  unless session.phase = phase do
    record (Log.stateChange session.phase.name phase.name)
    modifyThe Session fun session => { session with phase := phase }

def setReady (ready : Bool) : Act World Unit := do
  let session ← getThe Session
  unless session.ready = ready do
    modifyThe Session fun session => { session with ready := ready }
    if ready then setPhase .ready
    emit nested (.ready ready)

def requestAbort : Act World Unit :=
  modifyThe Session fun session => { session with abortRequested := true }

/-! ## Server processes -/

/-- Makes a server process that is not running yet. -/
def makeServer (argv : List Text) : Act World Nat := do
  let world ← getThe World
  modifyThe World fun world =>
    { world with servers := world.servers ++ [⟨argv, world.factory, false, none, false, 0, 0⟩] }
  return world.servers.length

/-- Is a server process running when it is looked at? -/
def look (server : Nat) : Act World Bool := do
  modifyThe World (World.modifyServer server Server.look)
  let running := (← getThe World).isRunning server
  write (.looked server running)
  return running

/-- Starts a server process, or says why it does not start. -/
def spawn (server : Nat) : Act World (Option Text) := do
  let world ← getThe World
  match world.server? server with
  | none => return none
  | some process =>
    write (.spawned server process.argv world.settings.startTimeout)
    match process.conduct.refusesStart with
    | some reason => return some reason
    | none =>
      modifyThe World (World.modifyServer server fun process => { process with running := true })
      return none

/-- Writes a message to a server process, or says why the write fails. -/
def deliver (server : Nat) (message : Json) (data : Bytes) : Act World (Option Text) := do
  match (← getThe World).server? server with
  | none => return none
  | some process =>
    modifyThe World (World.modifyServer server fun process =>
      { process with writes := process.writes + 1 })
    match process.conduct.refusesWrite process.writes with
    | some reason =>
      write (.writeRefused server message)
      return some reason
    | none =>
      write (.wrote server message data)
      modifyThe World (World.modifyServer server fun process => process.accept message)
      (process.conduct.replies message).forM (nested.receive server)
      return none

def wait (server : Nat) (timeout : Duration) : Act World Unit := do
  write (.waited server timeout)
  modifyThe World (World.modifyServer server Server.settle)

def kill (server : Nat) : Act World Unit := do
  write (.killed server)
  modifyThe World (World.modifyServer server Server.kill)

def close (server : Nat) : Act World Unit := do
  write (.closed server)
  match ((← getThe World).server? server).bind fun process => process.conduct.refusesClose with
  | some reason => throw (.raised reason)
  | none => return ()

/-! ## Writing -/

/-- Writes a message to the running server; a failed write asks for the end of the session. -/
def writeMessage (message : Json) (data : Bytes) : Act World Unit := do
  match (← getThe Session).server with
  | none => return ()
  | some server =>
    if ← look server then
      match ← deliver nested server message data with
      | some reason =>
        emitLog nested ("LSP process I/O error: " ++ reason)
        requestAbort
      | none => record (Log.messageOut message data.length)

/-- Registers who waits for the response to a request. -/
def await (id : Nat) (handler : Handler) : Act World Unit := do
  set (← MonadExcept.ofExcept ((← getThe (Registry Handler)).register (.nat id) handler))
  match handler with
  | .callback who => write (.awaiting who id (← getThe Session).server)
  | _ => return ()

/-- Sends a request and registers its handler; an unencodable one changes nothing. -/
def sendRequest (method : Text) (params : Json) (handler : Option Handler) :
    Act World (Except EncodeError Nat) := do
  let id := (← getThe Session).nextId
  let message := Message.request (.nat id) method params
  match Frame.encode message with
  | .error error => return .error error
  | .ok data =>
    modifyThe Session fun session => { session with nextId := session.nextId + 1 }
    match handler with
    | none => pure ()
    | some handler => await id handler
    writeMessage nested message data
    return .ok id

/-- Sends a notification; an unencodable one is not sent. -/
def sendNotification (method : Text) (params : Json) : Act World (Except EncodeError Unit) := do
  let message := Message.notification method params
  match Frame.encode message with
  | .error error => return .error error
  | .ok data =>
    writeMessage nested message data
    return .ok ()

/-- Sends a notification and says whether it could be encoded. -/
def notify (method : Text) (params : Json) : Act World Bool := do
  match ← sendNotification nested method params with
  | .error error =>
    record (Log.failure "RPC" ("Dropping " ++ method ++ ": " ++ error.message))
    return false
  | .ok _ => return true

/-! ## Stopping -/

/-- Lets the server process end, by force if it must be, and closes it. -/
def dismiss (server : Nat) (graceful : Bool) : Act World Unit := do
  let settings := (← getThe World).settings
  if graceful then wait server settings.shutdownGrace
  if ← look server then
    kill server
    wait server settings.killGrace
  close server

/-- Forgets everything that belonged to the session. -/
def forget (server : Nat) : Act World Unit := do
  let process := (← getThe World).server? server
  record (Log.exited (process.map fun process => process.conduct.pid)
    (process.bind fun process => process.code))
  modifyThe Session fun session =>
    { session with
      server := none, buffer := [], pending := {}, documents := {}
      handshakeId := none, abortRequested := false }
  write .dropped
  write (.serving none)
  setReady nested false
  setPhase .stopped
  modifyThe Session fun session => { session with stopping := false }

/-- Asks a ready server to shut down; says whether it was asked. -/
def askToEnd (server : Nat) : Act World Bool := do
  let session ← getThe Session
  let running ← if session.ready then look server else pure false
  if running && !session.abortRequested then
    setPhase .shuttingDown
    let _ ← sendRequest nested "shutdown" .null none
    let _ ← sendNotification nested "exit" .null
    return true
  else return false

/-- Ends the session with a server process. -/
def endSession (server : Nat) : Act World Unit := do
  modifyThe Session fun session => { session with stopping := true }
  write (.ending server)
  let graceful ← askToEnd nested server
  try
    dismiss server graceful
  catch fault =>
    forget nested server
    throw fault
  forget nested server

/-- Ends the session, unless it is ending already or has moved on from the expected server. -/
def stop (expected : Option Nat) : Act World Unit := do
  let session ← getThe Session
  match session.server with
  | none => return ()
  | some server =>
    unless session.stopping || expected.any (· ≠ server) do
      endSession nested server

def stopIfAborted : Act World Unit := do
  let session ← getThe Session
  if session.abortRequested && !session.stopping then
    match session.server with
    | none => return ()
    | some server => stop nested (some server)

/-! ## Output of a server -/

/-- The response to `initialize`: an error with something in it ends the session. -/
def finishHandshake (completion : Completion) : Act World Unit := do
  modifyThe Session fun session => { session with handshakeId := none }
  if completion.error.isEmpty then
    let _ ← sendNotification nested "initialized" (.object [])
    setReady nested true
  else
    emitLog nested ("LSP initialize failed: " ++ Message.errorText completion.error)
    requestAbort

def complete (handler : Handler) (completion : Completion) : Act World Unit :=
  match handler with
  | .handshake => finishHandshake nested completion
  | .mailbox slot =>
    modifyThe World fun world => { world with mail := world.mail ++ [(slot, completion)] }
  | .callback who => invoke Step.operation nested.perform who completion.arguments

/-- Answers a request of the server; an answer that cannot be encoded is not sent. -/
def answerRequest (message : Json) : Act World Unit := do
  let reply ← MonadExcept.ofExcept (Answer.reply message (← getThe Session).root)
  match reply.note with
  | some note => record note
  | none => pure ()
  match Frame.encode reply.envelope with
  | .error error =>
    record (Log.failure "RPC"
      ("Cannot answer " ++ (message.member "method").display ++ ": " ++ error.message))
  | .ok data => writeMessage nested reply.envelope data

def handleMessage (message : Json) : Act World Unit := do
  record (Log.messageIn message)
  match Message.classify message with
  | .response =>
    let _ ← Registry.resolve (complete nested) message
  | .request => answerRequest nested message
  | .notification =>
    match Event.ofNotification? message with
    | some event => emit nested event
    | none => return ()
  | .invalid => record (Log.ignoredMessage message)

/-- Handles messages until the session is to end or has moved on to another server. -/
def handleMessages (server : Nat) : List Json → Act World Unit
  | [] => return ()
  | message :: rest => do
    let session ← getThe Session
    if !session.abortRequested && session.server = some server then
      write (.handling server message)
      handleMessage nested message
      handleMessages server rest

/--
Handles what reading the output of a server has brought.  That the reading of frames was
stopped is passed on before anything is handled.
-/
def handleFeed (server : Nat) (fed : Frame.Feed) : Act World Unit := do
  fed.notes.forM record
  match fed.fault with
  | some fault => throw fault
  | none =>
    match fed.stray with
    | some text => emitLog nested text
    | none => pure ()
    handleMessages nested server fed.messages
    stopIfAborted nested

/-- Takes bytes from the output of a server; those of an earlier server are dropped. -/
def receive (server : Nat) (data : Bytes) : Act World Unit := do
  write (.arrived server data)
  let session ← getThe Session
  if session.server = some server && !session.stopping then
    let fed := Frame.feed session.buffer data
    modifyThe Session fun session => { session with buffer := fed.buffer }
    handleFeed nested server fed

def receiveError (server : Nat) (text : Text) : Act World Unit := do
  if (← getThe Session).server = some server then emitLog nested text

/-- The end of a server ends its session. -/
def serverEnded (server : Nat) (code : Option Int) : Act World Unit := do
  let session ← getThe Session
  if session.server = some server && !session.stopping then
    record (Log.serverExited code)
    emitLog nested "LSP process exited."
    stop nested (some server)

/-! ## Calls of the user -/

/-- Begins a session from scratch. -/
def resetSession (root : Text) : Act World Unit := do
  modifyThe Session fun session =>
    { session with
      root := root, buffer := [], pending := {}, documents := {}, nextId := 1
      handshakeId := none, abortRequested := false }
  write .dropped
  setReady nested false

/-- Sends the `initialize` request to a server that has just started. -/
def beginHandshake (root : Option Text) : Act World Unit := do
  let params := Message.initializeParams ((root.map Json.string).getD .null)
  match ← sendRequest nested "initialize" params (some .handshake) with
  | .ok id => modifyThe Session fun session => { session with handshakeId := some id }
  | .error error =>
    emitLog nested ("LSP initialize failed: " ++ error.message)
    requestAbort

/-- The time after the grace periods in which an ending session ends. -/
def endingAllowance : Duration := .decimal (Double.ofInt 2)

def endingTime (settings : Settings) : Except TimeError Duration := do
  (← settings.shutdownGrace.add settings.killGrace).add endingAllowance

/--
Waits for the end of a session that is ending, in vain because it is this very call that
holds it up.
-/
def awaitEnding : Act World Unit := do
  let world ← getThe World
  let time ← MonadExcept.ofExcept ((endingTime world.settings).mapError Fault.time)
  if world.session.stopping then MonadExcept.ofExcept (time.await.mapError Fault.time)

/-- Makes a server process, with which the session goes on. -/
def adoptServer (argv : List Text) : Act World Nat := do
  let server ← makeServer argv
  modifyThe Session fun session => { session with server := some server }
  write (.serving (some server))
  return server

/-- Stops what is running and starts a server; says whether the session was begun. -/
def start (command : Text) (arguments : List Text) (root : Option Text) : Act World Bool := do
  stop nested none
  awaitEnding
  resetSession nested (root.getD [])
  setPhase .starting
  let server ← adoptServer (command :: arguments)
  record (Log.spawning (command :: arguments) root)
  match ← spawn server with
  | some reason =>
    emitLog nested ("Failed to start LSP process: " ++ reason)
    stop nested none
    return false
  | none =>
    beginHandshake nested root
    stopIfAborted nested
    return (← getThe Session).phase ≠ .stopped

/--
Says whether the session is ready.  One that is starting is awaited for some time, or for
as long as it takes; nothing more arrives while it is.
-/
def waitReady (timeout : Option Duration) : Act World Bool := do
  let session ← getThe Session
  match timeout with
  | some time =>
    if session.phase = .starting then
      let _ ← MonadExcept.ofExcept (time.toDouble.mapError Fault.time)
      MonadExcept.ofExcept (time.await.mapError Fault.time)
  | none => pure ()
  return session.ready

/-- Why the session cannot take requests, if it cannot. -/
def unavailable : Act World (Option Json) := do
  let session ← getThe Session
  let error (message : Text) := Message.error (.integer Message.serverNotInitialized) message
  let running ←
    match session.server with
    | some server => if session.stopping then pure false else look server
    | none => pure false
  return if !running then some (error "LSP process not running.")
    else if !session.ready then some (error "LSP server not initialized.")
    else none

/-- Sends a request and returns its id, or the error that its handler is to be told. -/
def trySend (method : Text) (params : Json) (handler : Option Handler) :
    Act World (Except Json Nat) := do
  match ← unavailable with
  | some error => return .error error
  | none =>
    match ← sendRequest nested method params handler with
    | .ok id => return .ok id
    | .error error =>
      record (Log.failure "RPC" ("Cannot send " ++ method ++ ": " ++ error.message))
      return .error (Message.error (.integer Message.invalidParams)
        (Json.string ("Request cannot be encoded: " ++ error.message)))

/--
Sends a request and returns its id.  If nothing can be sent the handler is told so at
once and there is no id.
-/
def request (method : Text) (params : Json) (handler : Option Handler) :
    Act World (Option Nat) := do
  match ← trySend nested method params handler with
  | .error error =>
    match handler with
    | some handler => complete nested handler (Completion.failure error)
    | none => pure ()
    return none
  | .ok id =>
    stopIfAborted nested
    return some id

/-- What has arrived in a mailbox for which there is some time, or nothing. -/
def collectMail (slot : Nat) (time : Duration) : Act World (Option Completion) := do
  if time.isNegative then throw (.time .negative)
  let _ ← MonadExcept.ofExcept (time.toDouble.mapError Fault.time)
  match (← getThe World).mail.lookup slot with
  | some completion => return some completion
  | none =>
    MonadExcept.ofExcept (time.await.mapError Fault.time)
    return none

/-- Sends a request and takes the response that has arrived, or else an error. -/
def requestSync (method : Text) (params : Json) (timeout : Option Duration) :
    Act World Completion := do
  let world ← getThe World
  let slot := world.nextSlot
  modifyThe World fun world => { world with nextSlot := slot + 1 }
  let _ ← request nested method params (some (.mailbox slot))
  let timeout := timeout.getD world.settings.requestTimeout
  match ← collectMail slot timeout with
  | some completion => return completion
  | none =>
    let tenths ← MonadExcept.ofExcept (timeout.toTenths.mapError Fault.time)
    record (Log.warning "RPC" ("Request " ++ method ++ " timed out after " ++ tenths ++ "s"))
    return Completion.failure
      (Message.error (.integer Message.unknownErrorCode) (.literal "Request timed out."))

def didOpen (uri language : Text) (text : Json) : Act World Unit := do
  if (← getThe Session).ready then
    let params := Message.didOpenParams (.string uri) (.string language) (.nat 1) text
    if ← notify nested "textDocument/didOpen" params then
      modifyThe Session fun session =>
        { session with documents := session.documents.openDocument uri }
    stopIfAborted nested

def didChange (uri : Text) (text : Json) : Act World Unit := do
  let session ← getThe Session
  if session.ready then
    let params :=
      Message.didChangeParams (.string uri) (.nat (session.documents.nextVersion uri)) text
    if ← notify nested "textDocument/didChange" params then
      modifyThe Session fun session => { session with documents := session.documents.change uri }
    stopIfAborted nested

def didClose (uri : Text) : Act World Unit := do
  if (← getThe Session).ready then
    if ← notify nested "textDocument/didClose" (Message.didCloseParams (.string uri)) then
      modifyThe Session fun session => { session with documents := session.documents.close uri }
    stopIfAborted nested

def subscribe (channel : Channel) (name : Text) (listener : Listener) : Act World Unit := do
  modifyThe (Subscriptions Listener) fun subscriptions => subscriptions.subscribe channel listener
  modifyThe World fun world => { world with handles := (name, channel, listener) :: world.handles }

/-- Removes the listener that was added last under a name. -/
def unsubscribe (name : Text) : Act World Unit := do
  match (← getThe World).handles.lookup name with
  | none => return ()
  | some (channel, listener) =>
    modifyThe (Subscriptions Listener) fun subscriptions =>
      subscriptions.unsubscribe channel listener

end Client

end LanguageSession
