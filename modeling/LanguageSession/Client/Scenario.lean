import LanguageSession.Client.Session

/-!
Scenarios: runs of a client against server processes.  A script of a callback runs at
most once and every nested call goes back to a script or to a write, so the number of
steps bounds how deep calls can nest.
-/

namespace LanguageSession

namespace Client

/-- The server that a step is about: the newest one, if none is named. -/
def chosenServer (server : Option Nat) : Act World (Option Nat) := do
  let servers := (← getThe World).servers
  let chosen := server.getD (servers.length - 1)
  return if chosen < servers.length then some chosen else none

def withServer (server : Option Nat) (action : Nat → Act World Unit) : Act World Unit := do
  match ← chosenServer server with
  | some server => action server
  | none => return ()

def addCallback (callback : Callback Step) : Act World Nat := do
  let (who, cast) := (← getThe (Cast Step)).add callback
  set cast
  return who

/-- A request that was not sent has no id. -/
def answeredId (id : Option Nat) : Json := .integer ((id.map Int.ofNat).getD (-1))

/-- Performs a step, given the calls that may be made while it runs. -/
def performWith (nested : Nested) (step : Step) : Act World Json := do
  match step with
  | .start command arguments root => return .bool (← start nested command arguments root)
  | .stop => stop nested none; return .null
  | .waitReady timeout => return .bool (← waitReady timeout)
  | .version uri =>
    return (((← getThe Session).documents.version? uri).map Json.nat).getD .null
  | .request method params none => return answeredId (← request nested method params none)
  | .request method params (some callback) =>
    let who ← addCallback { callback with kind := "handler" }
    let id ← request nested method params (some (.callback who))
    write (.requested who id)
    return answeredId id
  | .requestSync method params timeout =>
    let completion ← requestSync nested method params timeout
    return .object [("result", .string completion.result.compact),
      ("error", .string completion.error.compact)]
  | .didOpen uri language text => didOpen nested uri language text; return .null
  | .didChange uri text => didChange nested uri text; return .null
  | .didClose uri => didClose nested uri; return .null
  | .subscribe channel listener =>
    let who ← addCallback { listener with kind := channel.name }
    subscribe channel listener.name (.callback who)
    return .null
  | .unsubscribe name => unsubscribe name; return .null
  | .send server message =>
    let data ← MonadExcept.ofExcept ((Frame.encode message).mapError Fault.unencodable)
    withServer server fun server => receive nested server data
    return .null
  | .raw server data => withServer server fun server => receive nested server data; return .null
  | .stderr server text =>
    withServer server fun server => receiveError nested server text
    return .null
  | .exit server code =>
    withServer server fun server => do
      modifyThe World (World.modifyServer server fun process =>
        { process with running := false, code := code })
      serverEnded nested server code
    return .null
  | .onExit server code =>
    withServer server fun server => serverEnded nested server code
    return .null
  | .set server running change =>
    withServer server fun server =>
      modifyThe World (World.modifyServer server fun process =>
        { process with
          running := running.getD process.running, conduct := change process.conduct })
    return .null
  | .setFactory change =>
    modifyThe World fun world => { world with factory := change world.factory }
    return .null

/-- Takes output that comes too deep: where it would be dropped there is nothing left to do. -/
def receiveTooDeep (server : Nat) (data : Bytes) : Act World Unit := do
  write (.arrived server data)
  let session ← getThe Session
  if session.server = some server && !session.stopping then throw .exhausted

/-- The nested calls of an operation; they nest at most `depth` deep. -/
def nestedCalls : Nat → Nested
  | 0 => ⟨fun _ => throw .exhausted, receiveTooDeep⟩
  | depth + 1 => ⟨performWith (nestedCalls depth), receive (nestedCalls depth)⟩

/--
A depth that is never used up.  Between two scripts there are at most three calls: a
server answers `initialize` inside the write, and the `initialized` that follows
inside that.
-/
def depthFor (script : List Step) : Nat := 4 * (scriptWeight script + 1)

def play (world : World) (script : List Step) : List (Turn World) :=
  turns (performWith (nestedCalls (depthFor script))) world script

end Client

end LanguageSession
