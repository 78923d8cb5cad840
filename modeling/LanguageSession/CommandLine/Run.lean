import LanguageSession.Client.Scenario
import LanguageSession.CommandLine.Call
import LanguageSession.CommandLine.Report

/-!
Runs of the commands.  A command that talks to a server makes a client, and whatever
happens then, the client is stopped before the command ends.
-/

namespace LanguageSession

namespace CommandLine

/-- What a command finds around it. -/
structure Surroundings where
  environment : Environment := []
  /-- The commands that can be run. -/
  commands : List Text := []
  /-- Files by absolute path. -/
  files : List (Text × Bytes) := []
  /-- The working directory. -/
  directory : Text := "/"
  /-- How the time of log records is written. -/
  stamp : Log.Stamp := ⟨[], [], []⟩
  /-- How a server process behaves. -/
  conduct : Conduct := {}
  /-- Why the terminal fails to show something; nobody is prepared for that. -/
  refusesShow : Terminal.Output → Option Failure := fun _ => none

namespace Surroundings

def fileUri (surroundings : Surroundings) (path : Text) : Except Fault Text :=
  (FilePath.uri surroundings.directory path).mapError Fault.name

/-- The contents of a file, or why there are none. -/
def readText (surroundings : Surroundings) (path : Text) : Except Text Text :=
  match surroundings.files.lookup (FilePath.resolve surroundings.directory path) with
  | none =>
    .error ("[Errno 2] No such file or directory: " ++ Json.quoted (FilePath.tidy path))
  | some bytes =>
    match Utf8.decode bytes with
    | .error error => .error error.message
    | .ok text => .ok text.universalNewlines

end Surroundings

/-! ## Before a server is started -/

/-- The command of the server of a target, and its arguments. -/
def resolveServer (surroundings : Surroundings) (target : Target) :
    Except Ending (Text × List Text) :=
  match target.argv, target.server with
  | command :: arguments, _ => .ok (command, arguments)
  | [], none => .error (.misused .noServer)
  | [], some language =>
    match Languages.ofEnvironment surroundings.environment with
    | .error error => .error (.raised (.quoting error))
    | .ok languages =>
      match languages.forLanguage? surroundings.commands language with
      | some launcher => .ok (launcher.command, launcher.arguments)
      | none =>
        .error (.misused (.unavailableServer language (Languages.installHint language)))

/-- An option that is empty counts as missing. -/
def nonempty? (value : Option Text) : Option Text := value.filter fun text => !text.isEmpty

/--
The parameters of a request: those that are given, or else the position in the file
that is to be opened, or else none.
-/
def requestParams (surroundings : Surroundings) (target : Target) (inquiry : Inquiry) :
    Except Ending Json :=
  match inquiry.params, nonempty? target.openFile with
  | some text, _ =>
    match Json.read text with
    | .ok params => .ok params
    | .error ⟨.tooDeep container, _⟩ => .error (.raised (.tooDeep container))
    | .error error => .error (.misused (.unreadableParams (error.message text)))
  | none, some path =>
    match surroundings.fileUri path with
    | .ok uri =>
      .ok (Message.positionParams (.string uri) (.integer inquiry.line)
        (.integer inquiry.character))
    | .error fault => .error (.raised fault)
  | none, none => .ok .null

/-! ## Talking to a server -/

/-- More than the depth to which a client is called while it is writing. -/
def callDepth : Nat := 8

def nested : Client.Nested := Client.nestedCalls callDepth

def display (surroundings : Surroundings) (output : Terminal.Output) : Act Client.World Unit :=
  match surroundings.refusesShow output with
  | some failure => throw (.external failure)
  | none => write (.shown output)

/-- Starts a server and waits until it is ready; shows why if it does not become so. -/
def connect (surroundings : Surroundings) (root : Option Text) (command : Text)
    (arguments : List Text) : Act Client.World Bool := do
  let place := (nonempty? root).getD surroundings.directory
  let root ← MonadExcept.ofExcept (surroundings.fileUri place)
  let settings := (← getThe Client.World).settings
  if !(← Client.start nested command arguments (some root)) then
    display surroundings (Terminal.failure ("Could not start " ++ command))
    return false
  else if !(← Client.waitReady (some settings.requestTimeout)) then
    display surroundings
      (Terminal.failure (command ++ " did not complete the initialize handshake"))
    return false
  else return true

/-- The name of a file as it is shown. -/
def shownName (path : Text) : Except Fault Text :=
  match Lossless.encode path with
  | .ok bytes => .ok (Utf8.decodeLossy bytes)
  | .error run => .error (.name (.strange run))

/-- Opens the file of a target; the ending is that of the command if this fails. -/
def openTarget (surroundings : Surroundings) (target : Target) :
    Act Client.World (Option Ending) := do
  match nonempty? target.openFile with
  | none => return none
  | some path =>
    match surroundings.readText path with
    | .error reason =>
      return some (.unreadableFile (← MonadExcept.ofExcept (shownName path)) reason)
    | .ok text =>
      let uri ← MonadExcept.ofExcept (surroundings.fileUri path)
      let language := (nonempty? target.language).getD (Languages.identify path "plaintext")
      Client.didOpen nested uri language (.string text)
      return none

def serverPid : Act Client.World (Option Int) := do
  let world ← getThe Client.World
  return (world.session.server.bind world.server?).map fun server => server.conduct.pid

/-- The diagnostics that have arrived, after waiting for some if there are none. -/
def awaitDiagnostics (wait : Duration) : Act Client.World (List (Text × Json)) := do
  let collected := (← getThe Client.World).collected
  if collected.isEmpty then MonadExcept.ofExcept (wait.await.mapError Fault.time)
  return collected.map fun (uri, items) => (uri, .array items)

/-- Shows the diagnostics that a server publishes on its own. -/
def converse (surroundings : Surroundings) (target : Target) (wait : Duration) (command : Text)
    (arguments : List Text) : Act Client.World Ending := do
  if !(← connect surroundings target.root command arguments) then return .failed
  let pid := Log.optional (← serverPid)
  display surroundings (Terminal.success
    ("Ready: " ++ Text.join " " (command :: arguments) ++ " (pid " ++ pid.display ++ ")"))
  match ← openTarget surroundings target with
  | some ending => return ending
  | none =>
    let output ← MonadExcept.ofExcept (Terminal.diagnostics (← awaitDiagnostics wait))
    display surroundings output
    return .completed

/-- Sends one request and shows its result. -/
def inquire (surroundings : Surroundings) (target : Target) (inquiry : Inquiry) (params : Json)
    (command : Text) (arguments : List Text) : Act Client.World Ending := do
  if !(← connect surroundings target.root command arguments) then return .failed
  match ← openTarget surroundings target with
  | some ending => return ending
  | none =>
    let completion ← Client.requestSync nested inquiry.method params inquiry.timeout
    if completion.error.isNull then
      display surroundings (Terminal.result completion.result)
      return .completed
    else
      display surroundings (Terminal.failure (inquiry.method ++ " failed (" ++
        (completion.error.member "code").display ++ "): " ++
        (completion.error.member "message").display))
      return .failed

/-- Stops the client after a conversation, however the conversation ends. -/
def thenStop (conversation : Act Client.World Ending) : Act Client.World Ending := do
  let ending ←
    try conversation
    catch fault =>
      Client.stop nested none
      throw fault
  Client.stop nested none
  return ending

/-- A client that listens for what a command shows. -/
def clientFor (surroundings : Surroundings) (listeners : List (Channel × Client.Listener)) :
    Client.World :=
  { settings := Settings.ofEnvironment surroundings.environment
    factory := surroundings.conduct
    subscriptions := listeners.foldl (fun subscriptions (channel, listener) =>
      subscriptions.subscribe channel listener) {} }

/-- Everything that a conversation brings about. -/
def runConversation (world : Client.World) (conversation : Act Client.World Ending) : Report :=
  let (outcome, world) := ((thenStop conversation).run).run world
  match outcome with
  | .ok ending => { ending := ending, entries := world.journal.entries }
  | .error fault => { ending := .raised fault, entries := world.journal.entries }

/-! ## Commands -/

def echoListeners (target : Target) : List (Channel × Client.Listener) :=
  if target.verbose then [(.log, .echo)] else []

def refuse : Refusal → Ending
  | .help => .helped
  | .misuse error => .misused error

def runServers (surroundings : Surroundings) : Report :=
  match Languages.ofEnvironment surroundings.environment with
  | .error error => { ending := .raised (.quoting error) }
  | .ok languages =>
    let output :=
      Terminal.servers languages.launchers (languages.availability surroundings.commands)
    match surroundings.refusesShow output with
    | some failure => { ending := .raised (.external failure) }
    | none => { ending := .completed, entries := [.shown output] }

def runProbe (surroundings : Surroundings) (target : Target) (wait : Duration) : Report :=
  match resolveServer surroundings target with
  | .error ending => { ending := ending }
  | .ok (command, arguments) =>
    runConversation
      (clientFor surroundings (echoListeners target ++ [(.diagnostics, .collect)]))
      (converse surroundings target wait command arguments)

def runRequest (surroundings : Surroundings) (target : Target) (inquiry : Inquiry) : Report :=
  match resolveServer surroundings target with
  | .error ending => { ending := ending }
  | .ok (command, arguments) =>
    match requestParams surroundings target inquiry with
    | .error ending => { ending := ending }
    | .ok params =>
      runConversation (clientFor surroundings (echoListeners target))
        (inquire surroundings target inquiry params command arguments)

def runCall (surroundings : Surroundings) : Call → Report
  | .servers => runServers surroundings
  | .probe target wait => runProbe surroundings target wait
  | .request target inquiry => runRequest surroundings target inquiry

/-- Log files are asked for by an option or else by a setting; with no directory there are none. -/
def loggingOf (settings : Settings) (opening : Opening) : Option Log.Request :=
  ((nonempty? opening.logDirectory).or settings.logDirectory).map fun directory =>
    { level := (nonempty? opening.logLevel).getD settings.logLevel
      directory := some directory }

/-- The log files that are asked for, still empty. -/
def logFiles (surroundings : Surroundings) (opening : Opening) : Except Fault Log.Files :=
  match loggingOf (Settings.ofEnvironment surroundings.environment) opening with
  | none => .ok {}
  | some request => Log.Files.configure {} surroundings.stamp request

/-- Runs a command line after its opening, once the log files are there. -/
def runOpened (surroundings : Surroundings) (opening : Opening) : Report :=
  match readCall opening.command opening.arguments with
  | .error refusal => { ending := refuse refusal }
  | .ok call => runCall surroundings call

/-- Runs a command line, up to what is said about its ending. -/
def perform (surroundings : Surroundings) (arguments : List Text) : Report :=
  match readOpening arguments with
  | .error refusal => { ending := refuse refusal }
  | .ok opening =>
    match logFiles surroundings opening with
    | .error fault => { ending := .raised fault }
    | .ok files => (runOpened surroundings opening).logTo files surroundings.stamp

def run (surroundings : Surroundings) (arguments : List Text) : Report :=
  let report := perform surroundings arguments
  { report with ending := report.ending.announced }

end CommandLine

end LanguageSession
