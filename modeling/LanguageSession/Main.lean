import LanguageSession.CommandLine.Run
import LanguageSession.Log.Clock
import LanguageSession.Terminal.Plain
import Std.Time.DateTime.Timestamp

/-!
The program.  It collects what a command line may need to know, runs the command line
and carries out the report.  There are no server processes here: every attempt to
start one is refused, and the commands say so.
-/

namespace LanguageSession

namespace CommandLine

def help : String :=
  "Usage: lsplink [--log-dir DIR] [--log-level LEVEL] servers | probe | request METHOD"

/-- The environment variables that are looked at. -/
def environmentNames : List Text :=
  let settings : List Text :=
    ["LSPLINK_START_TIMEOUT", "LSPLINK_SHUTDOWN_GRACE", "LSPLINK_KILL_GRACE",
      "LSPLINK_REQUEST_TIMEOUT", "LSPLINK_LOG_LEVEL", "LSPLINK_LOG_DIR"]
  settings ++ Languages.presets.map fun (language, _) => Languages.commandVariable language

def readEnvironment : IO Environment :=
  environmentNames.filterMapM fun name => do
    return (← IO.getEnv name.toString).map fun value => (name, Text.ofString value)

def bytesOf? (path : String) : IO (Option Bytes) :=
  try return some (← IO.FS.readBinFile path).toList
  catch _ => return none

def isFile (path : String) : IO Bool :=
  try
    let _ ← IO.FS.Handle.mk path .read
    return true
  catch _ => return false

/-- The commands of known servers that stand in one of the directories for commands. -/
def readCommands (environment : Environment) : IO (List Text) := do
  let directories := ((← IO.getEnv "PATH").getD "").splitOn ":"
  let launchers :=
    match Languages.ofEnvironment environment with
    | .ok languages => languages.launchers
    | .error _ => []
  (launchers.map fun (_, launcher) => launcher.command).filterM fun command =>
    directories.anyM fun directory => isFile (directory ++ "/" ++ command.toString)

/-- The files that are named by an argument or by the value in one. -/
def readFiles (directory : Text) (arguments : List Text) : IO (List (Text × Bytes)) :=
  (arguments ++ arguments.filterMap fun argument => (splitValue argument).2).filterMapM
    fun path => do
      let place := FilePath.resolve directory path
      return (← bytesOf? place.toString).map fun bytes => (place, bytes)

def readSurroundings (arguments : List Text) : IO Surroundings := do
  let environment ← readEnvironment
  let directory := Text.ofString (← IO.currentDir).toString
  let seconds := (← Std.Time.Timestamp.now).toSecondsSinceUnixEpoch.val.toNat
  return {
    environment := environment
    commands := ← readCommands environment
    files := ← readFiles directory arguments
    directory := directory
    stamp := Log.Stamp.ofSeconds seconds
    conduct := { refusesStart := some "server processes cannot be started" } }

def writeFiles (files : Log.Files) : IO Unit :=
  files.contents.forM fun (path, content) => do
    let directory := FilePath.pathTo (FilePath.above (FilePath.place path))
    IO.FS.createDirAll directory.toString
    IO.FS.writeFile path.toString content.toString

/-- Carries out a report and returns the exit code. -/
def carryOut (report : Report) : IO UInt32 := do
  report.entries.forM fun entry => do
    match entry with
    | .shown output => output.lines.forM fun line => IO.println line.toString
    | _ => pure ()
  match report.ending with
  | .helped => IO.println help
  | .raised fault => IO.eprintln fault.message.toString
  | ending =>
    ending.complaint?.forM fun text => IO.eprintln (Ending.complaintLine text).toString
  writeFiles report.files
  return UInt32.ofNat report.ending.exitCode

end CommandLine

end LanguageSession

def main (arguments : List String) : IO UInt32 := do
  let arguments := arguments.map LanguageSession.Text.ofString
  let surroundings ← LanguageSession.CommandLine.readSurroundings arguments
  LanguageSession.CommandLine.carryOut (LanguageSession.CommandLine.run surroundings arguments)
