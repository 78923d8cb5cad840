import LanguageSession.Fault
import LanguageSession.Json.Writer
import LanguageSession.Log.Record

/-!
Log files.  There is one file for each level from the configured minimum on, with a handler that
is given all records and writes those of its level.  Configuring again replaces the handlers that
there were; what has been written stays.  The folder of the files is made first and then the files
are opened, and either may fail.
-/

namespace LanguageSession

namespace Log

/-- What a configuration asks for. -/
structure Request where
  level : Text := "INFO"
  directory : Option Text := none
  json : Bool := false
  enabled : Bool := true
  deriving Repr

/-- How the time of a record is written: its day, the time of day, and both together. -/
structure Stamp where
  day : Text
  timeOfDay : Text
  instant : Text
  deriving Repr

/-- Where records go. -/
structure Sink where
  /-- The least rank of a level that has a file. -/
  minimum : Nat
  directory : Text
  json : Bool
  deriving Repr

/-- What writes the records of one level to a file. -/
structure Handler where
  sink : Sink
  level : Level
  /-- The name of the file in the directory. -/
  name : Text
  deriving Repr

/-- The contents of all files by path, and where further records go. -/
structure Files where
  /-- The configuration in force, all of whose files are open. -/
  sink : Option Sink := none
  /-- The handlers that a configuration left which failed to open the next file. -/
  remainder : List Handler := []
  /-- The folders that were made. -/
  folders : List FilePath.Place := []
  contents : List (Text × Text) := []
  deriving Repr

def levelRanks : List (Text × Nat) :=
  [("DEBUG", 10), ("INFO", 20), ("WARNING", 30), ("WARN", 30), ("ERROR", 40), ("CRITICAL", 50),
    ("FATAL", 50), ("NOTSET", 0)]

def otherNames : List (Text × Text) := [("BASIC_FORMAT", "str"), ("_STYLES", "dict")]

/-- A level by its name in any case; an unknown name means `INFO`. -/
def rankOf (level : Text) : Except Fault Nat :=
  match otherNames.lookup level.upper with
  | some kind => .error (.notALevel kind)
  | none => .ok ((levelRanks.lookup level.upper).getD 20)

def fileLevels : List (Level × Text) :=
  [(.debug, "debug.log"), (.info, "info.log"), (.warning, "warning.log"), (.error, "error.log")]

def fileName? (level : Level) : Option Text := fileLevels.lookup level

def filePath (directory name : Text) : Text :=
  FilePath.normal (FilePath.givenBack (directory ++ "/" ++ name))

def Sink.accepts (sink : Sink) (level : Level) : Bool := sink.minimum ≤ level.rank

def Handler.path (handler : Handler) : Text := filePath handler.sink.directory handler.name

/--
Does a handler take the records of a level?  Those below its own level are not passed to it, and
its filter keeps out all but its own.
-/
def Handler.admits (handler : Handler) (level : Level) : Bool :=
  handler.level.rank ≤ level.rank && level = handler.level

def Sink.handlers (sink : Sink) : List Handler :=
  (fileLevels.filter fun (level, _) => sink.accepts level).map fun (level, name) =>
    ⟨sink, level, name⟩

/-- The handlers that records are given to, in their order. -/
def Files.handlers (files : Files) : List Handler :=
  match files.sink with
  | some sink => sink.handlers
  | none => files.remainder

/-- The directory that a request asks for. -/
def Request.folder (request : Request) (stamp : Stamp) : Text :=
  match request.directory with
  | some directory => if directory.isEmpty then "logs/" ++ stamp.day else directory
  | none => "logs/" ++ stamp.day

def Request.sink (request : Request) (stamp : Stamp) : Except Fault Sink := do
  return ⟨← rankOf request.level, request.folder stamp, request.json⟩

def append (path text : Text) (contents : List (Text × Text)) : List (Text × Text) :=
  Association.put path ((contents.lookup path).getD [] ++ text) contents

def Files.tree (files : Files) : FileTree :=
  ⟨files.folders, files.contents.map fun (path, _) => FilePath.place path⟩

/-- A folder cannot be opened as a file. -/
def isFolderFault (path : Text) : Fault :=
  .external ⟨.system, "IsADirectoryError", "[Errno 21] Is a directory: " ++ Json.quoted path⟩

/-- Opens the files of handlers one after the other, up to one that cannot be opened. -/
def Files.openAll (files : Files) : List Handler → Except Fault Unit × Files
  | [] => (.ok (), files)
  | handler :: rest =>
    if files.tree.isFolder (FilePath.place handler.path) then
      (.error (isFolderFault handler.path), files)
    else
      Files.openAll
        { files with
          remainder := files.remainder ++ [handler]
          contents := append handler.path [] files.contents } rest

/-- Opens the files of all levels from the minimum on. -/
def Files.openFor (files : Files) (stamp : Stamp) (request : Request) : Except Fault Unit × Files :=
  match request.sink stamp with
  | .error fault => (.error fault, files)
  | .ok sink =>
    match files.openAll sink.handlers with
    | (.error fault, opened) => (.error fault, opened)
    | (.ok _, opened) => (.ok (), { opened with sink := some sink, remainder := [] })

/--
Configures anew: drops the handlers that there are, makes the folder, and opens the files in it.
Where that fails, what was done so far stays.
-/
def Files.reconfigure (files : Files) (stamp : Stamp) (request : Request) :
    Except Fault Unit × Files :=
  let bare (folders : List FilePath.Place) : Files := ⟨none, [], folders, files.contents⟩
  match files.tree.makeFolder (request.folder stamp) with
  | (.error error, tree) => (.error (.folder error), bare tree.folders)
  | (.ok _, tree) => (bare tree.folders).openFor stamp request

def Files.attempt (files : Files) (stamp : Stamp) (request : Request) : Except Fault Unit × Files :=
  if request.enabled then files.reconfigure stamp request else (.ok (), files)

/-- The files after a configuration that succeeds. -/
def Files.configure (files : Files) (stamp : Stamp) (request : Request) : Except Fault Files :=
  match files.attempt stamp request with
  | (.error fault, _) => .error fault
  | (.ok _, configured) => .ok configured

def padBlanks (width : Nat) (text : Text) : Text :=
  text ++ List.replicate (width - text.length) (CodePoint.ofChar ' ')

def Record.textLine (record : Record) (stamp : Stamp) : Text :=
  stamp.timeOfDay ++ " [" ++ padBlanks 8 record.component ++ "] " ++ record.message

/--
The names of what every record carries, whatever is logged.  Nothing under one of them is
shown as a further field.
-/
def commonNames : List Text :=
  ["name", "msg", "args", "levelname", "levelno", "pathname", "filename", "module", "exc_info",
    "exc_text", "stack_info", "lineno", "funcName", "created", "msecs", "relativeCreated",
    "thread", "threadName", "processName", "process", "message", "component", "asctime",
    "taskName"]

/-- A record as a JSON object.  A further field may take the place of the time or the level. -/
def Record.toJson (record : Record) (stamp : Stamp) : Json :=
  let further := record.fields.filter fun field => !commonNames.contains field.1
  .object (further.foldl (fun members field => Association.put field.1 field.2 members)
    [("time", .string stamp.instant), ("level", .string record.level.name),
      ("component", .string record.component), ("message", .string record.message)])

/-- A line that UTF-8 has no form for is lost. -/
def line? (sink : Sink) (stamp : Stamp) (record : Record) : Option Text :=
  if sink.json then some ((record.toJson stamp).spaced ++ "\n")
  else
    let line := record.textLine stamp ++ "\n"
    if line.any CodePoint.isSurrogate then none else some line

/-- Gives a record to a handler, which writes it if it takes records of this level. -/
def Handler.emit (handler : Handler) (stamp : Stamp) (record : Record)
    (contents : List (Text × Text)) : List (Text × Text) :=
  if handler.admits record.level then
    match line? handler.sink stamp record with
    | some line => append handler.path line contents
    | none => contents
  else contents

/-- Gives a record to all handlers. -/
def Files.write (files : Files) (stamp : Stamp) (record : Record) : Files :=
  { files with
    contents := files.handlers.foldl (fun contents handler => handler.emit stamp record contents)
      files.contents }

end Log

end LanguageSession
