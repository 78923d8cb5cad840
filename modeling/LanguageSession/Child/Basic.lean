import LanguageSession.Child.Pipe
import LanguageSession.Run

/-!
Child processes.  A child is spawned with three pipes and ends with a code.  The main
thread starts it, writes to it, waits for it, kills it and closes its pipes; one thread
each reads its output and its error output.  How the system and the process behave is
given as data, and everything that happens is noted with the thread it happens on.
-/

namespace LanguageSession

inductive Child.Thread where
  | main
  | output
  | errors
  deriving DecidableEq, Repr

inductive Child.PipeEnd where
  | input
  | output
  | errors
  deriving DecidableEq, Repr

/-- When a process ends by itself. -/
inductive Child.Ending where
  | atOnce
  /-- When it is waited for. -/
  | whenAwaited
  | never
  deriving DecidableEq, Repr

/-- Something that can be observed of a child. -/
inductive Child.Deed where
  | logged (record : Log.Record)
  | spawned (argv : List Text) (directory : Option Text)
  | wrote (data : Bytes)
  | flushed
  | waited (time : Duration)
  | killed
  | closed (pipe : PipeEnd)
  | tookOutput (block : Bytes)
  | tookLine (line : Text)
  | tookExit (code : Option Int)
  deriving Repr

structure Child.Note where
  thread : Thread
  deed : Deed
  deriving Repr

/-- How the system and the process behave. -/
structure Child.Behaviour where
  pid : Int := 0
  output : List Read := []
  errors : List Read := []
  ending : Ending := .atOnce
  /-- The code with which the process ends by itself. -/
  code : Int := 0
  refusesSpawn : Option Failure := none
  refusesWrite : Option Failure := none
  refusesKill : Option Failure := none
  refusesClose : PipeEnd → Option Failure := fun _ => none
  takesInput : Bool := true
  /-- The threads that read do not get to run. -/
  stalls : Bool := false

structure Child where
  argv : List Text
  directory : Option Text := none
  startTimeout : Duration := .decimal (Double.ofInt 2)
  behaviour : Child.Behaviour := {}
  spawned : Bool := false
  /-- The code with which the process ended, once it has. -/
  code : Option Int := none
  inputClosed : Bool := false
  closed : Bool := false
  /-- The end of the process has been reported. -/
  exitReported : Bool := false
  notes : List Child.Note := []

namespace Child

def pid? (child : Child) : Option Int := if child.spawned then some child.behaviour.pid else none

def isRunning (child : Child) : Bool := child.spawned && child.code.isNone

def note (thread : Thread) (deed : Deed) : Act Child Unit :=
  modifyThe Child fun child => { child with notes := child.notes ++ [⟨thread, deed⟩] }

def log (thread : Thread) (level : Log.Level) (message : Text) : Act Child Unit :=
  note thread (.logged (Log.note level "PROCESS" message))

/-- Writes a message to the process. -/
def write (thread : Thread) (data : Bytes) : Act Child Unit := do
  let child ← getThe Child
  if !child.spawned || !child.behaviour.takesInput then throw (.notWritten "Process is not running")
  else if child.inputClosed then throw (.notWritten "write to closed file")
  else
    match child.behaviour.refusesWrite with
    | some failure =>
      throw (if failure.isExpected then .notWritten failure.reason else .external failure)
    | none =>
      note thread (.wrote data)
      note thread .flushed

/-- Waits for the end of the process and says whether it has come. -/
def wait (thread : Thread) (time : Duration) : Act Child Bool := do
  let child ← getThe Child
  if !child.spawned then return true
  note thread (.waited time)
  match child.code, child.behaviour.ending with
  | none, .never => return false
  | none, _ =>
    modifyThe Child fun child => { child with code := some child.behaviour.code }
    return true
  | some _, _ => return true

/-- Kills the process if it runs; that the system refuses to is logged. -/
def kill (thread : Thread) : Act Child Unit := do
  let child ← getThe Child
  if child.isRunning then
    note thread .killed
    match child.behaviour.refusesKill with
    | none => modifyThe Child fun child => { child with code := some (-9) }
    | some failure =>
      if failure.isSystem then
        log thread .warning ("Failed to kill LSP server " ++ Text.ofInt child.behaviour.pid ++
          ": " ++ failure.reason)
      else throw (.external failure)

/-- Closes one pipe; that the system refuses to is logged. -/
def closePipe (thread : Thread) (pipe : PipeEnd) : Act Child Unit := do
  note thread (.closed pipe)
  match (← getThe Child).behaviour.refusesClose pipe with
  | none => return ()
  | some failure =>
    if failure.isSystem then
      log thread .debug ("Error closing LSP server pipe: " ++ failure.reason)
    else throw (.external failure)

/-- Closes the pipes.  Only the first call counts, even if there was nothing to close yet. -/
def close (thread : Thread) : Act Child Unit := do
  let child ← getThe Child
  unless child.closed do
    modifyThe Child fun child => { child with closed := true }
    if child.spawned then
      if child.behaviour.takesInput then
        modifyThe Child fun child => { child with inputClosed := true }
        closePipe thread .input
      closePipe thread .output
      closePipe thread .errors

/-- What can be asked of a child that has been started. -/
inductive Call where
  | write (data : Bytes)
  | wait (time : Duration)
  | kill
  | close
  deriving Repr

def call (thread : Thread) : Call → Act Child Json
  | .write data => do write thread data; return .null
  | .wait time => return .bool (← wait thread time)
  | .kill => do kill thread; return .null
  | .close => do close thread; return .null

end Child

end LanguageSession
