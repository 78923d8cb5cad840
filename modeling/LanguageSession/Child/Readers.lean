import LanguageSession.Child.Basic

/-!
The threads that read what a child writes, and its start, which sets them going.  The
output is passed on block by block, and after its end the end of the process is
reported once.  The error output is passed on line by line.  A callback that fails is
logged and does not end its thread.
-/

namespace LanguageSession

namespace Child

/-- What a callback does with the child, and whether it raises an error of its own after that. -/
structure Reaction where
  calls : List Call := []
  raises : Bool := false
  deriving Repr

/-- Whom the readers call.  What a callback does may depend on all that happened before. -/
structure Listeners where
  output : Child → Bytes → Reaction
  errors : Child → Text → Reaction
  exit : Child → Option Int → Reaction

def react (thread : Thread) (reaction : Reaction) : Act Child Unit := do
  reaction.calls.forM fun asked => do
    let _ ← call thread asked
  if reaction.raises then throw (.raised "boom")

/-- Calls a callback, which takes what it is given; that it fails is logged. -/
def inform (thread : Thread) (name : Text) (taking : Deed) (listener : Child → Reaction) :
    Act Child Unit := do
  note thread taking
  tryCatch (do react thread (listener (← getThe Child)))
    fun _ => log thread .error ("LSP " ++ name ++ " handler failed")

/--
Passes on blocks of output up to the end or a failure.  A failure is logged unless the
pipes are closed.
-/
def pumpOutput (listeners : Listeners) : List Read → Act Child Unit
  | [] => return ()
  | .bytes [] :: _ => return ()
  | .bytes (byte :: block) :: rest => do
    inform .output "stdout" (.tookOutput (byte :: block)) fun child =>
      listeners.output child (byte :: block)
    pumpOutput listeners rest
  | .failed failure :: _ => do
    if !failure.isExpected then throw (.external failure)
    else if !(← getThe Child).closed then
      log .output .error ("Error reading from LSP server: " ++ failure.reason)

/-- How long the end of a process may come after the end of its output. -/
def exitGrace : Duration := .decimal (Double.ofRatio false 1 10)

/-- The code of the process if it is known, also after a short time. -/
def lastCode : Act Child (Option Int) := do
  if (← getThe Child).code.isNone then
    let _ ← wait .output exitGrace
  return (← getThe Child).code

/-- Reports the end of the process, unless that was done. -/
def reportExit (listeners : Listeners) : Act Child Unit := do
  unless (← getThe Child).exitReported do
    modifyThe Child fun child => { child with exitReported := true }
    let code ← lastCode
    inform .output "exit" (.tookExit code) fun child => listeners.exit child code

def readOutput (listeners : Listeners) (reads : List Read) : Act Child Unit := do
  pumpOutput listeners reads
  reportExit listeners

def readErrors (listeners : Listeners) (data : Bytes) : Act Child Unit :=
  ((lines data).filterMap lineText?).forM fun line =>
    inform .errors "stderr" (.tookLine line) fun child => listeners.errors child line

/-- Runs a thread to its end.  A failure ends the thread and nothing else. -/
def runThread (body : Act Child Unit) : Act Child Unit :=
  tryCatch body fun _ => return ()

/-- Waits in vain for the threads that read, and then gives up. -/
def awaitReaders (time : Duration) : Except Fault Unit := do
  time.await.mapError Fault.time
  let tenths ← time.toTenths.mapError Fault.time
  throw (.notStarted ("Process did not start within " ++ tenths ++ "s"))

/-- Spawns the process and lets the threads read all that it writes. -/
def start (listeners : Listeners) : Act Child Unit := do
  let child ← getThe Child
  let behaviour := child.behaviour
  if child.spawned then throw (.notStarted "Process already started")
  log .main .info ("Starting LSP server: " ++ Text.join " " child.argv)
  note .main (.spawned child.argv child.directory)
  match behaviour.refusesSpawn with
  | some failure =>
    throw (if failure.isExpected then .notStarted failure.reason else .external failure)
  | none =>
    modifyThe Child fun child =>
      { child with
        spawned := true
        code := if behaviour.ending = .atOnce then some behaviour.code else none }
    if behaviour.stalls then MonadExcept.ofExcept (awaitReaders child.startTimeout)
    runThread (readErrors listeners (bytesBeforeFailure behaviour.errors))
    runThread (readOutput listeners (behaviour.output.flatMap Read.inBlocks))

/-- Listeners that do the same whatever happened before. -/
structure Callbacks where
  /-- The callback for the end of the process closes the pipes. -/
  closesOnExit : Bool := false
  outputRaises : Bool := false
  errorsRaise : Bool := false
  exitRaises : Bool := false
  deriving DecidableEq, Repr

def Callbacks.listeners (callbacks : Callbacks) : Listeners where
  output _ _ := ⟨[], callbacks.outputRaises⟩
  errors _ _ := ⟨[], callbacks.errorsRaise⟩
  exit _ _ := ⟨if callbacks.closesOnExit then [.close] else [], callbacks.exitRaises⟩

inductive Step where
  | start (callbacks : Callbacks)
  | write (data : Bytes)
  | wait (time : Duration)
  | kill
  | close
  deriving Repr

def perform : Step → Act Child Json
  | .start callbacks => do start callbacks.listeners; return .null
  | .write data => call .main (.write data)
  | .wait time => call .main (.wait time)
  | .kill => call .main .kill
  | .close => call .main .close

/-- How a step ends, and the child after it with only the notes of this step. -/
def play (child : Child) (step : Step) : Except Fault Json × Child :=
  ((perform step).run).run { child with notes := [] }

end Child

end LanguageSession
