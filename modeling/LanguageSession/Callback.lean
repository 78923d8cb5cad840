import LanguageSession.Journal
import LanguageSession.Json.Key

/-!
Scripted callbacks: listeners and response handlers whose behaviour is given as
data.  A callback records its call, may stop there because of its first argument,
runs its script the first time it gets further, and may raise an error at the end.
-/

namespace LanguageSession

structure Callback (Step : Type) where
  kind : Text
  name : Text
  /-- Run once, at the first call that gets as far. -/
  script : List Step := []
  /-- Only calls with this first argument go further. -/
  guard : Option Json := none
  raises : Bool := false

/-- The callbacks of a run, numbered in the order in which they were made. -/
structure Cast (Step : Type) where
  callbacks : List (Callback Step) := []
  /-- Callbacks whose script has been run. -/
  spent : List Nat := []

namespace Cast

variable {Step : Type}

def add (cast : Cast Step) (callback : Callback Step) : Nat × Cast Step :=
  (cast.callbacks.length, { cast with callbacks := cast.callbacks ++ [callback] })

def find? (cast : Cast Step) (kind name : Text) : Option Nat :=
  cast.callbacks.findIdx? fun callback => callback.kind = kind && callback.name = name

def name (cast : Cast Step) (who : Nat) : Text :=
  ((cast.callbacks[who]?).map Callback.name).getD []

/-- How a callback is named in messages about it. -/
def label (cast : Cast Step) (who : Nat) : Text :=
  match cast.callbacks[who]? with
  | some callback => "<" ++ callback.kind ++ " " ++ callback.name ++ ">"
  | none => "<>"

end Cast

section

variable {m : Type → Type} [Monad m] [Journaling m] [MonadExceptOf Fault m]
variable {Step : Type} [MonadStateOf (Cast Step) m]

/-- Runs the steps of a script, each between two entries of the journal. -/
def runScript (operation : Step → Text) (perform : Step → m Json) (script : List Step) : m Unit :=
  script.forM fun step => do
    write (.doing (operation step))
    let result ← perform step
    write (.did (operation step) result)

/-- Does the first argument let the call go further? -/
def Callback.admits (callback : Callback Step) (arguments : List Json) : Bool :=
  match callback.guard, arguments with
  | some expected, argument :: _ => Json.sameKey expected argument
  | _, _ => true

/-- What a callback does when it has been called. -/
def proceed (operation : Step → Text) (perform : Step → m Json) (who : Nat)
    (callback : Callback Step) (arguments : List Json) : m Unit := do
  if callback.admits arguments then
    let cast ← getThe (Cast Step)
    unless cast.spent.contains who do
      modifyThe (Cast Step) fun cast => { cast with spent := who :: cast.spent }
      runScript operation perform callback.script
    if callback.raises then throw (.raised "boom")

/-- Calls a callback. -/
def invoke (operation : Step → Text) (perform : Step → m Json) (who : Nat)
    (arguments : List Json) : m Unit := do
  match (← getThe (Cast Step)).callbacks[who]? with
  | none => pure ()
  | some callback =>
    write (.called who callback.kind callback.name arguments)
    proceed operation perform who callback arguments

end

end LanguageSession
