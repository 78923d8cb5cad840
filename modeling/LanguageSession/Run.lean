import LanguageSession.Journal

/-!
Runs of steps.  A step acts on a state that keeps a journal, and may fail; what it
changed before it failed stays changed.  Each turn of a run shows how the step ended,
what it added to the journal, and the state after it.
-/

namespace LanguageSession

structure Journal where
  entries : List Entry := []
  deriving Repr

/-- Steps on a state; the changes of a failed step are kept. -/
abbrev Act (State : Type) := ExceptT Fault (StateM State)

class KeepsJournal (State : Type) where
  journal : State → Journal
  setJournal : Journal → State → State

variable {State Step : Type}

def KeepsJournal.add [KeepsJournal State] (entry : Entry) (state : State) : State :=
  setJournal ⟨(journal state).entries ++ [entry]⟩ state

instance [KeepsJournal State] : Journaling (Act State) where
  write entry := modifyThe State (KeepsJournal.add entry)

/-- Access to a part of the state. -/
@[reducible] def zoom {α : Type} (read : State → α) (replace : α → State → State) :
    MonadStateOf α (Act State) where
  get := do return read (← getThe State)
  set part := modifyThe State (replace part)
  modifyGet f := do
    let (result, part) := f (read (← getThe State))
    modifyThe State (replace part)
    return result

structure Turn (State : Type) where
  outcome : Except Fault Json
  entries : List Entry
  after : State

def turn [KeepsJournal State] (perform : Step → Act State Json) (state : State) (step : Step) :
    Turn State :=
  let (outcome, after) := ((perform step).run).run state
  let earlier := (KeepsJournal.journal state).entries.length
  ⟨outcome, (KeepsJournal.journal after).entries.drop earlier, after⟩

/-- The turns of a run, each from the state that the one before it left. -/
def turns [KeepsJournal State] (perform : Step → Act State Json) (state : State) :
    List Step → List (Turn State)
  | [] => []
  | step :: rest =>
    let first := turn perform state step
    first :: turns perform first.after rest

end LanguageSession
