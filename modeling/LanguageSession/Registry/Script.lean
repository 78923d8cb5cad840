import LanguageSession.Callback
import LanguageSession.Json.Access
import LanguageSession.Registry.Basic
import LanguageSession.Run

/-!
Scripts for a registry on its own.  Handlers are scripted, so they may use the
registry while they run.  A script runs at most once and every nested call belongs to
a script, so the number of steps in a script bounds the depth of its calls.
-/

namespace LanguageSession

namespace Registry

inductive Step where
  | register (id : Json) (handler : Callback Step)
  | resolve (message : Json)
  | pop (id : Json)
  | contains (id : Json)
  | clear

def Step.operation : Step → Text
  | .register _ _ => "register"
  | .resolve _ => "resolve"
  | .pop _ => "pop"
  | .contains _ => "contains"
  | .clear => "clear"

mutual

def Step.weight : Step → Nat
  | .register _ ⟨_, _, script, _, _⟩ => scriptWeight script + 1
  | _ => 1

def scriptWeight : List Step → Nat
  | [] => 0
  | step :: rest => step.weight + scriptWeight rest

end

/-- A registry whose handlers are callbacks, with the callbacks and the journal. -/
structure Scene where
  registry : Registry Nat := {}
  cast : Cast Step := {}
  journal : Journal := {}

instance : KeepsJournal Scene where
  journal := Scene.journal
  setJournal journal scene := { scene with journal := journal }

instance : MonadStateOf (Registry Nat) (Act Scene) :=
  zoom Scene.registry fun registry scene => { scene with registry := registry }

instance : MonadStateOf (Cast Step) (Act Scene) :=
  zoom Scene.cast fun cast scene => { scene with cast := cast }

/-- Performs a step; calls nest at most `depth` deep. -/
def perform : Nat → Step → Act Scene Json
  | 0, _ => throw .exhausted
  | depth + 1, step => do
    match step with
    | .register id handler =>
      let (who, cast) := (← getThe (Cast Step)).add handler
      let registry ← MonadExcept.ofExcept ((← getThe (Registry Nat)).register id who)
      set cast
      set registry
      return .null
    | .resolve message =>
      let call (who : Nat) (completion : Completion) : Act Scene Unit :=
        invoke Step.operation (perform depth) who completion.arguments
      MonadExcept.ofExcept message.checkMembers
      return .bool (← resolve call message)
    | .pop id =>
      let (found, rest) ← MonadExcept.ofExcept ((← getThe (Registry Nat)).take id)
      set rest
      match found with
      | none => return .null
      | some who => return .string ((← getThe (Cast Step)).name who)
    | .contains id =>
      return .bool (← MonadExcept.ofExcept ((← getThe (Registry Nat)).contains id))
    | .clear =>
      set ({} : Registry Nat)
      return .null

def play (script : List Step) : List (Turn Scene) :=
  turns (perform (scriptWeight script + 1)) {} script

end Registry

end LanguageSession
