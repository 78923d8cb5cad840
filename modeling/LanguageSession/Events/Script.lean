import LanguageSession.Callback
import LanguageSession.Events.Basic
import LanguageSession.Json.Access
import LanguageSession.Run

/-!
Scripts for subscriptions on their own.  Listeners are scripted, so they may
subscribe, unsubscribe and emit events while they are told one.  Two subscriptions
with the same channel and name belong to one listener.
-/

namespace LanguageSession

namespace Subscriptions

inductive Step where
  | subscribe (channel : Channel) (handle : Text) (listener : Callback Step)
  | unsubscribe (handle : Text)
  /-- Emits an event. -/
  | emit (event : Event)
  /-- Emits the event of a notification and says whether it stands for one. -/
  | route (message : Json)

def Step.operation : Step → Text
  | .subscribe _ _ _ => "subscribe"
  | .unsubscribe _ => "unsubscribe"
  | .emit event => event.channel.name
  | .route _ => "route"

mutual

def Step.weight : Step → Nat
  | .subscribe _ _ ⟨_, _, script, _, _⟩ => scriptWeight script + 1
  | _ => 1

def scriptWeight : List Step → Nat
  | [] => 0
  | step :: rest => step.weight + scriptWeight rest

end

/-- Subscriptions of callbacks, and under which handle each can be ended. -/
structure Scene where
  subscriptions : Subscriptions Nat := {}
  handles : List (Text × Channel × Nat) := []
  cast : Cast Step := {}
  journal : Journal := {}

instance : KeepsJournal Scene where
  journal := Scene.journal
  setJournal journal scene := { scene with journal := journal }

instance : MonadStateOf (Subscriptions Nat) (Act Scene) :=
  zoom Scene.subscriptions fun subscriptions scene => { scene with subscriptions := subscriptions }

instance : MonadStateOf (Cast Step) (Act Scene) :=
  zoom Scene.cast fun cast scene => { scene with cast := cast }

/-- The listener with this channel and name, made now if there is none. -/
def listenerFor (channel : Channel) (listener : Callback Step) : Act Scene Nat := do
  let cast ← getThe (Cast Step)
  match cast.find? channel.name listener.name with
  | some who => return who
  | none =>
    let (who, cast) := cast.add { listener with kind := channel.name }
    set cast
    return who

/-- Performs a step; calls nest at most `depth` deep. -/
def perform : Nat → Step → Act Scene Json
  | 0, _ => throw .exhausted
  | depth + 1, step => do
    let call (who : Nat) (event : Event) : Act Scene Unit :=
      invoke Step.operation (perform depth) who event.arguments
    let label (who : Nat) : Act Scene Text := do return (← getThe (Cast Step)).label who
    match step with
    | .subscribe channel handle listener =>
      let who ← listenerFor channel listener
      modifyThe (Subscriptions Nat) fun subscriptions => subscriptions.subscribe channel who
      modifyThe Scene fun scene => { scene with handles := (handle, channel, who) :: scene.handles }
      return .null
    | .unsubscribe handle =>
      match (← getThe Scene).handles.lookup handle with
      | none => return .null
      | some (channel, who) =>
        modifyThe (Subscriptions Nat) fun subscriptions => subscriptions.unsubscribe channel who
        return .null
    | .emit event =>
      emit call label event
      return .null
    | .route message =>
      MonadExcept.ofExcept message.checkMembers
      match Event.ofNotification? message with
      | none => return .bool false
      | some event =>
        emit call label event
        return .bool true

def play (script : List Step) : List (Turn Scene) :=
  turns (perform (scriptWeight script + 1)) {} script

end Subscriptions

end LanguageSession
