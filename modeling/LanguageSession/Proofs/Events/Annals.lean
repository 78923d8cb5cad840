import Mathlib
import LanguageSession.Events.Script
import LanguageSession.Proofs.Run

/-!
# Annals of a script

What a script does about subscriptions is written down beside the scene: every subscription, every
call of what ends one, every announcement of an event and whom it is told.  Subscriptions and
announcements are numbered as they come.  Keeping annals changes nothing about the scene.
-/

namespace LanguageSession

namespace Subscriptions

open Act

/-! ## Deeds -/

/-- A subscription of a listener; no other one has its number. -/
structure Subscription where
  number : Nat
  channel : Channel
  who : Nat
  deriving DecidableEq

inductive Deed where
  | subscribed (own : Subscription)
  /-- What ends this subscription is called. -/
  | cancelled (own : Subscription)
  | announced (number : Nat) (event : Event)
  /-- A listener is called because of the announcement with this number. -/
  | told (number : Nat) (event : Event) (who : Nat)

def Deed.isAnnouncement : Deed → Bool
  | .announced _ _ => true
  | _ => false

def announcementsIn (deeds : List Deed) : Nat := deeds.countP Deed.isAnnouncement

/-- The subscriptions under the handles, each with its number; the newest stand in front. -/
def numbered : List (Text × Channel × Nat) → List (Text × Subscription)
  | [] => []
  | (handle, channel, who) :: older => (handle, ⟨older.length, channel, who⟩) :: numbered older

theorem lookup_numbered (handle : Text) (handles : List (Text × Channel × Nat)) :
    handles.lookup handle =
      ((numbered handles).lookup handle).map fun own => (own.channel, own.who) := by
  induction handles with
  | nil => rfl
  | cons entry older ih =>
      obtain ⟨name, channel, who⟩ := entry
      rw [numbered, List.lookup_cons, List.lookup_cons, ih]
      split <;> rfl

/-! ## Keeping annals -/

structure Annals where
  scene : Scene := {}
  deeds : List Deed := []

namespace Annals

instance : KeepsJournal Annals where
  journal annals := annals.scene.journal
  setJournal journal annals := { annals with scene := { annals.scene with journal := journal } }

instance : MonadStateOf (Subscriptions Nat) (Act Annals) :=
  zoom (fun annals => annals.scene.subscriptions) fun subscriptions annals =>
    { annals with scene := { annals.scene with subscriptions := subscriptions } }

instance : MonadStateOf (Cast Step) (Act Annals) :=
  zoom (fun annals => annals.scene.cast) fun cast annals =>
    { annals with scene := { annals.scene with cast := cast } }

def noting (deed : Deed) (annals : Annals) : Annals :=
  { annals with deeds := annals.deeds ++ [deed] }

/-- Notes the newest subscription. -/
def notingSubscription (annals : Annals) : Annals :=
  match annals.scene.handles with
  | [] => annals
  | (_, channel, who) :: older => annals.noting (.subscribed ⟨older.length, channel, who⟩)

/-- Notes that what ends the subscription under this handle is called. -/
def notingCancellation (handle : Text) (annals : Annals) : Annals :=
  match (numbered annals.scene.handles).lookup handle with
  | none => annals
  | some own => annals.noting (.cancelled own)

end Annals

def inScene {α : Type} (action : Act Scene α) : Act Annals α := fun annals =>
  ((result action annals.scene).1, { annals with scene := (result action annals.scene).2 })

def labelOf (who : Nat) : Act Annals Text := do return (← getThe (Cast Step)).label who

section

variable (perform : Step → Act Annals Json)

/-- Calls a listener with the event of an announcement. -/
def tell (number who : Nat) (event : Event) : Act Annals Unit := do
  modifyThe Annals (Annals.noting (.told number event who))
  invoke Step.operation perform who event.arguments

def announce (event : Event) : Act Annals Unit := do
  let number := announcementsIn (← getThe Annals).deeds
  modifyThe Annals (Annals.noting (.announced number event))
  emit (tell perform number) labelOf event

end

/-- Performs a step and keeps annals of it. -/
def chronicle : Nat → Step → Act Annals Json
  | 0, _ => throw .exhausted
  | depth + 1, step => do
    match step with
    | .subscribe _ _ _ =>
      let result ← inScene (perform (depth + 1) step)
      modifyThe Annals Annals.notingSubscription
      return result
    | .unsubscribe handle =>
      modifyThe Annals (Annals.notingCancellation handle)
      inScene (perform (depth + 1) step)
    | .emit event =>
      announce (chronicle depth) event
      return .null
    | .route message =>
      MonadExcept.ofExcept message.checkMembers
      match Event.ofNotification? message with
      | none => return .bool false
      | some event =>
        announce (chronicle depth) event
        return .bool true

def chronicles (script : List Step) : List (Turn Annals) :=
  turns (chronicle (scriptWeight script + 1)) {} script

/-! ## The scene is the same -/

section

variable {α β : Type}

def Follows (first : Act Annals α) (second : Act Scene α) : Prop :=
  ∀ annals, result second annals.scene = ((result first annals).1, (result first annals).2.scene)

theorem follows_inScene (action : Act Scene α) : Follows (inScene action) action := fun _ => rfl

theorem follows_pure (value : α) : Follows (pure value) (pure value) := fun _ => rfl

theorem follows_throw (fault : Fault) :
    Follows (throw fault : Act Annals α) (throw fault) := fun _ => rfl

theorem follows_ofExcept (value : Except Fault α) :
    Follows (MonadExcept.ofExcept value) (MonadExcept.ofExcept value) := by
  cases value with
  | ok value => exact follows_pure value
  | error fault => exact follows_throw fault

theorem follows_write (entry : Entry) : Follows (write entry) (write entry) := fun _ => rfl

theorem follows_getCast : Follows (getThe (Cast Step)) (getThe (Cast Step)) := fun _ => rfl

theorem follows_modifyCast (change : Cast Step → Cast Step) :
    Follows (modifyThe (Cast Step) change) (modifyThe (Cast Step) change) := fun _ => rfl

theorem follows_getSubscriptions :
    Follows (getThe (Subscriptions Nat)) (getThe (Subscriptions Nat)) := fun _ => rfl

theorem Follows.bind {first : Act Annals α} {second : Act Scene α} {next : α → Act Annals β}
    {next' : α → Act Scene β} (begins : Follows first second)
    (goes_on : ∀ value, Follows (next value) (next' value)) :
    Follows (first >>= next) (second >>= next') := by
  intro annals
  rw [result_bind, result_bind, begins annals]
  rcases result first annals with ⟨ending, after⟩
  cases ending with
  | ok value => exact goes_on value after
  | error fault => rfl

theorem Follows.tryCatch {first : Act Annals α} {second : Act Scene α}
    {rescue : Fault → Act Annals α} {rescue' : Fault → Act Scene α} (tries : Follows first second)
    (rescues : ∀ fault, Follows (rescue fault) (rescue' fault)) :
    Follows (tryCatch first rescue) (tryCatch second rescue') := by
  intro annals
  rw [result_tryCatch, result_tryCatch, tries annals]
  rcases result first annals with ⟨ending, after⟩
  cases ending with
  | ok value => rfl
  | error fault => exact rescues fault after

theorem Follows.forM {first : β → Act Annals PUnit} {second : β → Act Scene PUnit}
    (each : ∀ item, Follows (first item) (second item)) (list : List β) :
    Follows (list.forM first) (list.forM second) := by
  induction list with
  | nil => exact follows_pure _
  | cons item rest ih => exact (each item).bind fun _ => ih

theorem Follows.noted {change : Annals → Annals} {next : Act Annals α} {second : Act Scene α}
    (same : ∀ annals, (change annals).scene = annals.scene) (goes_on : Follows next second) :
    Follows (modifyThe Annals change >>= fun _ => next) second := by
  intro annals
  have noted : result (modifyThe Annals change) annals = (.ok (), change annals) := rfl
  rw [result_bind, noted, ← same annals]
  exact goes_on (change annals)

theorem Follows.noting {change : Annals → Annals} {first : Act Annals α} {second : Act Scene α}
    (follows : Follows first second) (same : ∀ annals, (change annals).scene = annals.scene) :
    Follows (first >>= fun value => modifyThe Annals change >>= fun _ => pure value) second := by
  intro annals
  rw [result_bind, follows annals]
  rcases result first annals with ⟨ending, after⟩
  cases ending with
  | ok value => exact congrArg (Prod.mk _) (same after).symm
  | error fault => rfl

theorem Follows.got {next : Annals → Act Annals α} {second : Act Scene α}
    (goes_on : ∀ annals, Follows (next annals) second) :
    Follows (getThe Annals >>= next) second := by
  intro annals
  have got : result (getThe Annals) annals = (.ok annals, annals) := rfl
  rw [result_bind, got]
  exact goes_on annals annals

end

section

variable {perform : Step → Act Annals Json} {perform' : Step → Act Scene Json}

theorem follows_runScript (same : ∀ step, Follows (perform step) (perform' step))
    (script : List Step) :
    Follows (runScript Step.operation perform script) (runScript Step.operation perform' script) :=
  Follows.forM (fun step => (follows_write _).bind fun _ => (same step).bind fun _ =>
    follows_write _) script

theorem follows_proceed (same : ∀ step, Follows (perform step) (perform' step)) (who : Nat)
    (callback : Callback Step) (arguments : List Json) :
    Follows (proceed Step.operation perform who callback arguments)
      (proceed Step.operation perform' who callback arguments) := by
  have raises : Follows (if callback.raises then throw (.raised "boom") else pure ())
      (if callback.raises then throw (.raised "boom") else pure ()) := by
    split
    · exact follows_throw _
    · exact follows_pure _
  unfold proceed
  split
  · refine follows_getCast.bind fun cast => ?_
    dsimp only
    by_cases spent : cast.spent.contains who = true
    · rw [if_pos spent, if_pos spent]
      exact raises
    · rw [if_neg spent, if_neg spent]
      exact (follows_modifyCast _).bind fun _ =>
        (follows_runScript same callback.script).bind fun _ => raises
  · exact follows_pure _

theorem follows_invoke (same : ∀ step, Follows (perform step) (perform' step)) (who : Nat)
    (arguments : List Json) :
    Follows (invoke Step.operation perform who arguments)
      (invoke Step.operation perform' who arguments) := by
  refine follows_getCast.bind fun cast => ?_
  split
  · exact follows_pure _
  · exact (follows_write _).bind fun _ => follows_proceed same who _ arguments

theorem follows_emit {call : Nat → Event → Act Annals Unit} {call' : Nat → Event → Act Scene Unit}
    {label : Nat → Act Annals Text} {label' : Nat → Act Scene Text}
    (calls : ∀ who event, Follows (call who event) (call' who event))
    (labels : ∀ who, Follows (label who) (label' who)) (event : Event) :
    Follows (emit call label event) (emit call' label' event) := by
  refine follows_getSubscriptions.bind fun subscriptions => (follows_write _).bind fun _ => ?_
  refine Follows.forM (fun who => ?_) _
  exact (calls who event).tryCatch fun _ => (labels who).bind fun _ => follows_write _

end

@[simp] theorem notingSubscription_scene (annals : Annals) :
    annals.notingSubscription.scene = annals.scene := by
  unfold Annals.notingSubscription
  split <;> rfl

@[simp] theorem notingCancellation_scene (handle : Text) (annals : Annals) :
    (annals.notingCancellation handle).scene = annals.scene := by
  unfold Annals.notingCancellation
  split <;> rfl

/-- Whatever the steps of the listeners do, an announcement is an emission. -/
theorem follows_announce {nested : Step → Act Annals Json} {nested' : Step → Act Scene Json}
    (same : ∀ step, Follows (nested step) (nested' step)) (event : Event) :
    Follows (announce nested event)
      (emit (fun who event => invoke Step.operation nested' who event.arguments)
        (fun who => do return (← getThe (Cast Step)).label who) event) := by
  refine Follows.got fun annals => Follows.noted (fun _ => rfl) ?_
  refine follows_emit (fun who event => ?_) (fun who => ?_) event
  · exact Follows.noted (fun _ => rfl) (follows_invoke same who event.arguments)
  · exact follows_getCast.bind fun cast => follows_pure _

theorem follows_chronicle (depth : Nat) (step : Step) :
    Follows (chronicle depth step) (perform depth step) := by
  induction depth generalizing step with
  | zero => exact follows_throw _
  | succ depth ih =>
      cases step with
      | subscribe channel handle listener =>
          exact (follows_inScene _).noting notingSubscription_scene
      | unsubscribe handle =>
          exact Follows.noted (notingCancellation_scene handle) (follows_inScene _)
      | emit event => exact (follows_announce ih event).bind fun _ => follows_pure _
      | route message =>
          refine (follows_ofExcept _).bind fun _ => ?_
          cases found : Event.ofNotification? message with
          | none => exact follows_pure _
          | some event => exact (follows_announce ih event).bind fun _ => follows_pure _

def sceneOf (turn : Turn Annals) : Turn Scene := ⟨turn.outcome, turn.entries, turn.after.scene⟩

theorem turns_chronicle (depth : Nat) (script : List Step) (annals : Annals) :
    (turns (chronicle depth) annals script).map sceneOf =
      turns (perform depth) annals.scene script := by
  induction script generalizing annals with
  | nil => rfl
  | cons step rest ih =>
      have first : sceneOf (turn (chronicle depth) annals step) =
          turn (perform depth) annals.scene step := by
        have follows := follows_chronicle depth step annals
        simp only [result] at follows
        simp only [turn, sceneOf, follows]
        rfl
      rw [turns, turns, List.map_cons, first, ih, ← first]
      rfl

theorem chronicles_sceneOf (script : List Step) : (chronicles script).map sceneOf = play script :=
  turns_chronicle _ script {}

end Subscriptions

end LanguageSession
