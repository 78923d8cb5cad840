import Mathlib
import LanguageSession.Events.Script
import LanguageSession.Proofs.Callback

/-!
# How deep the calls of a script nest

A call nests deeper only where a listener runs its script, which it does once.  What the scripts
weigh that have not been run bounds the depth, so a script is played with depth to spare, and more
of it changes nothing.
-/

namespace LanguageSession

namespace Subscriptions

open Act

instance : HoldsCast Step Scene where
  cast := Scene.cast
  setCast cast scene := { scene with cast := cast }
  result_get _ := rfl
  result_modify _ _ := rfl
  cast_setCast _ _ := rfl
  cast_add _ _ := rfl

theorem weightOf_eq (script : List Step) : weightOf Step.weight script = scriptWeight script := by
  induction script with
  | nil => rfl
  | cons step rest ih =>
      rw [scriptWeight, ← ih]
      rfl

theorem weight_pos (step : Step) : 0 < step.weight := by
  cases step <;> simp [Step.weight]

/-! ## Subscribing -/

/-- The listener is in the cast afterwards, and nothing else has changed. -/
theorem result_listenerFor (channel : Channel) (listener : Callback Step) (scene : Scene) :
    ∃ who cast, result (listenerFor channel listener) scene =
        (.ok who, { scene with cast := cast }) ∧
      who < cast.callbacks.length ∧ scene.cast.callbacks.length ≤ cast.callbacks.length ∧
      cast.unspent Step.weight ≤
        scene.cast.unspent Step.weight + weightOf Step.weight listener.script := by
  have begins : result (getThe (Cast Step)) scene = (.ok scene.cast, scene) := rfl
  cases found : scene.cast.find? channel.name listener.name with
  | some who =>
      refine ⟨who, scene.cast, ?_, (List.findIdx?_eq_some_iff_findIdx_eq.mp found).1, le_rfl,
        Nat.le_add_right _ _⟩
      rw [listenerFor, result_bind, begins]
      simp only [found]
      rfl
  | none =>
      let added := scene.cast.add { listener with kind := channel.name }
      have length : added.2.callbacks.length = scene.cast.callbacks.length + 1 :=
        List.length_append
      refine ⟨added.1, added.2, ?_, length ▸ Nat.lt_succ_self _, length ▸ Nat.le_succ _,
        Cast.unspent_add _ _ _⟩
      rw [listenerFor, result_bind, begins]
      simp only [found]
      rfl

/-- Someone from the cast has subscribed. -/
def Scene.subscribed (scene : Scene) (channel : Channel) (handle : Text) (who : Nat)
    (cast : Cast Step) : Scene :=
  { scene with
    subscriptions := scene.subscriptions.subscribe channel who
    handles := (handle, channel, who) :: scene.handles
    cast := cast }

theorem result_subscribe (depth : Nat) (channel : Channel) (handle : Text)
    (listener : Callback Step) (scene : Scene) :
    ∃ who cast, result (perform (depth + 1) (.subscribe channel handle listener)) scene =
        (.ok .null, scene.subscribed channel handle who cast) ∧
      who < cast.callbacks.length ∧ scene.cast.callbacks.length ≤ cast.callbacks.length ∧
      cast.unspent Step.weight ≤
        scene.cast.unspent Step.weight + weightOf Step.weight listener.script := by
  obtain ⟨who, cast, found, bounds⟩ := result_listenerFor channel listener scene
  refine ⟨who, cast, ?_, bounds⟩
  simp only [perform]
  rw [result_bind, found]
  rfl

/-! ## Two ways to perform nested steps -/

section

variable {room bound : Nat} {nested nested' : Step → Act Scene Json} {scene : Scene}

theorem mirrors_ofExcept {α β : Type} {value : Except Fault β} {next next' : β → Act Scene α}
    {post : Except Fault α → Scene → Prop} (fails : ∀ fault, post (.error fault) scene)
    (goes_on : ∀ value, Mirrors (next value) (next' value) scene post) :
    Mirrors (MonadExcept.ofExcept value >>= next) (MonadExcept.ofExcept value >>= next') scene
      post := by
  cases value with
  | error fault => exact .same (fails fault)
  | ok value => exact goes_on value

theorem emit_mirrors (alike : AlikeWithin Step.weight room nested nested') (enough : bound ≤ room)
    (event : Event) (fits : scene.cast.unspent Step.weight ≤ bound) :
    Mirrors
      (emit (fun who event => invoke Step.operation nested who event.arguments)
        (fun who => do return (← getThe (Cast Step)).label who) event)
      (emit (fun who event => invoke Step.operation nested' who event.arguments)
        (fun who => do return (← getThe (Cast Step)).label who) event) scene
      fun _ after => after.cast.unspent Step.weight ≤ bound := by
  let base := KeepsJournal.add (.emitted event) scene
  have tells (who : Nat) (middle : Scene) (left : middle.cast.unspent Step.weight ≤ bound) :
      Mirrors
        (contain (invoke Step.operation nested who event.arguments)
          do record (Log.listenerFailed ((← getThe (Cast Step)).label who)))
        (contain (invoke Step.operation nested' who event.arguments)
          do record (Log.listenerFailed ((← getThe (Cast Step)).label who))) middle
        fun _ after => after.cast.unspent Step.weight ≤ bound := by
    refine Mirrors.tryCatch (invoke_mirrors weight_pos alike enough who event.arguments left)
      (fun _ _ left => left) fun _ _ left => ?_
    exact .same left
  have all : Mirrors
      ((scene.subscriptions.on event.channel).forM fun who =>
        contain (invoke Step.operation nested who event.arguments)
          do record (Log.listenerFailed ((← getThe (Cast Step)).label who)))
      ((scene.subscriptions.on event.channel).forM fun who =>
        contain (invoke Step.operation nested' who event.arguments)
          do record (Log.listenerFailed ((← getThe (Cast Step)).label who))) base
      fun _ after => after.cast.unspent Step.weight ≤ bound :=
    Mirrors.forM (fun who _ => tells who) fits
  exact all

end

/-! ## Depth to spare -/

theorem weight_subscribe (channel : Channel) (handle : Text) (listener : Callback Step) :
    (Step.subscribe channel handle listener).weight =
      weightOf Step.weight listener.script + 1 := by
  rw [weightOf_eq]
  cases listener
  rfl

theorem unsubscribe_cast (depth : Nat) (handle : Text) (scene : Scene) :
    Ensures (perform (depth + 1) (.unsubscribe handle)) scene fun _ after =>
      after.cast = scene.cast := by
  simp only [perform, ensures_bind, ensures_get]
  split
  · exact rfl
  · exact rfl

/-- More depth than there is unspent makes no difference. -/
theorem perform_alike (depth extra : Nat) :
    AlikeWithin Step.weight depth (perform depth) (perform (depth + extra)) := by
  -- on the depth: a listener is called with one level less, and less of the cast is unspent
  induction depth with
  | zero => exact fun _ _ room => absurd room (Nat.not_lt_zero _)
  | succ depth ih =>
      intro step scene room
      have enough : scene.cast.unspent Step.weight ≤ depth := Nat.le_of_lt_succ room
      have emits (event : Event) := emit_mirrors ih enough event le_rfl
      rw [Nat.succ_add]
      cases step with
      | subscribe channel handle listener =>
          obtain ⟨who, cast, ends, -, -, left⟩ :=
            result_subscribe depth channel handle listener scene
          refine ⟨rfl, ?_⟩
          rw [Ensures, ends, weight_subscribe]
          exact Nat.succ_le_succ left
      | unsubscribe handle =>
          refine .same ((unsubscribe_cast depth handle scene).mono fun _ after same => ?_)
          change after.cast.unspent Step.weight + 1 ≤ scene.cast.unspent Step.weight + 1
          rw [same]
      | emit event =>
          refine (emits event).bind (fun _ _ left => Nat.succ_le_succ left) fun _ _ left => ?_
          exact .same (Nat.succ_le_succ left)
      | route message =>
          have stays : scene.cast.unspent Step.weight + 1 ≤
              scene.cast.unspent Step.weight + (Step.route message).weight :=
            le_rfl
          refine mirrors_ofExcept (fun _ => stays) fun _ => ?_
          cases Event.ofNotification? message with
          | none => exact .same stays
          | some event =>
              refine (emits event).bind (fun _ _ left => Nat.succ_le_succ left) fun _ _ left => ?_
              exact .same (Nat.succ_le_succ left)

theorem play_eq_turns (script : List Step) (extra : Nat) :
    turns (perform (scriptWeight script + 1 + extra)) {} script = play script :=
  turns_alike (perform_alike _ extra) (Nat.lt_succ_of_le (weightOf_eq script ▸ (Nat.zero_add _).le))

end Subscriptions

end LanguageSession
