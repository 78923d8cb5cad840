import Mathlib
import LanguageSession.Proofs.Callback
import LanguageSession.Proofs.Registry
import LanguageSession.Registry.Script

/-!
# Steps of a registry's script

Each step is told by what it brings about.  A step that fails changes nothing.  A handler is called
at most once for each time that it was registered, since it has left the registry when it is
called.  More depth than a script weighs makes no difference.
-/

namespace LanguageSession

namespace Registry

open Act

instance : HoldsCast Step Scene where
  cast := Scene.cast
  setCast cast scene := { scene with cast := cast }
  result_get _ := rfl
  result_modify _ _ := rfl
  cast_setCast _ _ := rfl
  cast_add _ _ := rfl

/-! ## What steps bring about -/

/-- A handler is called with a response, and a failure of it is noted. -/
def deliver (depth : Nat) (who : Nat) (message : Json) : Act Scene Unit :=
  contain (invoke Step.operation (perform depth) who (Completion.ofResponse message).arguments)
    (record (Log.handlerFailed (message.member "id")))

theorem succeeds_deliver (depth who : Nat) (message : Json) :
    Succeeds (deliver depth who message) :=
  Succeeds.tryCatch fun _ => succeeds_write _

variable (depth : Nat) (scene : Scene)

theorem result_register (id : Json) (handler : Callback Step) :
    result (perform (depth + 1) (.register id handler)) scene =
      match scene.registry.register id scene.cast.callbacks.length with
      | .error fault => (.error fault, scene)
      | .ok registry =>
        (.ok .null, { scene with cast := (scene.cast.add handler).2, registry := registry }) := by
  change result (MonadExcept.ofExcept (scene.registry.register id scene.cast.callbacks.length) >>= _)
    scene = _
  cases scene.registry.register id scene.cast.callbacks.length with
  | error fault => rfl
  | ok registry => rfl

theorem result_resolve (message : Json) :
    result (perform (depth + 1) (.resolve message)) scene =
      match message.checkMembers with
      | .error fault => (.error fault, scene)
      | .ok _ =>
        match scene.registry.take (message.member "id") with
        | .error fault => (.error fault, scene)
        | .ok (none, _) =>
          (.ok (.bool false),
            KeepsJournal.add (.logged (Log.untrackedResponse (message.member "id"))) scene)
        | .ok (some who, rest) =>
          (.ok (.bool true), after (deliver depth who message) { scene with registry := rest }) := by
  change result (MonadExcept.ofExcept message.checkMembers >>= _) scene = _
  cases message.checkMembers with
  | error fault => rfl
  | ok _ =>
      change result ((MonadExcept.ofExcept (scene.registry.take (message.member "id")) >>= _) >>= _)
        scene = _
      rcases scene.registry.take (message.member "id") with fault | ⟨_ | who, rest⟩
      · rfl
      · rfl
      · change result ((deliver depth who message >>= fun _ => pure true) >>= _)
          { scene with registry := rest } = _
        rw [result_bind, (succeeds_deliver depth who message).result_bind]
        rfl

theorem result_pop (id : Json) :
    result (perform (depth + 1) (.pop id)) scene =
      match scene.registry.take id with
      | .error fault => (.error fault, scene)
      | .ok (found, rest) =>
        (.ok ((found.map fun who => Json.string (scene.cast.name who)).getD .null),
          { scene with registry := rest }) := by
  change result (MonadExcept.ofExcept (scene.registry.take id) >>= _) scene = _
  rcases scene.registry.take id with fault | ⟨_ | who, rest⟩
  · rfl
  · rfl
  · rfl

theorem result_contains (id : Json) :
    result (perform (depth + 1) (.contains id)) scene =
      ((scene.registry.contains id).map Json.bool, scene) := by
  change result (MonadExcept.ofExcept (scene.registry.contains id) >>= _) scene = _
  cases scene.registry.contains id with
  | error fault => rfl
  | ok found => rfl

/-- A step that fails has changed nothing. -/
theorem unchanged_of_error {depth : Nat} {scene : Scene} {step : Step} {fault : Fault}
    (failed : (result (perform depth step) scene).1 = .error fault) :
    after (perform depth step) scene = scene := by
  rw [after]
  cases depth with
  | zero => rfl
  | succ depth =>
      cases step with
      | register id handler =>
          rw [result_register] at failed ⊢
          cases registered : scene.registry.register id scene.cast.callbacks.length with
          | error _ => rfl
          | ok registry =>
              rw [registered] at failed
              cases failed
      | resolve message =>
          rw [result_resolve] at failed ⊢
          cases checked : message.checkMembers with
          | error _ => rfl
          | ok _ =>
              rw [checked] at failed
              rcases taken : scene.registry.take (message.member "id") with _ | ⟨_ | who, rest⟩
              · rfl
              · rw [taken] at failed
                cases failed
              · rw [taken] at failed
                cases failed
      | pop id =>
          rw [result_pop] at failed ⊢
          cases taken : scene.registry.take id with
          | error _ => rfl
          | ok found =>
              rw [taken] at failed
              cases failed
      | contains id => rw [result_contains]
      | clear => cases failed

/-! ## Calls -/

/-- Who was called, in the order of the calls. -/
def callees (entries : List Entry) : List Nat :=
  entries.filterMap fun
    | .called who _ _ _ => some who
    | _ => none

/--
Nobody was called twice, and who waits has not been called and does not wait twice.  All are from
the cast, so a new handler is none of them.
-/
structure Fair (scene : Scene) : Prop where
  once : (callees scene.journal.entries ++ scene.registry.entries.map Prod.snd).Nodup
  known : ∀ who ∈ callees scene.journal.entries ++ scene.registry.entries.map Prod.snd,
    who < scene.cast.callbacks.length

theorem fair_start : Fair {} := ⟨List.nodup_nil, nofun⟩

theorem callees_append (entries : List Entry) (entry : Entry) :
    callees (entries ++ [entry]) = callees entries ++ callees [entry] := List.filterMap_append

section

variable {depth : Nat} {scene : Scene}

theorem Fair.add (fair : Fair scene) {entry : Entry} (silent : callees [entry] = []) :
    Fair (KeepsJournal.add entry scene) := by
  have same : callees (KeepsJournal.add entry scene).journal.entries =
      callees scene.journal.entries := by
    refine (callees_append _ entry).trans ?_
    rw [silent, List.append_nil]
    rfl
  refine ⟨?_, ?_⟩
  · rw [same]
    exact fair.once
  · rw [same]
    exact fair.known

theorem Fair.fewer (fair : Fair scene) {rest : Registry Nat}
    (fewer : rest.entries.Sublist scene.registry.entries) :
    Fair { scene with registry := rest } := by
  have sublist := (List.Sublist.refl (callees scene.journal.entries)).append (fewer.map Prod.snd)
  exact ⟨fair.once.sublist sublist, fun who member => fair.known who (sublist.mem member)⟩

theorem insert_split {Handler : Type} (id : Json) (handler : Handler)
    (entries : List (Json × Handler)) :
    ∃ before key later, insert id handler entries = before ++ (key, handler) :: later ∧
      (before ++ later).Sublist entries := by
  induction entries with
  | nil => exact ⟨[], id, [], rfl, .refl []⟩
  | cons entry rest ih =>
      rw [insert]
      split
      · exact ⟨[], entry.1, rest, rfl, List.sublist_cons_self entry rest⟩
      · obtain ⟨before, key, later, split, fewer⟩ := ih
        exact ⟨entry :: before, key, later, congrArg _ split, fewer.cons_cons entry⟩

theorem Fair.register (fair : Fair scene) (id : Json) (handler : Callback Step) :
    Fair { scene with
      cast := (scene.cast.add handler).2
      registry := ⟨insert id scene.cast.callbacks.length scene.registry.entries⟩ } := by
  obtain ⟨before, key, later, split, fewer⟩ :=
    insert_split id scene.cast.callbacks.length scene.registry.entries
  have sublist : (callees scene.journal.entries ++ (before ++ later).map Prod.snd).Sublist
      (callees scene.journal.entries ++ scene.registry.entries.map Prod.snd) :=
    (List.Sublist.refl _).append (fewer.map Prod.snd)
  have perm : (callees scene.journal.entries ++
      (insert id scene.cast.callbacks.length scene.registry.entries).map Prod.snd).Perm
      (scene.cast.callbacks.length ::
        (callees scene.journal.entries ++ (before ++ later).map Prod.snd)) := by
    rw [split, List.map_append, List.map_cons, List.map_append, ← List.append_assoc,
      ← List.append_assoc]
    exact List.perm_middle
  have older (who : Nat)
      (member : who ∈ callees scene.journal.entries ++ (before ++ later).map Prod.snd) :
      who < scene.cast.callbacks.length := fair.known who (sublist.mem member)
  refine ⟨perm.nodup_iff.mpr (List.nodup_cons.mpr ⟨?_, fair.once.sublist sublist⟩), ?_⟩
  · exact fun member => lt_irrefl _ (older _ member)
  · intro who member
    have length : (scene.cast.add handler).2.callbacks.length = scene.cast.callbacks.length + 1 :=
      List.length_append
    rw [length]
    rcases List.mem_cons.mp (perm.mem_iff.mp member) with rfl | before
    · exact Nat.lt_succ_self _
    · exact Nat.lt_succ_of_lt (older who before)

theorem Fair.call (fair : Fair scene) {before later : List (Json × Nat)} {key : Json} {who : Nat}
    (split : scene.registry.entries = before ++ (key, who) :: later) (kind name : Text)
    (arguments : List Json) :
    Fair (KeepsJournal.add (.called who kind name arguments)
      { scene with registry := ⟨before ++ later⟩ }) := by
  have perm : (callees (scene.journal.entries ++ [.called who kind name arguments]) ++
      (before ++ later).map Prod.snd).Perm
      (callees scene.journal.entries ++ scene.registry.entries.map Prod.snd) := by
    have last : callees [Entry.called who kind name arguments] = [who] := rfl
    rw [callees_append, last, split, List.map_append, List.map_append, List.map_cons,
      List.append_assoc, List.singleton_append]
    exact List.perm_middle.symm.append_left _
  exact ⟨perm.nodup_iff.mpr fair.once, fun other member =>
    fair.known other (perm.mem_iff.mp member)⟩

theorem allowsScripts_fair : AllowsScripts (Keeping Fair) where
  marking _ entry marks fair := by
    cases entry with
    | doing operation => exact fair.add rfl
    | did operation result => exact fair.add rfl
    | _ => exact marks.elim
  spending _ _ fair := ⟨fair.once, fair.known⟩

theorem Fair.deliver (performs : ∀ step, Within (Keeping Fair) (perform depth step))
    (fair : Fair scene) {before later : List (Json × Nat)} {key : Json} {who : Nat}
    (split : scene.registry.entries = before ++ (key, who) :: later) (message : Json) :
    Ensures (deliver depth who message) { scene with registry := ⟨before ++ later⟩ }
      fun _ => Fair := by
  have calls : Ensures
      (invoke Step.operation (perform depth) who (Completion.ofResponse message).arguments)
      { scene with registry := ⟨before ++ later⟩ } fun _ => Fair := by
    rw [Ensures, result_invoke]
    cases (cast { scene with registry := ⟨before ++ later⟩ }).callbacks[who]? with
    | none => exact fair.fewer (sublist_of_split split)
    | some callback =>
        have begun := fair.call split callback.kind callback.name
          (Completion.ofResponse message).arguments
        exact allowsScripts_fair.proceed who _ (fun step _ => performs step) _ begun
  rw [Registry.deliver, contain, ensures_tryCatch]
  refine calls.mono fun ending middle fair => ?_
  cases ending with
  | ok _ => exact fair
  | error fault => exact fair.add rfl

/-- Whatever a step does, it calls nobody twice. -/
theorem fair_perform (depth : Nat) (step : Step) : Within (Keeping Fair) (perform depth step) := by
  -- on the depth, which the script of a handler that is called has one less of
  induction depth generalizing step with
  | zero => exact within_throw _
  | succ depth ih =>
      intro scene fair
      cases step with
      | register id handler =>
          rw [result_register, Registry.register]
          cases id.checkKey with
          | error fault => exact fair
          | ok _ => exact fair.register id handler
      | resolve message =>
          rw [result_resolve]
          cases message.checkMembers with
          | error fault => exact fair
          | ok _ =>
              rcases take_cases scene.registry (message.member "id") with
                ⟨fault, -, refused⟩ | missed | ⟨before, later, key, who, split, -, taken⟩
              · rw [refused]
                exact fair
              · rw [missed]
                exact fair.add rfl
              · rw [taken]
                exact fair.deliver ih split message
      | pop id =>
          rw [result_pop]
          rcases take_cases scene.registry id with
            ⟨fault, -, refused⟩ | missed | ⟨before, later, key, who, split, -, taken⟩
          · rw [refused]
            exact fair
          · rw [missed]
            exact fair
          · rw [taken]
            exact fair.fewer (sublist_of_split split)
      | contains id =>
          rw [result_contains]
          exact fair
      | clear => exact fair.fewer (List.nil_sublist _)

theorem fair_play (script : List Step) : Fair (leftBy {} (play script)) :=
  leftBy_turns (fun step _ _ fair => fair_perform _ step _ fair) fair_start

end

/-! ## Depth -/

theorem weightOf_eq (script : List Step) : weightOf Step.weight script = scriptWeight script := by
  induction script with
  | nil => rfl
  | cons step rest ih =>
      rw [scriptWeight, ← ih]
      rfl

theorem weight_pos (step : Step) : 0 < step.weight := by
  cases step <;> simp [Step.weight]

theorem weight_register (id : Json) (handler : Callback Step) :
    (Step.register id handler).weight = weightOf Step.weight handler.script + 1 := by
  rw [weightOf_eq]
  cases handler
  rfl

theorem deliver_mirrors {depth extra : Nat}
    (alike : AlikeWithin Step.weight depth (perform depth) (perform (depth + extra)))
    (scene : Scene) (enough : scene.cast.unspent Step.weight ≤ depth) (who : Nat) (message : Json) :
    Mirrors (deliver depth who message) (deliver (depth + extra) who message) scene
      fun _ after => after.cast.unspent Step.weight ≤ scene.cast.unspent Step.weight := by
  refine Mirrors.tryCatch (invoke_mirrors weight_pos alike enough who _ le_rfl)
    (fun _ _ left => left) fun _ _ left => ?_
  exact .same left

/-- More depth than there is unspent makes no difference. -/
theorem perform_alike (depth extra : Nat) :
    AlikeWithin Step.weight depth (perform depth) (perform (depth + extra)) := by
  -- on the depth: running a script uses up its weight, so what is left fits into
  -- one level less
  induction depth with
  | zero => exact fun _ _ room => absurd room (Nat.not_lt_zero _)
  | succ depth ih =>
      intro step scene room
      have enough : scene.cast.unspent Step.weight ≤ depth := Nat.le_of_lt_succ room
      have stays : scene.cast.unspent Step.weight + 1 ≤
          scene.cast.unspent Step.weight + step.weight := Nat.add_le_add_left (weight_pos step) _
      rw [Nat.succ_add, Mirrors, Ensures]
      cases step with
      | register id handler =>
          rw [result_register, result_register]
          refine ⟨rfl, ?_⟩
          cases scene.registry.register id scene.cast.callbacks.length with
          | error fault => exact stays
          | ok registry =>
              rw [weight_register]
              exact Nat.succ_le_succ (Cast.unspent_add Step.weight scene.cast handler)
      | resolve message =>
          rw [result_resolve, result_resolve]
          cases message.checkMembers with
          | error fault => exact ⟨rfl, stays⟩
          | ok _ =>
              rcases scene.registry.take (message.member "id") with fault | ⟨_ | who, rest⟩
              · exact ⟨rfl, stays⟩
              · exact ⟨rfl, stays⟩
              · have same := deliver_mirrors ih { scene with registry := rest } enough who message
                refine ⟨?_, Nat.succ_le_succ same.2⟩
                simp only [after, same.1]
      | pop id =>
          rw [result_pop, result_pop]
          refine ⟨rfl, ?_⟩
          cases scene.registry.take id with
          | error fault => exact stays
          | ok found => exact stays
      | contains id =>
          rw [result_contains, result_contains]
          exact ⟨rfl, stays⟩
      | clear => exact ⟨rfl, stays⟩

theorem turns_eq_play (script : List Step) (extra : Nat) :
    turns (perform (scriptWeight script + 1 + extra)) {} script = play script := by
  refine turns_alike (perform_alike _ extra) (Nat.lt_succ_of_le ?_)
  rw [weightOf_eq]
  exact (Nat.zero_add _).le

end Registry

end LanguageSession
