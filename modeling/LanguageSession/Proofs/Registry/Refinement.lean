import Mathlib
import LanguageSession.Proofs.Registry.Map
import LanguageSession.Proofs.Registry.Steps

/-!
# Scripts on a finite map

The steps of a registry's script are performed on a finite map as well, whose keys are compared as
keys are.  A script does on a registry what it does on the map, turn by turn, whatever its handlers
do while they run.
-/

namespace LanguageSession

namespace Registry

open Act

/-! ## The reference -/

/-- A finite map whose handlers are callbacks, with the callbacks and the journal. -/
structure Ideal where
  map : KeyMap Nat := ∅
  cast : Cast Step := {}
  journal : Journal := {}

namespace Ideal

instance : KeepsJournal Ideal where
  journal := Ideal.journal
  setJournal journal ideal := { ideal with journal := journal }

instance : MonadStateOf (Cast Step) (Act Ideal) :=
  zoom Ideal.cast fun cast ideal => { ideal with cast := cast }

instance : HoldsCast Step Ideal where
  cast := Ideal.cast
  setCast cast ideal := { ideal with cast := cast }
  result_get _ := rfl
  result_modify _ _ := rfl
  cast_setCast _ _ := rfl
  cast_add _ _ := rfl

/-- Takes the handler of an id from the map, which it leaves at once. -/
def take (id : Json) : Act Ideal (Option Nat) := do
  let ideal ← getThe Ideal
  let (found, map) ← MonadExcept.ofExcept (ideal.map.take id)
  modifyThe Ideal fun ideal => { ideal with map := map }
  return found

/-- Performs a step on the map; calls nest at most `depth` deep. -/
def perform : Nat → Step → Act Ideal Json
  | 0, _ => throw .exhausted
  | depth + 1, step => do
    match step with
    | .register id handler =>
      let ideal ← getThe Ideal
      let (who, cast) := ideal.cast.add handler
      let map ← MonadExcept.ofExcept (ideal.map.register id who)
      modifyThe Ideal fun ideal => { ideal with map := map, cast := cast }
      return .null
    | .resolve message =>
      MonadExcept.ofExcept message.checkMembers
      match ← take (message.member "id") with
      | none =>
        record (Log.untrackedResponse (message.member "id"))
        return .bool false
      | some who =>
        contain (invoke Step.operation (perform depth) who (Completion.ofResponse message).arguments)
          (record (Log.handlerFailed (message.member "id")))
        return .bool true
    | .pop id =>
      let found ← take id
      let ideal ← getThe Ideal
      return (found.map fun who => Json.string (ideal.cast.name who)).getD .null
    | .contains id => return .bool (← MonadExcept.ofExcept ((← getThe Ideal).map.contains id))
    | .clear =>
      modifyThe Ideal fun ideal => { ideal with map := ∅ }
      return .null

/-- A handler is called with a response, and a failure of it is noted. -/
def deliver (depth : Nat) (who : Nat) (message : Json) : Act Ideal Unit :=
  contain (invoke Step.operation (perform depth) who (Completion.ofResponse message).arguments)
    (record (Log.handlerFailed (message.member "id")))

section

variable (depth : Nat) (ideal : Ideal)

theorem result_take_bind {α : Type} (id : Json) (next : Option Nat → Act Ideal α) :
    result (take id >>= next) ideal =
      match ideal.map.take id with
      | .error fault => (.error fault, ideal)
      | .ok (found, map) => result (next found) { ideal with map := map } := by
  change result ((MonadExcept.ofExcept (ideal.map.take id) >>= _) >>= next) ideal = _
  rcases ideal.map.take id with fault | ⟨found, map⟩
  · rfl
  · rfl

theorem result_register (id : Json) (handler : Callback Step) :
    result (perform (depth + 1) (.register id handler)) ideal =
      match ideal.map.register id ideal.cast.callbacks.length with
      | .error fault => (.error fault, ideal)
      | .ok map => (.ok .null, { ideal with map := map, cast := (ideal.cast.add handler).2 }) := by
  change result (MonadExcept.ofExcept (ideal.map.register id ideal.cast.callbacks.length) >>= _)
    ideal = _
  cases ideal.map.register id ideal.cast.callbacks.length with
  | error fault => rfl
  | ok map => rfl

theorem result_resolve (message : Json) :
    result (perform (depth + 1) (.resolve message)) ideal =
      match message.checkMembers with
      | .error fault => (.error fault, ideal)
      | .ok _ =>
        match ideal.map.take (message.member "id") with
        | .error fault => (.error fault, ideal)
        | .ok (none, map) =>
          (.ok (.bool false), KeepsJournal.add
            (.logged (Log.untrackedResponse (message.member "id"))) { ideal with map := map })
        | .ok (some who, map) =>
          (.ok (.bool true), after (deliver depth who message) { ideal with map := map }) := by
  change result (MonadExcept.ofExcept message.checkMembers >>= _) ideal = _
  cases message.checkMembers with
  | error fault => rfl
  | ok _ =>
      change result (take (message.member "id") >>= _) ideal = _
      rw [result_take_bind]
      rcases ideal.map.take (message.member "id") with fault | ⟨_ | who, map⟩
      · rfl
      · rfl
      · have succeeds : Succeeds (deliver depth who message) :=
          Succeeds.tryCatch fun _ => succeeds_write _
        exact succeeds.result_bind _ _

theorem result_pop (id : Json) :
    result (perform (depth + 1) (.pop id)) ideal =
      match ideal.map.take id with
      | .error fault => (.error fault, ideal)
      | .ok (found, map) =>
        (.ok ((found.map fun who => Json.string (ideal.cast.name who)).getD .null),
          { ideal with map := map }) := by
  change result (take id >>= _) ideal = _
  rw [result_take_bind]
  rfl

theorem result_contains (id : Json) :
    result (perform (depth + 1) (.contains id)) ideal =
      ((ideal.map.contains id).map Json.bool, ideal) := by
  change result (MonadExcept.ofExcept (ideal.map.contains id) >>= _) ideal = _
  cases ideal.map.contains id with
  | error fault => rfl
  | ok found => rfl

end

end Ideal

/-! ## Ids -/

mutual

/-- The ids that a step is about, those in the script of its handler included. -/
def Step.ids : Step → List Json
  | .register id ⟨_, _, script, _, _⟩ => id :: scriptIds script
  | .resolve message => [message.member "id"]
  | .pop id => [id]
  | .contains id => [id]
  | .clear => []

def scriptIds : List Step → List Json
  | [] => []
  | step :: rest => step.ids ++ scriptIds rest

end

theorem ids_subset {script : List Step} {step : Step} (member : step ∈ script) :
    step.ids ⊆ scriptIds script := by
  induction script with
  | nil => cases member
  | cons first rest ih =>
      rcases List.mem_cons.mp member with rfl | later
      · exact List.subset_append_left _ _
      · exact List.Subset.trans (ih later) (List.subset_append_right _ _)

def Step.Plain (step : Step) : Prop := ∀ id ∈ step.ids, ∀ kind, id ≠ .foreign kind

theorem Step.Plain.script {id : Json} {handler : Callback Step}
    (plain : (Step.register id handler).Plain) : ∀ step ∈ handler.script, step.Plain := by
  obtain ⟨kind, name, script, guard, raises⟩ := handler
  intro step member other inside
  exact plain other (List.mem_cons_of_mem id (ids_subset member inside))

/-! ## The simulation -/

/-- The registry represents the map, and all else is the same. -/
structure Embodies (scene : Scene) (ideal : Ideal) : Prop where
  map : Represents scene.registry ideal.map
  cast : ideal.cast = scene.cast
  journal : ideal.journal = scene.journal
  plain : ∀ callback ∈ scene.cast.callbacks, ∀ step ∈ callback.script, step.Plain

theorem embodies_start : Embodies {} {} := ⟨represents_empty, rfl, rfl, nofun⟩

theorem Embodies.replace {scene : Scene} {ideal : Ideal} (embodies : Embodies scene ideal)
    {registry : Registry Nat} {map : KeyMap Nat} (represents : Represents registry map) :
    Embodies { scene with registry := registry } { ideal with map := map } :=
  ⟨represents, embodies.cast, embodies.journal, embodies.plain⟩

theorem sharesCast_embodies : SharesCast Embodies where
  same embodies := embodies.cast
  adding {scene ideal} entry embodies := by
    refine ⟨embodies.map, embodies.cast, ?_, embodies.plain⟩
    change Journal.mk (ideal.journal.entries ++ [entry]) = ⟨scene.journal.entries ++ [entry]⟩
    rw [embodies.journal]
  spending who embodies := { embodies with cast := congrArg (Cast.spend · who) embodies.cast }

section

variable {depth : Nat}

theorem deliver_simulates
    (performs : ∀ step, step.Plain →
      Simulates Embodies (perform depth step) (Ideal.perform depth step))
    (who : Nat) (message : Json) :
    Simulates Embodies (deliver depth who message) (Ideal.deliver depth who message) := by
  refine Simulates.tryCatch ?_ fun _ => sharesCast_embodies.write _
  refine sharesCast_embodies.invoke who _ fun scene ideal embodies callback member step inside => ?_
  exact performs step (embodies.plain callback member step inside)

/-- A plain step does on the registry what it does on the map. -/
theorem perform_simulates (depth : Nat) {step : Step} (plain : step.Plain) :
    Simulates Embodies (perform depth step) (Ideal.perform depth step) := by
  -- on the depth: a handler that is called has one level less for its script
  induction depth generalizing step with
  | zero => exact simulates_throw _
  | succ depth ih =>
      intro scene ideal embodies
      cases step with
      | register id handler =>
          have own : ∀ kind, id ≠ .foreign kind := plain id List.mem_cons_self
          rw [result_register, Ideal.result_register, embodies.cast]
          obtain ⟨fault, refused, refused'⟩ | ⟨registry, map, registered, registered', represents⟩ :=
            embodies.map.register own scene.cast.callbacks.length
          · rw [refused, refused']
            exact ⟨rfl, embodies⟩
          · rw [registered, registered']
            refine ⟨rfl, represents, rfl, embodies.journal, fun callback member => ?_⟩
            rcases List.mem_append.mp member with older | new
            · exact embodies.plain callback older
            · rw [List.mem_singleton.mp new]
              exact plain.script
      | resolve message =>
          have own : ∀ kind, message.member "id" ≠ .foreign kind := plain _ List.mem_cons_self
          rw [result_resolve, Ideal.result_resolve]
          cases message.checkMembers with
          | error fault => exact ⟨rfl, embodies⟩
          | ok _ =>
              obtain ⟨fault, refused, refused'⟩ |
                  ⟨found, registry, map, taken, taken', represents⟩ := embodies.map.take own
              · rw [refused, refused']
                exact ⟨rfl, embodies⟩
              · rw [taken, taken']
                cases found with
                | none =>
                    obtain rfl := take_none taken
                    exact ⟨rfl, sharesCast_embodies.adding _ (embodies.replace represents)⟩
                | some who =>
                    have delivers := deliver_simulates (fun _ => ih) who message
                    exact ⟨rfl, (delivers _ _ (embodies.replace represents)).2⟩
      | pop id =>
          have own : ∀ kind, id ≠ .foreign kind := plain id List.mem_cons_self
          rw [result_pop, Ideal.result_pop]
          obtain ⟨fault, refused, refused'⟩ | ⟨found, registry, map, taken, taken', represents⟩ :=
            embodies.map.take own
          · rw [refused, refused']
            exact ⟨rfl, embodies⟩
          · rw [taken, taken']
            refine ⟨?_, embodies.replace represents⟩
            simp only [embodies.cast]
      | contains id =>
          have own : ∀ kind, id ≠ .foreign kind := plain id List.mem_cons_self
          rw [result_contains, Ideal.result_contains, embodies.map.contains own]
          exact ⟨rfl, embodies⟩
      | clear => exact ⟨rfl, embodies.replace represents_empty⟩

end

/-! ## Runs -/

/--
The turns end alike and show the same entries, and what waits afterwards in the registry waits in
the map under the same keys.
-/
structure Alike (turn : Turn Scene) (turn' : Turn Ideal) : Prop where
  outcome : turn.outcome = turn'.outcome
  entries : turn.entries = turn'.entries
  size : turn.after.registry.size = turn'.after.map.size
  represents : Represents turn.after.registry turn'.after.map

theorem turns_alike_map (depth : Nat) {script : List Step} (plain : ∀ step ∈ script, step.Plain)
    {scene : Scene} {ideal : Ideal} (embodies : Embodies scene ideal) :
    List.Forall₂ Alike (turns (perform depth) scene script)
      (turns (Ideal.perform depth) ideal script) := by
  induction script generalizing scene ideal with
  | nil => exact .nil
  | cons step rest ih =>
      obtain ⟨same, embodied⟩ :=
        perform_simulates depth (plain step List.mem_cons_self) scene ideal embodies
      refine .cons ⟨same.symm, ?_, embodied.map.size.symm, embodied.map⟩
        (ih (fun other member => plain other (List.mem_cons_of_mem step member)) embodied)
      change (after (perform depth step) scene).journal.entries.drop scene.journal.entries.length =
        (after (Ideal.perform depth step) ideal).journal.entries.drop ideal.journal.entries.length
      rw [after, after, embodied.journal, embodies.journal]

theorem resolve_of_waiting (depth : Nat) {scene : Scene} {map : KeyMap Nat} {message : Json}
    {who : Nat} (represents : Represents scene.registry map)
    (checked : message.checkMembers = .ok ())
    (waits : scene.registry.find? (message.member "id") = some who) :
    ∃ rest : Registry Nat, rest.find? (message.member "id") = none ∧
      rest.size + 1 = scene.registry.size ∧
      result (perform (depth + 1) (.resolve message)) scene =
        (.ok (.bool true), after (deliver depth who message) { scene with registry := rest }) := by
  obtain ⟨rest, taken, gone, fewer⟩ := represents.take_waiting waits
  refine ⟨rest, gone, fewer, ?_⟩
  rw [result_resolve, checked, taken]

/--
A script does on a registry what it does on a finite map by key, in every turn and with any depth
to spare.  Nobody is called twice, a step that fails changes nothing, and a handler has left the
registry when it is called, so what it registers stays.
-/
theorem script_refines_map (script : List Step)
    (plain : ∀ id ∈ scriptIds script, ∀ kind, id ≠ .foreign kind) :
    (∀ extra, turns (perform (scriptWeight script + 1 + extra)) {} script = play script ∧
      List.Forall₂ Alike (play script)
        (turns (Ideal.perform (scriptWeight script + 1 + extra)) {} script)) ∧
    (callees (leftBy {} (play script)).journal.entries).Nodup ∧
    (∀ depth scene step fault, (result (perform depth step) scene).1 = .error fault →
      after (perform depth step) scene = scene) ∧
    ∀ depth (scene : Scene) (map : KeyMap Nat) message who, Represents scene.registry map →
      message.checkMembers = .ok () → scene.registry.find? (message.member "id") = some who →
      ∃ rest : Registry Nat, rest.find? (message.member "id") = none ∧
        rest.size + 1 = scene.registry.size ∧
        result (perform (depth + 1) (.resolve message)) scene =
          (.ok (.bool true), after (deliver depth who message) { scene with registry := rest }) := by
  have steps : ∀ step ∈ script, step.Plain := fun step member id inside =>
    plain id (ids_subset member inside)
  refine ⟨fun extra => ⟨turns_eq_play script extra, ?_⟩, ?_, ?_, ?_⟩
  · rw [← turns_eq_play script extra]
    exact turns_alike_map _ steps embodies_start
  · exact (fair_play script).once.of_append_left
  · exact fun depth scene step fault => unchanged_of_error
  · exact fun depth scene map message who => resolve_of_waiting depth

/--
A handler that raises registers its id again, spelled as another number; then the new one is
called, and only once.
-/
def renewal : List Step :=
  let second : Callback Step := { kind := "handler", name := "second" }
  let first : Callback Step :=
    { kind := "handler", name := "first", raises := true
      script := [.contains (.integer 1), .register (.float (.ofInt 1)) second] }
  [.register (.integer 1) first, .contains (.string "1"), .resolve (.object [("id", .bool true)]),
    .contains (.bool true), .pop (.array []), .resolve (.object [("id", .integer 1)]),
    .resolve (.object [("id", .integer 1)])]

theorem script_refines_map_of_renewal :
    (∀ id ∈ scriptIds renewal, ∀ kind, id ≠ .foreign kind) ∧
    List.Forall₂ Alike (play renewal)
      (turns (Ideal.perform (scriptWeight renewal + 1)) {} renewal) ∧
    (callees (leftBy {} (play renewal)).journal.entries).Nodup ∧
    (play renewal).map (fun turn => (turn.outcome, turn.after.registry.size)) =
      [(.ok .null, 1), (.ok (.bool false), 1), (.ok (.bool true), 1), (.ok (.bool true), 1),
        (.error (.unhashable "list"), 1), (.ok (.bool true), 0), (.ok (.bool false), 0)] ∧
    callees (leftBy {} (play renewal)).journal.entries = [0, 1] := by
  have ids : scriptIds renewal = [.integer 1, .integer 1, .float (.ofInt 1), .string "1",
    .bool true, .bool true, .array [], .integer 1, .integer 1] := rfl
  have plain : ∀ id ∈ scriptIds renewal, ∀ kind, id ≠ .foreign kind := by
    rw [ids]
    simp
  obtain ⟨refines, once, -, -⟩ := script_refines_map renewal plain
  exact ⟨plain, (refines 0).2, once, rfl, rfl⟩

end Registry

end LanguageSession
