import Mathlib
import LanguageSession.Callback
import LanguageSession.Proofs.Run

/-!
# Calls of scripted callbacks

A callback runs its script at most once.  What the scripts weigh that have not been run bounds how
deep calls nest, so with depth to spare more of it changes nothing.  What the steps of scripts do
alike in two kinds of states, calls do alike, and what they keep, calls keep.
-/

namespace LanguageSession

open Act

/-- States that hold a cast, which is read and changed, and which entries leave as it is. -/
class HoldsCast (Step : outParam Type) (State : Type) [KeepsJournal State]
    [MonadStateOf (Cast Step) (Act State)] where
  cast : State → Cast Step
  setCast : Cast Step → State → State
  result_get : ∀ state, result (getThe (Cast Step) : Act State (Cast Step)) state =
    (.ok (cast state), state)
  result_modify : ∀ change state,
    result (modifyThe (Cast Step) change : Act State Unit) state =
      (.ok (), setCast (change (cast state)) state)
  cast_setCast : ∀ held state, cast (setCast held state) = held
  cast_add : ∀ entry state, cast (KeepsJournal.add entry state) = cast state

export HoldsCast (cast setCast)

attribute [simp] HoldsCast.cast_setCast HoldsCast.cast_add

/-- The script of a callback counts as run. -/
def Cast.spend {Step : Type} (cast : Cast Step) (who : Nat) : Cast Step :=
  { cast with spent := who :: cast.spent }

/-! ## Scripts that have not been run -/

section

variable {Step : Type} (weight : Step → Nat)

def Cast.scriptOf (cast : Cast Step) (who : Nat) : List Step :=
  ((cast.callbacks[who]?).map Callback.script).getD []

def weightOf (script : List Step) : Nat := (script.map weight).sum

def Cast.unspent (cast : Cast Step) : Nat :=
  ∑ who ∈ Finset.range cast.callbacks.length,
    if who ∈ cast.spent then 0 else weightOf weight (cast.scriptOf who)

theorem Cast.unspent_add (cast : Cast Step) (callback : Callback Step) :
    (cast.add callback).2.unspent weight ≤
      cast.unspent weight + weightOf weight callback.script := by
  have length : (cast.add callback).2.callbacks.length = cast.callbacks.length + 1 :=
    List.length_append
  rw [unspent, unspent, length, Finset.sum_range_succ]
  refine Nat.add_le_add (Finset.sum_le_sum fun who member => ?_) ?_
  · have older : who < cast.callbacks.length := Finset.mem_range.mp member
    simp [scriptOf, Cast.add, List.getElem?_append_left older]
  · split
    · exact Nat.zero_le _
    · simp [scriptOf, Cast.add]

theorem Cast.unspent_spend {cast : Cast Step} {who : Nat} {callback : Callback Step}
    (present : cast.callbacks[who]? = some callback) (fresh : who ∉ cast.spent) :
    (cast.spend who).unspent weight + weightOf weight callback.script = cast.unspent weight := by
  have member : who ∈ Finset.range cast.callbacks.length :=
    Finset.mem_range.mpr (List.getElem?_eq_some_iff.mp present).1
  have own : cast.scriptOf who = callback.script := by simp [scriptOf, present]
  rw [spend, unspent, unspent, ← Finset.add_sum_erase _ _ member,
    ← Finset.add_sum_erase _ _ member, if_pos List.mem_cons_self, if_neg fresh, own, Nat.zero_add,
    Nat.add_comm]
  congr 1
  refine Finset.sum_congr rfl fun other others => ?_
  have different : other ≠ who := Finset.ne_of_mem_erase others
  simp [scriptOf, different]

end

/-! ## How calls go -/

section

variable {Step State State' : Type}

def Callback.finish (callback : Callback Step) : Act State Unit :=
  if callback.raises then throw (.raised "boom") else pure ()

theorem within_finish {relation : State → State → Prop} [IsPreorder State relation]
    (callback : Callback Step) : Within relation callback.finish := by
  unfold Callback.finish
  split
  · exact within_throw _
  · exact within_pure _

theorem simulates_finish {relation : State → State' → Prop} (callback : Callback Step) :
    Simulates relation callback.finish callback.finish := by
  unfold Callback.finish
  split
  · exact simulates_throw _
  · exact simulates_pure _

end

section

variable {Step State α : Type} [KeepsJournal State] [MonadStateOf (Cast Step) (Act State)]
variable [HoldsCast Step State] {operation : Step → Text} {perform : Step → Act State Json}
variable {who : Nat} {callback : Callback Step} {arguments : List Json}

theorem result_getCast_bind (next : Cast Step → Act State α) (state : State) :
    result (getThe (Cast Step) >>= next) state = result (next (cast state)) state := by
  rw [result_bind, HoldsCast.result_get]

theorem result_modifyCast_bind (change : Cast Step → Cast Step) (next : Unit → Act State α)
    (state : State) :
    result (modifyThe (Cast Step) change >>= next) state =
      result (next ()) (setCast (change (cast state)) state) := by
  rw [result_bind, HoldsCast.result_modify]

theorem result_invoke (state : State) :
    result (invoke operation perform who arguments) state =
      match (cast state).callbacks[who]? with
      | none => (.ok (), state)
      | some callback =>
        result (proceed operation perform who callback arguments)
          (KeepsJournal.add (.called who callback.kind callback.name arguments) state) := by
  rw [invoke, result_getCast_bind]
  cases (cast state).callbacks[who]? with
  | none => rfl
  | some callback => rfl

/-- A call that is let through runs the script the first time, and then ends. -/
theorem result_proceed (state : State) :
    result (proceed operation perform who callback arguments) state =
      if callback.admits arguments then
        if who ∈ (cast state).spent then result callback.finish state
        else result (runScript operation perform callback.script >>= fun _ => callback.finish)
          (setCast ((cast state).spend who) state)
      else (.ok (), state) := by
  rw [proceed]
  split
  · rw [result_getCast_bind]
    dsimp only
    by_cases spent : who ∈ (cast state).spent
    · rw [if_pos (List.contains_iff_mem.mpr spent), if_pos spent]
      rfl
    · rw [if_neg (mt List.contains_iff_mem.mp spent), if_neg spent, result_modifyCast_bind]
      rfl
  · rfl

end

/-! ## What calls keep -/

/-- Does the entry stand around a step of a script? -/
def Entry.IsMark : Entry → Prop
  | .doing _ => True
  | .did _ _ => True
  | _ => False

section

variable {Step State : Type} [KeepsJournal State] [MonadStateOf (Cast Step) (Act State)]
variable [HoldsCast Step State] {relation : State → State → Prop}

variable (relation) in
structure AllowsScripts : Prop where
  marking : ∀ state entry, entry.IsMark → relation state (KeepsJournal.add entry state)
  spending : ∀ state who, relation state (setCast ((cast state).spend who) state)

variable [IsPreorder State relation] {operation : Step → Text} {perform : Step → Act State Json}
variable {callback : Callback Step}

theorem within_proceed {who : Nat} (arguments : List Json)
    (spending : ∀ state, relation state (setCast ((cast state).spend who) state))
    (runs : Within relation (runScript operation perform callback.script)) :
    Within relation (proceed operation perform who callback arguments) := by
  intro state
  rw [Ensures, result_proceed]
  split
  · split
    · exact within_finish callback state
    · exact (runs.bind fun _ => within_finish callback).later (spending state)
  · exact refl_of relation state

theorem AllowsScripts.runScript (allows : AllowsScripts relation) {script : List Step}
    (performs : ∀ step ∈ script, Within relation (perform step)) :
    Within relation (runScript operation perform script) := by
  refine Within.forM fun step member => ?_
  refine Within.bind (fun state => allows.marking state _ trivial) fun _ => ?_
  refine Within.bind (performs step member) fun result => ?_
  exact fun state => allows.marking state _ trivial

theorem AllowsScripts.proceed (allows : AllowsScripts relation) (who : Nat) (arguments : List Json)
    (performs : ∀ step ∈ callback.script, Within relation (perform step)) :
    Within relation (proceed operation perform who callback arguments) :=
  within_proceed arguments (fun state => allows.spending state who) (allows.runScript performs)

end

/-! ## Calls in two kinds of states -/

section

variable {Step State State' : Type} [KeepsJournal State] [MonadStateOf (Cast Step) (Act State)]
variable [HoldsCast Step State] [KeepsJournal State'] [MonadStateOf (Cast Step) (Act State')]
variable [HoldsCast Step State'] {relation : State → State' → Prop}

variable (relation) in
/-- The casts are the same, whatever entries are added and whatever scripts count as run. -/
structure SharesCast : Prop where
  same : ∀ {state state'}, relation state state' → cast state' = cast state
  adding : ∀ {state state'} entry, relation state state' →
    relation (KeepsJournal.add entry state) (KeepsJournal.add entry state')
  spending : ∀ {state state'} who, relation state state' →
    relation (setCast ((cast state).spend who) state) (setCast ((cast state').spend who) state')

variable {operation : Step → Text} {perform : Step → Act State Json}
variable {perform' : Step → Act State' Json} {callback : Callback Step}

theorem SharesCast.write (shares : SharesCast relation) (entry : Entry) :
    Simulates relation (write entry) (write entry) := fun _ _ related =>
  ⟨rfl, shares.adding entry related⟩

theorem SharesCast.runScript (shares : SharesCast relation) {script : List Step}
    (performs : ∀ step ∈ script, Simulates relation (perform step) (perform' step)) :
    Simulates relation (runScript operation perform script)
      (runScript operation perform' script) := by
  refine Simulates.forM fun step member => ?_
  refine (shares.write _).bind fun _ => (performs step member).bind fun result => ?_
  exact shares.write _

theorem SharesCast.proceed (shares : SharesCast relation) (who : Nat) (arguments : List Json)
    (performs : ∀ step ∈ callback.script, Simulates relation (perform step) (perform' step)) :
    Simulates relation (proceed operation perform who callback arguments)
      (proceed operation perform' who callback arguments) := by
  intro state state' related
  rw [result_proceed, result_proceed, shares.same related]
  split
  · split
    · exact simulates_finish callback state state' related
    · have spent := shares.spending who related
      rw [shares.same related] at spent
      exact ((shares.runScript performs).bind fun _ => simulates_finish callback) _ _ spent
  · exact ⟨rfl, related⟩

theorem SharesCast.invoke (shares : SharesCast relation) (who : Nat) (arguments : List Json)
    (performs : ∀ state state', relation state state' → ∀ callback ∈ (cast state).callbacks,
      ∀ step ∈ callback.script, Simulates relation (perform step) (perform' step)) :
    Simulates relation (invoke operation perform who arguments)
      (invoke operation perform' who arguments) := by
  intro state state' related
  rw [result_invoke, result_invoke, shares.same related]
  cases present : (cast state).callbacks[who]? with
  | none => exact ⟨rfl, related⟩
  | some callback =>
      have steps := performs state state' related callback (List.mem_of_getElem? present)
      exact shares.proceed who arguments steps _ _ (shares.adding _ related)

end

/-! ## Depth to spare -/

section

variable {Step State : Type} [KeepsJournal State] [MonadStateOf (Cast Step) (Act State)]
variable [HoldsCast Step State] {weight : Step → Nat}

variable (weight) in
/--
Steps are performed alike from states with little enough unspent, and leave no more of it than
there was with them.
-/
def AlikeWithin (room : Nat) (nested nested' : Step → Act State Json) : Prop :=
  ∀ step state, (cast state).unspent weight < room → Mirrors (nested step) (nested' step) state
    fun _ after => (cast after).unspent weight + 1 ≤ (cast state).unspent weight + weight step

variable {operation : Step → Text} {room bound : Nat} {nested nested' : Step → Act State Json}
variable {state : State}

theorem step_mirrors (positive : ∀ step, 0 < weight step)
    (alike : AlikeWithin weight room nested nested') {step : Step} {rest : List Step}
    (enough : bound ≤ room)
    (fits : (cast state).unspent weight + weight step + weightOf weight rest ≤ bound) :
    Mirrors
      (do write (.doing (operation step))
          let result ← nested step
          write (.did (operation step) result))
      (do write (.doing (operation step))
          let result ← nested' step
          write (.did (operation step) result)) state
      fun _ after => (cast after).unspent weight + weightOf weight rest ≤ bound := by
  have more := positive step
  have performs := alike step (KeepsJournal.add (.doing (operation step)) state)
  rw [HoldsCast.cast_add] at performs
  have ends : Mirrors
      (nested step >>= fun result => write (.did (operation step) result))
      (nested' step >>= fun result => write (.did (operation step) result))
      (KeepsJournal.add (.doing (operation step)) state)
      fun _ after => (cast after).unspent weight + weightOf weight rest ≤ bound := by
    refine (performs (by omega)).bind (fun _ after left => by omega) ?_
    refine fun result after left => .same ?_
    rw [ensures_write, HoldsCast.cast_add]
    omega
  exact ends

theorem runScript_mirrors (positive : ∀ step, 0 < weight step)
    (alike : AlikeWithin weight room nested nested') (enough : bound ≤ room) {script : List Step}
    (fits : (cast state).unspent weight + weightOf weight script ≤ bound) :
    Mirrors (runScript operation nested script) (runScript operation nested' script) state
      fun _ after => (cast after).unspent weight ≤ bound := by
  induction script generalizing state with
  | nil => exact .same fits
  | cons step rest ih =>
      rw [weightOf, List.map_cons, List.sum_cons, ← Nat.add_assoc] at fits
      refine (step_mirrors positive alike enough fits).bind (fun _ after left => by omega) ?_
      exact fun _ after left => ih left

theorem finish_leaves {callback : Callback Step} (fits : (cast state).unspent weight ≤ bound) :
    Ensures (callback.finish : Act State Unit) state
      fun _ after => (cast after).unspent weight ≤ bound := by
  unfold Callback.finish
  split
  · exact fits
  · exact fits

theorem proceed_mirrors (positive : ∀ step, 0 < weight step)
    (alike : AlikeWithin weight room nested nested') (enough : bound ≤ room) {who : Nat}
    {callback : Callback Step} (arguments : List Json)
    (present : (cast state).callbacks[who]? = some callback)
    (fits : (cast state).unspent weight ≤ bound) :
    Mirrors (proceed operation nested who callback arguments)
      (proceed operation nested' who callback arguments) state
      fun _ after => (cast after).unspent weight ≤ bound := by
  rw [Mirrors, Ensures, result_proceed, result_proceed]
  split
  · split
    · exact ⟨rfl, finish_leaves fits⟩
    · next fresh =>
      -- The script counts as run before its steps are performed, which leaves them room.
      have spends := Cast.unspent_spend weight present fresh
      have runs : Mirrors (runScript operation nested callback.script)
          (runScript operation nested' callback.script) (setCast ((cast state).spend who) state)
          fun _ after => (cast after).unspent weight ≤ bound := by
        refine runScript_mirrors positive alike enough ?_
        rw [HoldsCast.cast_setCast]
        omega
      exact runs.seq fun _ after left => .same (finish_leaves left)
  · exact ⟨rfl, fits⟩

theorem invoke_mirrors (positive : ∀ step, 0 < weight step)
    (alike : AlikeWithin weight room nested nested') (enough : bound ≤ room) (who : Nat)
    (arguments : List Json) (fits : (cast state).unspent weight ≤ bound) :
    Mirrors (invoke operation nested who arguments) (invoke operation nested' who arguments) state
      fun _ after => (cast after).unspent weight ≤ bound := by
  rw [Mirrors, Ensures, result_invoke, result_invoke]
  cases present : (cast state).callbacks[who]? with
  | none => exact ⟨rfl, fits⟩
  | some callback =>
      refine proceed_mirrors positive alike enough arguments ?_ ?_
      · rw [HoldsCast.cast_add, present]
      · rwa [HoldsCast.cast_add]

/-- Where more depth makes no difference to steps, it makes none to runs. -/
theorem turns_alike {perform : Nat → Step → Act State Json} {depth extra : Nat}
    (alike : AlikeWithin weight depth (perform depth) (perform (depth + extra)))
    {script : List Step} (room : (cast state).unspent weight + weightOf weight script < depth) :
    turns (perform (depth + extra)) state script = turns (perform depth) state script := by
  induction script generalizing state with
  | nil => rfl
  | cons step rest ih =>
      rw [weightOf, List.map_cons, List.sum_cons, ← weightOf] at room
      obtain ⟨same, left⟩ := alike step state (by omega)
      have first : turn (perform (depth + extra)) state step = turn (perform depth) state step := by
        simp only [result] at same
        simp only [turn, same]
      have later : (cast (turn (perform depth) state step).after).unspent weight + 1 ≤
          (cast state).unspent weight + weight step := left
      rw [turns, turns, first, ih (by omega)]

end

end LanguageSession
