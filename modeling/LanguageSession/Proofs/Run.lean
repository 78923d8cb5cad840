import Mathlib
import LanguageSession.Run

/-!
# What actions bring about

An action on a state ends well or with a fault, and leaves a state either way.  `Ensures`
states what holds then, and is computed along the parts of an action.  `Within` states
that the state moves along a relation however the action ends; for a preorder it holds of
an action as soon as it holds of the parts.
-/

namespace LanguageSession

namespace Act

variable {State α β : Type}

/-! ## How an action ends -/

def result (action : Act State α) (state : State) : Except Fault α × State := action.run.run state

def after (action : Act State α) (state : State) : State := (result action state).2

def Ensures (action : Act State α) (state : State) (post : Except Fault α → State → Prop) : Prop :=
  post (result action state).1 (result action state).2

theorem ext_of_ensures {first second : Act State α}
    (same : ∀ state post, Ensures second state post → Ensures first state post) :
    first = second := by
  funext state
  exact same state (fun ending after => (ending, after) = result second state) rfl

theorem result_bind (action : Act State α) (next : α → Act State β) (state : State) :
    result (action >>= next) state =
      match result action state with
      | (.ok value, state) => result (next value) state
      | (.error fault, state) => (.error fault, state) := by
  simp only [result, bind, ExceptT.bind, ExceptT.mk, ExceptT.run, StateT.run, StateT.bind,
    ExceptT.bindCont]
  rcases action state with ⟨ending, state⟩
  cases ending <;> rfl

theorem result_tryCatch (action : Act State α) (rescue : Fault → Act State α) (state : State) :
    result (tryCatch action rescue) state =
      match result action state with
      | (.ok value, state) => (.ok value, state)
      | (.error fault, state) => result (rescue fault) state := by
  simp only [result, tryCatch, tryCatchThe, MonadExceptOf.tryCatch, ExceptT.tryCatch, ExceptT.mk,
    ExceptT.run, bind, StateT.run, StateT.bind]
  rcases action state with ⟨ending, state⟩
  cases ending <;> rfl

variable {state : State} {post : Except Fault α → State → Prop}

theorem Ensures.mono {action : Act State α} {weaker : Except Fault α → State → Prop}
    (holds : Ensures action state post)
    (implies : ∀ ending state, post ending state → weaker ending state) :
    Ensures action state weaker :=
  implies _ _ holds

theorem ensures_true (action : Act State α) (state : State) :
    Ensures action state fun _ _ => True := trivial

theorem Ensures.and {action : Act State α} {also : Except Fault α → State → Prop}
    (first : Ensures action state post) (second : Ensures action state also) :
    Ensures action state fun ending after => post ending after ∧ also ending after :=
  ⟨first, second⟩

@[simp] theorem ensures_pure (value : α) :
    Ensures (pure value) state post ↔ post (.ok value) state := Iff.rfl

@[simp] theorem ensures_throw (fault : Fault) :
    Ensures (throw fault : Act State α) state post ↔ post (.error fault) state := Iff.rfl

@[simp] theorem ensures_bind (action : Act State α) (next : α → Act State β)
    (post : Except Fault β → State → Prop) :
    Ensures (action >>= next) state post ↔
      Ensures action state fun ending state =>
        match ending with
        | .ok value => Ensures (next value) state post
        | .error fault => post (.error fault) state := by
  simp only [Ensures, result_bind]
  rcases result action state with ⟨ending, state⟩
  cases ending <;> rfl

@[simp] theorem ensures_tryCatch (action : Act State α) (rescue : Fault → Act State α) :
    Ensures (tryCatch action rescue) state post ↔
      Ensures action state fun ending state =>
        match ending with
        | .ok value => post (.ok value) state
        | .error fault => Ensures (rescue fault) state post := by
  simp only [Ensures, result_tryCatch]
  rcases result action state with ⟨ending, state⟩
  cases ending <;> rfl

@[simp] theorem ensures_get (post : Except Fault State → State → Prop) :
    Ensures (getThe State) state post ↔ post (.ok state) state := Iff.rfl

@[simp] theorem ensures_modify (change : State → State)
    (post : Except Fault Unit → State → Prop) :
    Ensures (modifyThe State change) state post ↔ post (.ok ()) (change state) := Iff.rfl

@[simp] theorem ensures_write [KeepsJournal State] (entry : Entry)
    (post : Except Fault Unit → State → Prop) :
    Ensures (write entry) state post ↔ post (.ok ()) (KeepsJournal.add entry state) := Iff.rfl

@[simp] theorem ensures_ofExcept (value : Except Fault α) :
    Ensures (MonadExcept.ofExcept value) state post ↔ post value state := by
  cases value <;> rfl

theorem Ensures.bind {invariant : State → Prop} {action : Act State α} {next : α → Act State β}
    (first : Ensures action state fun _ => invariant)
    (second : ∀ value state, invariant state → Ensures (next value) state fun _ => invariant) :
    Ensures (action >>= next) state fun _ => invariant := by
  rw [ensures_bind]
  refine first.mono ?_
  intro ending middle kept
  cases ending with
  | error fault => exact kept
  | ok value => exact second value middle kept

/-- What every round of a loop keeps, the loop keeps. -/
theorem Ensures.forM {invariant : State → Prop} {action : β → Act State PUnit} {list : List β}
    (each : ∀ item ∈ list, ∀ state, invariant state →
      Ensures (action item) state fun _ => invariant)
    (start : invariant state) : Ensures (list.forM action) state fun _ => invariant := by
  induction list generalizing state with
  | nil => exact start
  | cons item rest ih =>
      refine Ensures.bind (each item List.mem_cons_self state start) fun _ middle kept => ?_
      exact ih (fun other member => each other (List.mem_cons_of_mem _ member)) kept

/-! ## Ending well -/

def Succeeds (action : Act State α) : Prop := ∀ state, ∃ value, (result action state).1 = .ok value

theorem succeeds_pure (value : α) : Succeeds (pure value : Act State α) := fun _ => ⟨value, rfl⟩

theorem succeeds_get : Succeeds (getThe State : Act State State) := fun state => ⟨state, rfl⟩

theorem succeeds_modify (change : State → State) :
    Succeeds (modifyThe State change : Act State Unit) := fun _ => ⟨(), rfl⟩

theorem succeeds_write [KeepsJournal State] (entry : Entry) :
    Succeeds (write entry : Act State Unit) := fun _ => ⟨(), rfl⟩

theorem Succeeds.bind {action : Act State α} {next : α → Act State β} (first : Succeeds action)
    (second : ∀ value, Succeeds (next value)) : Succeeds (action >>= next) := by
  intro state
  obtain ⟨value, ends⟩ := first state
  obtain ⟨value', ends'⟩ := second value (result action state).2
  refine ⟨value', ?_⟩
  rw [result_bind, ← ends', ← Prod.mk.eta (p := result action state), ends]

theorem Succeeds.forM {action : β → Act State PUnit} {list : List β}
    (each : ∀ item, Succeeds (action item)) : Succeeds (list.forM action) := by
  induction list with
  | nil => exact succeeds_pure _
  | cons item rest ih => exact Succeeds.bind (each item) fun _ => ih

theorem Succeeds.tryCatch {action : Act State α} {rescue : Fault → Act State α}
    (second : ∀ fault, Succeeds (rescue fault)) : Succeeds (tryCatch action rescue) := by
  intro state
  rw [result_tryCatch]
  rcases ended : result action state with ⟨ending, middle⟩
  cases ending with
  | ok value => exact ⟨value, rfl⟩
  | error fault => exact second fault middle

theorem Succeeds.result_bind {action : Act State α} (succeeds : Succeeds action)
    (next : Act State β) (state : State) :
    result (action >>= fun _ => next) state = result next (after action state) := by
  obtain ⟨value, ends⟩ := succeeds state
  rw [Act.result_bind, ← Prod.mk.eta (p := result action state), ends]
  rfl

theorem Succeeds.ensures_bind {middle : State → Prop} {action : Act State α}
    {next : α → Act State β} {post : Except Fault β → State → Prop} (succeeds : Succeeds action)
    (first : Ensures action state fun _ => middle)
    (second : ∀ value state, middle state → Ensures (next value) state post) :
    Ensures (action >>= next) state post := by
  obtain ⟨value, ends⟩ := succeeds state
  rw [Act.ensures_bind]
  simp only [Ensures, ends]
  exact second value _ first

/-! ## Staying within a relation -/

/-- However the action ends, it takes the state along the relation. -/
def Within (relation : State → State → Prop) (action : Act State α) : Prop :=
  ∀ state, Ensures action state fun _ => relation state

section

variable {relation : State → State → Prop} [IsPreorder State relation]

theorem Within.later {start state : State} {action : Act State α}
    (within : Within relation action) (moved : relation start state) :
    Ensures action state fun _ => relation start :=
  (within state).mono fun _ _ later => trans_of relation moved later

theorem within_pure (value : α) : Within relation (pure value : Act State α) :=
  fun state => refl_of relation state

theorem within_throw (fault : Fault) : Within relation (throw fault : Act State α) :=
  fun state => refl_of relation state

theorem within_get : Within relation (getThe State) := fun state => refl_of relation state

theorem within_ofExcept (value : Except Fault α) :
    Within relation (MonadExcept.ofExcept value : Act State α) := by
  cases value with
  | ok value => exact within_pure value
  | error fault => exact within_throw fault

omit [IsPreorder State relation] in
theorem within_modify {change : State → State} (moved : ∀ state, relation state (change state)) :
    Within relation (modifyThe State change) := moved

def Keeping (invariant : State → Prop) (state state' : State) : Prop :=
  invariant state → invariant state'

instance (invariant : State → Prop) : IsPreorder State (Keeping invariant) where
  refl _ := id
  trans _ _ _ first second := second ∘ first

theorem Within.bind {action : Act State α} {next : α → Act State β}
    (first : Within relation action) (second : ∀ value, Within relation (next value)) :
    Within relation (action >>= next) := by
  intro state
  refine Ensures.bind (first state) fun value middle moved => ?_
  exact (second value).later moved

theorem Within.tryCatch {action : Act State α} {rescue : Fault → Act State α}
    (first : Within relation action) (second : ∀ fault, Within relation (rescue fault)) :
    Within relation (tryCatch action rescue) := by
  intro state
  rw [ensures_tryCatch]
  refine (first state).mono ?_
  intro ending middle moved
  cases ending with
  | ok value => exact moved
  | error fault => exact (second fault).later moved

theorem Within.forM {action : β → Act State PUnit} {list : List β}
    (each : ∀ item ∈ list, Within relation (action item)) :
    Within relation (list.forM action) := by
  intro state
  refine Ensures.forM (fun item member middle moved => ?_) (refl_of relation state)
  exact (each item member).later moved

end

/-! ## Two runs -/

/-- The actions end alike, and the states that they leave are related. -/
def Matches (relation : State → State → Prop) (first second : Act State α)
    (state state' : State) : Prop :=
  Ensures first state fun ending after =>
    Ensures second state' fun ending' after' => ending' = ending ∧ relation after after'

/-- From related states the action ends alike, in related states. -/
def Agrees (relation : State → State → Prop) (action : Act State α) : Prop :=
  ∀ state state', relation state state' → Matches relation action action state state'

section

variable {relation : State → State → Prop}

theorem Matches.bind {first second : Act State α} {next next' : α → Act State β}
    {state state' : State} (begins : Matches relation first second state state')
    (goes_on : ∀ value after after', relation after after' →
      result first state = (.ok value, after) →
      Matches relation (next value) (next' value) after after') :
    Matches relation (first >>= next) (second >>= next') state state' := by
  obtain ⟨same, related⟩ := begins
  simp only [Matches, Ensures, result_bind]
  revert same related
  rcases reached : result first state with ⟨ending, after⟩
  rcases result second state' with ⟨ending', after'⟩
  rintro (rfl : ending' = ending) related
  cases ending' with
  | ok value => exact goes_on value after after' related reached
  | error fault => exact ⟨rfl, related⟩

theorem agrees_pure (value : α) : Agrees relation (pure value : Act State α) :=
  fun _ _ related => ⟨rfl, related⟩

theorem agrees_throw (fault : Fault) : Agrees relation (throw fault : Act State α) :=
  fun _ _ related => ⟨rfl, related⟩

theorem agrees_ofExcept (value : Except Fault α) :
    Agrees relation (MonadExcept.ofExcept value : Act State α) := by
  cases value with
  | ok value => exact agrees_pure value
  | error fault => exact agrees_throw fault

theorem Agrees.bind {action : Act State α} {next : α → Act State β}
    (first : Agrees relation action) (second : ∀ value, Agrees relation (next value)) :
    Agrees relation (action >>= next) := fun state state' related =>
  (first state state' related).bind fun value after after' related _ =>
    second value after after' related

theorem Agrees.tryCatch {action : Act State α} {rescue : Fault → Act State α}
    (first : Agrees relation action) (second : ∀ fault, Agrees relation (rescue fault)) :
    Agrees relation (tryCatch action rescue) := by
  intro state state' related
  obtain ⟨same, related⟩ := first state state' related
  simp only [Matches, Ensures, result_tryCatch]
  revert same related
  rcases result action state with ⟨ending, middle⟩
  rcases result action state' with ⟨ending', middle'⟩
  rintro (rfl : ending' = ending) related
  cases ending' with
  | ok value => exact ⟨rfl, related⟩
  | error fault => exact second fault _ _ related

theorem Agrees.forM {action : β → Act State PUnit} {list : List β}
    (each : ∀ item ∈ list, Agrees relation (action item)) :
    Agrees relation (list.forM action) := by
  induction list with
  | nil => exact agrees_pure _
  | cons item rest ih =>
      refine Agrees.bind (each item List.mem_cons_self) fun _ => ?_
      exact ih fun other member => each other (List.mem_cons_of_mem _ member)

end

/-! ## Two kinds of states -/

/-- From related states the actions end alike, in related states. -/
def Simulates {State' : Type} (relation : State → State' → Prop) (first : Act State α)
    (second : Act State' α) : Prop :=
  ∀ state state', relation state state' →
    (result second state').1 = (result first state).1 ∧
      relation (result first state).2 (result second state').2

section

variable {State' : Type} {relation : State → State' → Prop}

theorem simulates_pure (value : α) :
    Simulates relation (pure value : Act State α) (pure value : Act State' α) :=
  fun _ _ related => ⟨rfl, related⟩

theorem simulates_throw (fault : Fault) :
    Simulates relation (throw fault : Act State α) (throw fault : Act State' α) :=
  fun _ _ related => ⟨rfl, related⟩

theorem Simulates.bind {first : Act State α} {second : Act State' α} {next : α → Act State β}
    {next' : α → Act State' β} (begins : Simulates relation first second)
    (goes_on : ∀ value, Simulates relation (next value) (next' value)) :
    Simulates relation (first >>= next) (second >>= next') := by
  intro state state' related
  obtain ⟨same, related⟩ := begins state state' related
  rw [result_bind, result_bind]
  revert same related
  rcases result first state with ⟨ending, after⟩
  rcases result second state' with ⟨ending', after'⟩
  rintro (rfl : ending' = ending) related
  cases ending' with
  | ok value => exact goes_on value after after' related
  | error fault => exact ⟨rfl, related⟩

theorem Simulates.tryCatch {first : Act State α} {second : Act State' α}
    {rescue : Fault → Act State α} {rescue' : Fault → Act State' α}
    (tries : Simulates relation first second)
    (rescues : ∀ fault, Simulates relation (rescue fault) (rescue' fault)) :
    Simulates relation (tryCatch first rescue) (tryCatch second rescue') := by
  intro state state' related
  obtain ⟨same, related⟩ := tries state state' related
  rw [result_tryCatch, result_tryCatch]
  revert same related
  rcases result first state with ⟨ending, after⟩
  rcases result second state' with ⟨ending', after'⟩
  rintro (rfl : ending' = ending) related
  cases ending' with
  | ok value => exact ⟨rfl, related⟩
  | error fault => exact rescues fault after after' related

theorem Simulates.forM {first : β → Act State PUnit} {second : β → Act State' PUnit}
    {list : List β} (each : ∀ item ∈ list, Simulates relation (first item) (second item)) :
    Simulates relation (list.forM first) (list.forM second) := by
  induction list with
  | nil => exact simulates_pure _
  | cons item rest ih =>
      refine (each item List.mem_cons_self).bind fun _ => ?_
      exact ih fun other member => each other (List.mem_cons_of_mem _ member)

end

/-! ## Doing the same -/

/-- Both actions do the same from this state, and this is what they bring about. -/
def Mirrors (first second : Act State α) (state : State) (post : Except Fault α → State → Prop) :
    Prop :=
  result second state = result first state ∧ Ensures first state post

section

variable {state : State} {first second : Act State α} {middle post : Except Fault α → State → Prop}

theorem Mirrors.same {action : Act State α} (ensures : Ensures action state post) :
    Mirrors action action state post := ⟨rfl, ensures⟩

theorem Mirrors.mono (mirrors : Mirrors first second state middle)
    (implies : ∀ ending state, middle ending state → post ending state) :
    Mirrors first second state post := ⟨mirrors.1, mirrors.2.mono implies⟩

theorem Mirrors.and (mirrors : Mirrors first second state middle)
    (also : Ensures first state post) :
    Mirrors first second state fun ending after => middle ending after ∧ post ending after :=
  ⟨mirrors.1, mirrors.2, also⟩

theorem Mirrors.succeeding (mirrors : Mirrors first second state post) (succeeds : Succeeds first) :
    Mirrors first second state fun ending after =>
      post ending after ∧ ∃ value, ending = .ok value := mirrors.and (succeeds state)

theorem Mirrors.bind {next next' : α → Act State β} {post : Except Fault β → State → Prop}
    (begins : Mirrors first second state middle)
    (fails : ∀ fault after, middle (.error fault) after → post (.error fault) after)
    (goes_on : ∀ value after, middle (.ok value) after →
      Mirrors (next value) (next' value) after post) :
    Mirrors (first >>= next) (second >>= next') state post := by
  obtain ⟨same, reached⟩ := begins
  simp only [Mirrors, Ensures, result_bind, same]
  rw [Ensures] at reached
  revert reached
  rcases result first state with ⟨ending, after⟩
  intro reached
  cases ending with
  | error fault => exact ⟨rfl, fails fault after reached⟩
  | ok value => exact goes_on value after reached

theorem Mirrors.seq {invariant : State → Prop} {next next' : α → Act State β}
    (begins : Mirrors first second state fun _ => invariant)
    (goes_on : ∀ value after, invariant after →
      Mirrors (next value) (next' value) after fun _ => invariant) :
    Mirrors (first >>= next) (second >>= next') state fun _ => invariant :=
  begins.bind (fun _ _ kept => kept) goes_on

theorem Mirrors.tryCatch {rescue rescue' : Fault → Act State α}
    (tries : Mirrors first second state middle)
    (succeeds : ∀ value after, middle (.ok value) after → post (.ok value) after)
    (rescues : ∀ fault after, middle (.error fault) after →
      Mirrors (rescue fault) (rescue' fault) after post) :
    Mirrors (tryCatch first rescue) (tryCatch second rescue') state post := by
  obtain ⟨same, reached⟩ := tries
  simp only [Mirrors, Ensures, result_tryCatch, same]
  rw [Ensures] at reached
  revert reached
  rcases result first state with ⟨ending, after⟩
  intro reached
  cases ending with
  | error fault => exact rescues fault after reached
  | ok value => exact ⟨rfl, succeeds value after reached⟩

theorem Mirrors.forM {invariant : State → Prop} {action action' : β → Act State PUnit}
    {list : List β} (each : ∀ item ∈ list, ∀ state, invariant state →
      Mirrors (action item) (action' item) state fun _ => invariant)
    (start : invariant state) :
    Mirrors (list.forM action) (list.forM action') state fun _ => invariant := by
  induction list generalizing state with
  | nil => exact .same start
  | cons item rest ih =>
      refine Mirrors.seq (each item List.mem_cons_self state start) fun _ after kept => ?_
      exact ih (fun other member => each other (List.mem_cons_of_mem _ member)) kept

end

end Act

/-! ## Turns of a run -/

section

variable {State Step : Type}

def leftBy (state : State) (turns : List (Turn State)) : State :=
  (turns.getLast?.map Turn.after).getD state

@[simp] theorem leftBy_nil (state : State) : leftBy state [] = state := rfl

@[simp] theorem leftBy_cons (state : State) (first : Turn State) (rest : List (Turn State)) :
    leftBy state (first :: rest) = leftBy first.after rest := by
  cases rest with
  | nil => rfl
  | cons second rest => simp [leftBy, List.getLast?_cons]

variable [KeepsJournal State] {perform : Step → Act State Json}

theorem turn_after (state : State) (step : Step) :
    (turn perform state step).after = Act.after (perform step) state := rfl

/-- What every step keeps, a run keeps. -/
theorem leftBy_turns {invariant : State → Prop} {steps : List Step}
    (each : ∀ step ∈ steps, ∀ state, invariant state →
      Act.Ensures (perform step) state fun _ => invariant)
    {state : State} (start : invariant state) : invariant (leftBy state (turns perform state steps)) := by
  induction steps generalizing state with
  | nil => exact start
  | cons step rest ih =>
      rw [turns, leftBy_cons]
      apply ih
      · intro other member
        exact each other (List.mem_cons_of_mem _ member)
      · exact each step List.mem_cons_self state start

end

end LanguageSession
