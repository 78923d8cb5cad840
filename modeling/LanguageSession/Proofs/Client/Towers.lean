import Mathlib
import LanguageSession.Proofs.Client.Exchanges

/-!
# Towers of calls

Steps are performed with the calls that may be made while they run, and those with the calls
that may be made while they run in turn.  Two towers of such calls do the same if on every floor
the steps are performed alike wherever a law holds that every move upholds.
-/

namespace LanguageSession

namespace Client

open Act

section

variable {law : View → Prop} [Upheld law] {started : Prop} {base world : World}
  {nested nested' : Nested}

/-! ## Steps -/

omit [Upheld law] in
theorem start_of_operation {step : Step} (starts : step.operation = "start") :
    ∃ command arguments root, step = .start command arguments root := by
  cases step with
  | start command arguments root => exact ⟨command, arguments, root, rfl⟩
  | _ =>
      dsimp only [Step.operation] at starts
      exact absurd starts (by decide)

omit [Upheld law] in
theorem stop_of_operation {step : Step} (stops : step.operation = "stop") : step = .stop := by
  cases step with
  | stop => rfl
  | _ =>
      dsimp only [Step.operation] at stops
      exact absurd stops (by decide)

variable (paired : Paired law nested nested')

include paired

omit [Upheld law] paired in
theorem withServer_mirrors {post : World → Prop} (server : Option Nat)
    {action action' : Nat → Act World Unit} (idle : post world)
    (acts : ∀ number, Mirrors (action number) (action' number) world fun _ => post) :
    Mirrors (do withServer server action; return .null)
      (do withServer server action'; return .null : Act World Json) world fun _ => post := by
  have chosen : Mirrors (chosenServer server) (chosenServer server) world fun _ after =>
      after = world := .same rfl
  have served : Mirrors (withServer server action) (withServer server action') world
      fun _ => post := by
    refine Mirrors.bind chosen (fun _ _ same => same ▸ idle) ?_
    rintro found _ rfl
    cases found with
    | none => exact .same idle
    | some number => exact acts number
  exact Mirrors.seq served fun _ _ holds => .same holds

theorem performRequest_mirrors (governed : Governed law world) (method : Text) (params : Json)
    (callback : Callback Step) :
    Mirrors (performWith nested (.request method params (some callback)))
      (performWith nested' (.request method params (some callback))) world
      fun _ => Onward law False world := by
  have added : Mirrors (addCallback { callback with kind := "handler" })
      (addCallback { callback with kind := "handler" }) world fun _ => Onward law False world :=
    .same (governed.here.of_view rfl)
  unfold performWith
  refine Mirrors.seq added fun who middle onward => ?_
  refine Mirrors.seq (onward.later (request_mirrors paired onward.toGoverned method params _ ?_)) ?_
  · simp
  · intro id after onward
    refine .same ?_
    exact onward.noting trivial (by simp)

omit paired [Upheld law] in
theorem performSubscribe_mirrors (governed : Governed law world) (channel : Channel)
    (listener : Callback Step) :
    Mirrors (performWith nested (.subscribe channel listener))
      (performWith nested' (.subscribe channel listener)) world
      fun _ => Onward law False world := .same (governed.here.of_view rfl)

omit paired [Upheld law] in
theorem performUnsubscribe_mirrors (governed : Governed law world) (name : Text) :
    Mirrors (performWith nested (.unsubscribe name)) (performWith nested' (.unsubscribe name)) world
      fun _ => Onward law False world := by
  refine .same ?_
  simp only [performWith, unsubscribe, ensures_bind, ensures_get]
  split
  · exact governed.here
  · exact governed.here.of_view rfl

theorem arriving_mirrors (governed : Governed law world) (server : Nat) (data : Bytes) :
    Mirrors (receive nested server data) (receive nested' server data) world
      fun _ => Onward law False world := by
  have arrived : Onward law False world (world.noting (.arrived server data)) :=
    governed.here.noting trivial (by simp)
  exact (receive_mirrors paired server data arrived.toGoverned).mono fun _ _ received =>
    arrived.trans received.1

theorem performOther_mirrors (governed : Governed law world) (step : Step)
    (starts : step.operation ≠ "start") (stops : step.operation ≠ "stop") :
    Mirrors (performWith nested step) (performWith nested' step) world
      fun _ => Onward law False world := by
  cases step with
  | start command arguments root => exact (starts rfl).elim
  | stop => exact (stops rfl).elim
  | waitReady timeout =>
      exact governed.here.within (Within.bind (waitReady_within timeout) fun _ => within_pure _)
  | version uri => exact governed.here.within (Within.bind within_getSession fun _ => within_pure _)
  | request method params handler =>
      cases handler with
      | none =>
          refine Mirrors.seq (request_mirrors paired governed method params none (by simp)) ?_
          exact fun _ _ onward => .same onward
      | some callback => exact performRequest_mirrors paired governed method params callback
  | requestSync method params timeout =>
      refine Mirrors.seq (requestSync_mirrors paired governed method params timeout) ?_
      exact fun _ _ onward => .same onward
  | didOpen uri language text =>
      refine Mirrors.seq (giveNotice_mirrors paired governed (.opened uri language text)) ?_
      exact fun _ _ onward => .same onward
  | didChange uri text =>
      refine Mirrors.seq (giveNotice_mirrors paired governed (.changed uri text)) ?_
      exact fun _ _ onward => .same onward
  | didClose uri =>
      refine Mirrors.seq (giveNotice_mirrors paired governed (.closed uri)) ?_
      exact fun _ _ onward => .same onward
  | subscribe channel listener => exact performSubscribe_mirrors governed channel listener
  | unsubscribe name => exact performUnsubscribe_mirrors governed name
  | send server message =>
      unfold performWith
      rw [mirrors_ofExcept]
      cases (Frame.encode message).mapError Fault.unencodable with
      | error fault => exact governed.here
      | ok data =>
          exact withServer_mirrors server governed.here fun number =>
            arriving_mirrors paired governed number data
  | raw server data =>
      exact withServer_mirrors server governed.here fun number =>
        arriving_mirrors paired governed number data
  | stderr server text =>
      exact withServer_mirrors server governed.here fun number =>
        receiveError_mirrors paired governed number text
  | exit server code =>
      refine withServer_mirrors server governed.here fun number => ?_
      rw [mirrors_modifyWorld]
      have ended (change : Server → Server) :
          Onward law False world (world.modifyServer number change) :=
        governed.here.of_view (view_modifyServer world number change)
      exact (ended _).later (serverEnded_mirrors paired (ended _).toGoverned number code)
  | onExit server code =>
      exact withServer_mirrors server governed.here fun number =>
        serverEnded_mirrors paired governed number code
  | set server running change =>
      exact withServer_mirrors server governed.here fun number =>
        .same (governed.here.of_view (view_modifyServer world number _))
  | setFactory change => exact .same (governed.here.of_view rfl)

/-- What a step brings about: if it is a stop, the session is left. -/
structure Performed (law : View → Prop) (step : Step) (base world : World) : Prop
    extends Governed law world where
  passage : ∃ added, Passage (step.operation = "start") base.view added world.view ∧
    (step.operation = "stop" → base.session.stopping = false →
      (∀ server, .serving (some server) ∉ added) → world.session.server = none)

omit paired [Upheld law] in
theorem Onward.performed {step : Step} (onward : Onward law (step.operation = "start") base world)
    (other : step.operation ≠ "stop") : Performed law step base world := by
  obtain ⟨added, passage⟩ := onward.passage
  exact ⟨onward.toGoverned, added, passage, fun stops => (other stops).elim⟩

theorem performStop_mirrors (governed : Governed law world) :
    Mirrors (performWith nested .stop) (performWith nested' .stop) world
      fun _ => Performed law .stop world := by
  have stops : Mirrors (stop nested none) (stop nested' none) world
      fun _ => Performed law .stop world := by
    refine (stop_mirrors paired governed none).mono ?_
    rintro _ after (⟨rfl, idle⟩ | ⟨left, served, going⟩)
    · refine ⟨governed, [], Passage.refl _, fun _ going _ => ?_⟩
      simpa [going] using idle
    · obtain ⟨added, grown, taken, untaken⟩ := left.since
      have onward : Onward law False world after := left.onward going served
      obtain ⟨added', passage⟩ := onward.passage
      have same : added = added' := List.append_cancel_left (grown.symm.trans passage.entries)
      exact ⟨left.toGoverned, added', passage.mono False.elim, fun _ _ untaken' =>
        (untaken (same ▸ untaken')).1⟩
  exact Mirrors.seq stops fun _ _ performed => .same performed

theorem performWith_mirrors (governed : Governed law world) (step : Step)
    (inside : step.operation = "start" → world.session.stopping = true →
      .doing "start" ∈ world.journal.entries) :
    Mirrors (performWith nested step) (performWith nested' step) world
      fun _ => Performed law step world := by
  by_cases starts : step.operation = "start"
  · obtain ⟨command, arguments, root, rfl⟩ := start_of_operation starts
    refine (Mirrors.seq (start_mirrors paired governed (inside starts) command arguments root)
      fun _ _ (onward : Onward law True world _) => .same ?_).mono ?_
    · exact onward
    · exact fun _ _ onward => (onward.mono fun _ => starts).performed fun stops => by
        cases stop_of_operation stops
  · by_cases stops : step.operation = "stop"
    · obtain rfl := stop_of_operation stops
      exact performStop_mirrors paired governed
    · refine (performOther_mirrors paired governed step starts stops).mono ?_
      exact fun _ _ onward => (onward.mono False.elim).performed stops

omit paired in
/-- A step of a script is marked, so that its start or stop can be told from what it notes. -/
theorem scripted_onward {step : Step} {after : World}
    (performed : Performed law step (world.noting (.doing step.operation)) after) :
    Onward law False world after ∧
      ∀ result, Onward law False world (after.noting (.did step.operation result)) := by
  obtain ⟨added, passage, stops⟩ := performed.passage
  have marked : Passage (step.operation = "start") world.view [.doing step.operation]
      (world.noting (.doing step.operation)).view :=
    passage_of_noting rfl (steadfast_of_minor (by simp [Minor])) (by simp) (by simp [HandsOver])
  -- a start within the call is told by its mark, where that of a turn is told by the
  -- turn itself
  have whole := marked.trans passage
  have passed : Passage False world.view ([.doing step.operation] ++ added) after.view :=
    { whole with
      taken := fun server member => by
        rcases whole.taken server member with starts | begun
        · exact .inr (by simp [starts])
        · exact .inr begun }
  refine ⟨⟨performed.toGoverned, _, passed⟩, fun result => ?_⟩
  have untaken_earlier {later : List Entry} (untaken : ∀ server, .serving (some server) ∉
      ([.doing step.operation] ++ added) ++ later) (server : Nat) :
      .serving (some server) ∉ [.doing step.operation] ++ added :=
    fun member => untaken server (List.mem_append_left _ member)
  refine ⟨performed.toGoverned.noting trivial, ([.doing step.operation] ++ added) ++
    [.did step.operation result], ?_⟩
  constructor
  · rw [← List.append_assoc, ← passed.entries]
    rfl
  · exact passed.settings
  · exact passed.made
  · exact passed.stopping
  · intro ends
    exact List.forall_mem_append.mpr ⟨passed.inside ends, by simp [Borders, border?]⟩
  · exact passed.unready
  · exact passed.untracked
  · intro server member
    have taken : .serving (some server) ∈ [.doing step.operation] ++ added := by simpa using member
    exact (passed.taken server taken).imp_right (List.mem_append_left _)
  · exact fun nobody untaken => passed.unserved nobody (untaken_earlier untaken)
  · intro going other member untaken
    rcases List.mem_append.mp member with earlier | last
    · exact passed.stopped going other earlier (untaken_earlier untaken)
    · obtain ⟨operation, -⟩ : "stop" = step.operation ∧ other = result := by simpa using last
      refine stops operation.symm going fun server member => ?_
      exact untaken_earlier untaken server (List.mem_append_right _ member)
  · intro nobody untaken
    exact List.forall_mem_append.mpr
      ⟨passed.silent nobody (untaken_earlier untaken), by simp [HandsOver]⟩
  · -- the result that is noted last is the only one that may be new
    intro going before other after split settled untaken
    rcases List.append_eq_append_iff.mp split with ⟨middle, -, ends⟩ | ⟨middle, begins, ends⟩
    · rcases List.singleton_eq_append_iff.mp ends with ⟨-, last⟩ | ⟨-, ⟨⟩⟩
      obtain ⟨-, rfl⟩ := List.cons_eq_cons.mp last
      simp
    · rcases List.cons_eq_append_iff.mp ends with ⟨-, last⟩ | ⟨rest, rfl, rfl⟩
      · obtain ⟨-, rfl⟩ := List.cons_eq_cons.mp last
        simp
      · exact List.forall_mem_append.mpr
          ⟨passed.finished going before other rest begins settled (untaken_earlier untaken),
            by simp [HandsOver]⟩

omit [Upheld law] paired in
theorem scripted_mirrors [Upheld law] {step : Step}
    (performs : Mirrors (nested.perform step) (nested'.perform step)
      (world.noting (.doing step.operation))
      fun _ => Performed law step (world.noting (.doing step.operation))) :
    Mirrors (scripted nested step) (scripted nested' step) world
      fun _ => Onward law False world := by
  unfold scripted
  rw [mirrors_write]
  refine performs.bind (fun _ _ performed => (scripted_onward performed).1) ?_
  exact fun result after performed => .same ((scripted_onward performed).2 result)

end

/-! ## Floors -/

/-- Nested calls that nest at most `depth` deep and are performed in a way of their own. -/
def tower (alter : (Step → Act World Json) → Step → Act World Json) : Nat → Nested
  | 0 => ⟨fun _ => throw .exhausted, receiveTooDeep⟩
  | depth + 1 => ⟨alter (performWith (tower alter depth)), receive (tower alter depth)⟩

def Harmless (law : View → Prop) (alter : (Step → Act World Json) → Step → Act World Json) : Prop :=
  ∀ nested step world, Governed law world →
    result (alter (performWith nested) step) world = result (performWith nested step) world

section

variable {law : View → Prop} [Upheld law] {world : World} {nested nested' : Nested}
  {alter : (Step → Act World Json) → Step → Act World Json}

theorem altered_mirrors (paired : Paired law nested nested') (harmless : Harmless law alter)
    (governed : Governed law world) (step : Step)
    (inside : step.operation = "start" → world.session.stopping = true →
      .doing "start" ∈ world.journal.entries) :
    Mirrors (performWith nested step) (alter (performWith nested') step) world
      fun _ => Performed law step world :=
  mirrors_of_results rfl (harmless nested' step world governed)
    (performWith_mirrors paired governed step inside)

theorem paired_tower (harmless : Harmless law alter) (depth : Nat) :
    Paired law (nestedCalls depth) (tower alter depth) := by
  induction depth with
  | zero =>
      constructor
      · intro step world governed
        have noted : Onward law False world (world.noting (.doing step.operation)) :=
          governed.here.noting trivial (by simp)
        exact .same noted
      · intro server data world governed
        refine .same ?_
        change Ensures (receiveTooDeep server data) world _
        rw [receiveTooDeep, ensures_bind]
        simp only [ensures_write, add_eq_noting]
        rw [ensures_bind]
        simp only [ensures_getSession]
        split
        · next current =>
          have going : world.session.stopping = false := by
            simpa using (Bool.and_eq_true_iff.mp current).2
          exact ⟨governed.here, fun stopping => by rw [going] at stopping; cases stopping⟩
        · exact ⟨governed.here, fun _ => rfl⟩
  | succ depth ih =>
      constructor
      · intro step world governed
        have noted : Governed law (world.noting (.doing step.operation)) := governed.noting trivial
        refine scripted_mirrors (altered_mirrors ih harmless noted step fun starts _ => ?_)
        simp [starts]
      · exact fun server data world governed => receive_mirrors ih server data governed

end

/-! ## Runs -/

structure Paused (law : View → Prop) (world : World) : Prop extends Governed law world where
  going : world.session.stopping = false

section

variable {law : View → Prop} [Upheld law] {world : World} {step : Step} {depth : Nat}
  {alter : (Step → Act World Json) → Step → Act World Json}

omit [Upheld law] in
theorem paused_fresh (settings : Settings) (factory : Conduct)
    (lawful : law ⟨{}, [], settings, 0⟩) :
    Paused law { settings := settings, factory := factory } where
  sane := by
    constructor
    · rfl
    · simp
    · rintro ⟨⟩
    · rintro ⟨⟩
    · exact .inr (by simp)
  lawful := lawful
  going := rfl

omit [Upheld law] in
theorem Performed.paused {after : World} (performed : Performed law step world after)
    (going : world.session.stopping = false) : Paused law after := by
  obtain ⟨added, passage, -⟩ := performed.passage
  exact ⟨performed.toGoverned, passage.stopping.trans going⟩

theorem turn_performed (paused : Paused law world) (step : Step) (depth : Nat) :
    Performed law step world (turn (performWith (nestedCalls depth)) world step).after := by
  have unaltered : Harmless law id := fun _ _ _ _ => rfl
  have paired := paired_tower unaltered depth
  refine (performWith_mirrors paired paused.toGoverned step fun _ stopping => ?_).2
  rw [paused.going] at stopping
  cases stopping

theorem turn_tower (harmless : Harmless law alter) (paused : Paused law world) (step : Step) :
    turn (alter (performWith (tower alter depth))) world step =
      turn (performWith (nestedCalls depth)) world step := by
  have paired := paired_tower harmless depth
  have same := (altered_mirrors paired harmless paused.toGoverned step fun _ stopping => by
    rw [paused.going] at stopping
    cases stopping).1
  unfold result at same
  simp only [turn, same]

/-- A run whose steps are performed in a harmless way takes the same turns. -/
theorem turns_tower (harmless : Harmless law alter) (paused : Paused law world)
    (script : List Step) : turns (alter (performWith (tower alter depth))) world script =
      turns (performWith (nestedCalls depth)) world script := by
  induction script generalizing world with
  | nil => rfl
  | cons step rest ih =>
      have next := (turn_performed paused step depth).paused paused.going
      simp only [turns, turn_tower harmless paused step, ih next]

theorem exists_before (paused : Paused law world) {script : List Step} {taken : Turn World}
    (member : taken ∈ turns (performWith (nestedCalls depth)) world script) :
    ∃ step before, Paused law before ∧
      taken = turn (performWith (nestedCalls depth)) before step := by
  induction script generalizing world with
  | nil => cases member
  | cons step rest ih =>
      rcases List.mem_cons.mp member with rfl | later
      · exact ⟨step, world, paused, rfl⟩
      · exact ih ((turn_performed paused step depth).paused paused.going) later

end

end Client

end LanguageSession
