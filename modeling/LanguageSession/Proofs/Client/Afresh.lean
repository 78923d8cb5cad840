import Mathlib
import LanguageSession.Proofs.Client.Endings
import LanguageSession.Proofs.Client.Reads
import LanguageSession.Proofs.Client.Roots
import LanguageSession.Proofs.Client.Unbegun

/-!
# Starting afresh

A session that is started after others have been is like the first session of a client that
was just made: whatever the earlier sessions have left behind, the same is seen of both from
then on.  What an earlier process still writes, and the report that it has ended, is not
noticed.  For this the process of the session before must let itself be closed; if it does
not, `start` fails when that session has ended, and nothing begins.
-/

namespace LanguageSession

namespace Client

open Act

/-! ## Two worlds, one with a new client -/

/-- The same world with a client that was just made. -/
def World.renewed (world : World) : World := { world with session := {} }

section

variable {nested : Nested} {world world' : World}

theorem Alike.session (alike : Alike False world world') : world'.session = world.session := by
  have kept := alike.buffer.resolve_left id
  obtain ⟨journal, buffer, rfl⟩ := alike.parts
  obtain rfl : buffer = world.session.buffer := kept
  rfl

theorem Sound.renewed (sound : Sound world) (cleared : Cleared world.session) :
    Sound world.renewed where
  coherent := sound.coherent
  server := sound.server.trans cleared.server
  waiting := by
    have waiting := sound.waiting
    rw [cleared.pending] at waiting
    exact waiting
  numbered := ⟨[], rfl, List.Pairwise.nil, by simp⟩
  handlers := sound.handlers
  listeners := sound.listeners
  untouched := sound.untouched
  servers := sound.servers

/-! ## Where a session begins -/

def awakened (root : Text) : Session := { phase := .starting, root := root }

theorem awaitEnding_cleared {time : Duration} (known : endingTime world.settings = .ok time)
    (cleared : Cleared world.session) (post : Except Fault Unit → World → Prop) :
    Ensures awaitEnding world post ↔ post (.ok ()) world := by
  simp only [awaitEnding, ensures_bind, ensures_get, known, cleared.stopping, Except.mapError,
    ensures_ofExcept, Bool.false_eq_true, if_false, ensures_pure]

theorem resetSession_cleared (root : Text) (cleared : Cleared world.session)
    (post : Except Fault Unit → World → Prop) :
    Ensures (resetSession nested root) world post ↔ post (.ok ()) (World.noting
      { world with session := { phase := world.session.phase, root := root } } .dropped) := by
  have same : ({ world.session with
      root := root, buffer := [], pending := {}, documents := {}, nextId := 1
      handshakeId := none, abortRequested := false } : Session) =
      { phase := world.session.phase, root := root } := by
    dsimp only
    rw [cleared.server, cleared.ready, cleared.stopping]
  have unready : world.session.ready = false := cleared.ready
  unfold resetSession
  rw [ensures_bind, ensures_modifySession]
  simp only [same, ensures_bind, ensures_write, add_eq_noting, setReady, ensures_getSession,
    noting_session, if_true, ensures_pure]

/-- The change of phase is noted in the log, if it is one. -/
theorem setPhase_starting {root : Text} {phase : Phase}
    (same : world.session = { phase := phase, root := root }) :
    Ensures (setPhase .starting) world fun ending world' => ending = .ok () ∧
      ∃ journal : Journal, world' = { world with session := awakened root, journal := journal } ∧
        journal.entries.filter Seen = world.seen := by
  simp only [setPhase, ensures_bind, ensures_getSession]
  split
  · next starting =>
    have begun : world.session = awakened root := by
      rw [same] at starting ⊢
      exact congrArg (fun phase => ({ phase := phase, root := root } : Session)) starting
    exact ⟨rfl, world.journal, by rw [← begun]; rfl, rfl⟩
  · let change := Log.stateChange world.session.phase.name Phase.starting.name
    have session : { world.session with phase := .starting } = awakened root := by rw [same]; rfl
    simp only [record, ensures_bind, ensures_write, add_eq_noting, ensures_modifySession,
      noting_session, session]
    exact ⟨trivial, ⟨world.journal.entries ++ [.logged change]⟩, rfl, by simp [World.seen, Seen]⟩

theorem prepare_cleared (root : Text) {time : Duration}
    (known : endingTime world.settings = .ok time) (cleared : Cleared world.session) :
    Ensures (prepare nested root) world fun ending world' => ending = .ok () ∧
      ∃ journal : Journal, world' = { world with session := awakened root, journal := journal } ∧
        journal.entries.filter Seen = world.seen ++ [.dropped] := by
  unfold prepare
  rw [ensures_bind, awaitEnding_cleared known cleared]
  dsimp only
  rw [ensures_bind, resetSession_cleared root cleared]
  refine (setPhase_starting rfl).mono ?_
  rintro ending _ ⟨ends, journal, rfl, seen⟩
  exact ⟨ends, journal, rfl, seen.trans (seen_noting _ _)⟩

theorem prepare_alike (root : Text) {time : Duration}
    (known : endingTime world.settings = .ok time) (cleared : Cleared world.session) :
    Matches (Alike False) (prepare nested root) (prepare nested root) world world.renewed := by
  refine (prepare_cleared root known cleared).mono ?_
  rintro _ _ ⟨rfl, journal, rfl, seen⟩
  have new : Ensures (prepare nested root) world.renewed _ :=
    prepare_cleared root known ⟨rfl, rfl, rfl, rfl⟩
  refine new.mono ?_
  rintro _ _ ⟨rfl, journal', rfl, seen'⟩
  refine ⟨rfl, ⟨journal', [], rfl⟩, ?_, .inr rfl, False.elim⟩
  exact seen'.trans seen.symm

/-! ## Two starts -/

/-- After the end of the session before, a start is like that of a new client. -/
theorem start_alike (sightless : Sightless nested) (command : Text) (arguments : List Text)
    (root : Option Text) {time : Duration} (known : endingTime world'.settings = .ok time)
    (stopped : result (stop nested none) world = (.ok (), world'))
    (cleared : Cleared world'.session) :
    Matches (Alike False) (start nested command arguments root)
      (start nested command arguments root) world world'.renewed := by
  have new : result (stop nested none) world'.renewed = (.ok (), world'.renewed) := rfl
  simp only [Matches, start_eq, ensures_bind, ensures_of_result stopped, ensures_of_result new]
  have follows : Matches (Alike False) (do
      prepare nested (root.getD [])
      let server ← adoptServer (command :: arguments)
      bringUp nested command arguments root server) (do
      prepare nested (root.getD [])
      let server ← adoptServer (command :: arguments)
      bringUp nested command arguments root server) world' world'.renewed := by
    refine (prepare_alike (root.getD []) known cleared).bind fun _ _ _ alike _ => ?_
    refine Agrees.bind (adoptServer_blind _) (fun server => ?_) _ _ alike
    exact bringUp_blind sightless command arguments root server
  simpa only [Matches, ensures_bind] using follows

/-! ## Which processes are earlier ones -/

/-- A server that was taken first has the least number. -/
theorem Coherent.first_server {before later : List Entry} {first server : Nat}
    (coherent : Coherent (before ++ .serving (some first) :: later))
    (current : (standing (before ++ .serving (some first) :: later)).server = some server) :
    first ≤ server := by
  induction later using List.reverseRecOn with
  | nil =>
      rw [standing_snoc] at current
      exact (Option.some.inj current).le
  | append_singleton later entry ih =>
      rw [← List.cons_append, ← List.append_assoc] at coherent current
      obtain ⟨sooner, lawful⟩ := coherent_snoc.mp coherent
      rw [standing_snoc] at current
      cases entry with
      | serving number =>
          obtain rfl : number = some server := current
          exact (lawful first (by simp)).le
      | _ => exact ih sooner current

/-- The session has no server that was made before there were so many. -/
inductive Beyond (count : Nat) (world : World) : Prop
  | begun (sound : Sound world) (before : List Entry)
      (served : before ++ [.serving (some count)] <+: world.journal.entries)
  | unbegun (sound : Sound world) (unbegun : Unbegun (fun _ => True) world)

theorem Beyond.sound {count : Nat} (beyond : Beyond count world) : Sound world := by
  cases beyond with
  | begun sound _ _ => exact sound
  | unbegun sound _ => exact sound

theorem Beyond.newer {count : Nat} (beyond : Beyond count world) :
    ∀ server ∈ world.session.server, count ≤ server := by
  intro server current
  cases beyond with
  | begun sound before served =>
      obtain ⟨later, grown⟩ := served
      rw [List.append_assoc, List.singleton_append] at grown
      have coherent := sound.coherent
      have standing := sound.server.trans current
      rw [← grown] at coherent standing
      exact coherent.first_server standing
  | unbegun _ unbegun => simp [unbegun.server] at current

theorem hereditary_true : Hereditary fun _ => True := fun _ _ _ _ _ _ => trivial

theorem Beyond.performs {count : Nat} (beyond : Beyond count world) (depth : Nat) (step : Step) :
    Ensures (performWith (nestedCalls depth) step) world fun _ => Beyond count := by
  have keeps : Ensures (performWith (nestedCalls depth) step) world fun _ => Keeps world :=
    performWith_keeps depth step world
  cases beyond with
  | begun sound before served =>
      refine keeps.mono fun _ _ keeps => ?_
      obtain ⟨sound, grows⟩ := keeps sound
      exact .begun sound before (served.trans grows.journal)
  | unbegun sound unbegun =>
      have unmoved : Ensures (performWith (nestedCalls depth) step) world fun _ =>
          Unmoved (fun _ => True) world :=
        nestedCalls_unmoved hereditary_true (depth + 1) step trivial world
      refine (keeps.and unmoved).mono fun _ _ both => ?_
      exact .unbegun (both.1 sound).1 (both.2 unbegun).1

/-- The session that was started has its server, or could not be begun. -/
theorem start_beyond (depth : Nat) (command : Text) (arguments : List Text) (root : Option Text)
    {time : Duration} (known : endingTime world'.settings = .ok time)
    (stopped : result (stop (nestedCalls depth) none) world = (.ok (), world'))
    (sound : Sound world') (cleared : Cleared world'.session) :
    Ensures (start (nestedCalls depth) command arguments root) world fun _ =>
      Beyond world'.servers.length := by
  have orderly := nestedCalls_orderly depth
  rw [start_eq, ensures_bind, ensures_of_result stopped]
  dsimp only
  rw [ensures_bind]
  refine ((prepare_cleared (root.getD []) known cleared).and
    (prepare_settles orderly (root.getD []) world')).mono ?_
  rintro _ _ ⟨⟨rfl, journal, rfl, -⟩, settles⟩
  have prepared := (settles sound).1
  dsimp only
  rw [ensures_bind, ensures_adoptServer]
  dsimp only
  refine (bringUp_keeps orderly command arguments root _ _).mono fun _ begun keeps => ?_
  obtain ⟨sound, grows⟩ := keeps (adopting_keeps (command :: arguments) prepared).1
  exact .begun sound journal.entries grows.journal

/-! ## What earlier processes still do -/

/-- Does a process that was made earlier write or end? -/
def Step.isLate (count : Nat) : Step → Bool
  | .raw (some server) _ => server < count
  | .stderr (some server) _ => server < count
  | .onExit (some server) _ => server < count
  | _ => false

/-- What an earlier process does is not noticed. -/
theorem late_ignored {count : Nat} {step : Step} (late : step.isLate count)
    (newer : ∀ server ∈ world.session.server, count ≤ server) :
    Ensures (performWith nested step) world fun ending world' =>
      ending = .ok .null ∧ Alike False world world' := by
  have start : Alike False world world := .refl False.elim
  -- a step of a process that was never made does nothing either
  have drops {server : Nat} {action : Nat → Act World Unit}
      (dropped : Ensures (action server) world fun ending world' =>
        ending = .ok () ∧ Alike False world world') :
      Ensures (do withServer (some server) action; return .null : Act World Json) world
        fun ending world' => ending = .ok .null ∧ Alike False world world' := by
    simp only [withServer, chosenServer, ensures_bind, ensures_get, ensures_pure, Option.getD_some]
    by_cases made : server < world.servers.length
    · simp only [made, if_true]
      refine dropped.mono ?_
      rintro _ _ ⟨rfl, alike⟩
      exact ⟨trivial, alike⟩
    · simp only [made, if_false]
      exact ⟨trivial, start⟩
  have other {server : Nat} (late : server < count) : world.session.server ≠ some server := by
    intro current
    exact absurd late (Nat.not_lt.mpr (newer server current))
  cases step with
  | raw server data =>
      cases server with
      | none => cases late
      | some server =>
          refine drops ?_
          rw [ensures_receive_dropped fun reads => other (of_decide_eq_true late) reads.1]
          exact ⟨rfl, start.noting_right rfl⟩
  | stderr server text =>
      cases server with
      | none => cases late
      | some server =>
          refine drops ?_
          simp only [receiveError, ensures_bind, ensures_getSession,
            other (of_decide_eq_true late), if_false, ensures_pure]
          exact ⟨trivial, start⟩
  | onExit server code =>
      cases server with
      | none => cases late
      | some server =>
          refine drops ?_
          simp only [serverEnded, ensures_bind, ensures_getSession,
            other (of_decide_eq_true late), decide_false, Bool.false_and, Bool.false_eq_true,
            if_false, ensures_pure]
          exact ⟨trivial, start⟩
  | _ => cases late

/-! ## Runs -/

def observed (turn : Turn World) : Except Fault Json × List Entry × Session :=
  (turn.outcome, turn.entries.filter Seen, turn.after.session)

/-- What is seen of the turns of a run, but for those of earlier processes. -/
def heard (perform : Step → Act World Json) (count : Nat) (world : World) (script : List Step) :
    List (Except Fault Json × List Entry × Session) :=
  ((script.zip (turns perform world script)).filter fun pair => !pair.1.isLate count).map
    fun pair => observed pair.2

/--
In a run from one world the same is seen as in a run from another in which the earlier
processes are silent, and nothing is seen of what these do.
-/
structure Echoes (perform : Step → Act World Json) (count : Nat) (world fresh : World)
    (script : List Step) : Prop where
  heard : heard perform count world script =
    (turns perform fresh (script.filter fun step => !step.isLate count)).map observed
  session : (leftBy world (turns perform world script)).session =
    (leftBy fresh (turns perform fresh (script.filter fun step => !step.isLate count))).session
  late : ∀ pair ∈ script.zip (turns perform world script), pair.1.isLate count = true →
    pair.2.outcome = .ok .null ∧ pair.2.entries.filter Seen = []

theorem seen_turn {perform : Step → Act World Json} {step : Step} (keeps : Within Keeps (perform step))
    (sound : Sound world) : (turn perform world step).after.seen =
      world.seen ++ (turn perform world step).entries.filter Seen := by
  rw [World.seen, (turn_keeps keeps sound).2, List.filter_append]
  rfl

theorem turn_alike (depth : Nat) (step : Step) (alike : Alike False world world')
    (sound : Sound world) (sound' : Sound world') :
    observed (turn (performWith (nestedCalls depth)) world step) =
        observed (turn (performWith (nestedCalls depth)) world' step) ∧
      Alike False (turn (performWith (nestedCalls depth)) world step).after
        (turn (performWith (nestedCalls depth)) world' step).after := by
  obtain ⟨outcome, after⟩ := performWith_blind (nestedCalls_sightless depth) step _ _ alike
  have seen := seen_turn (performWith_keeps depth step) sound
  have seen' := seen_turn (performWith_keeps depth step) sound'
  have same : (turn (performWith (nestedCalls depth)) world' step).after.seen =
      (turn (performWith (nestedCalls depth)) world step).after.seen := after.seen
  rw [seen, seen', alike.seen] at same
  exact ⟨Prod.ext outcome.symm (Prod.ext (List.append_cancel_left same).symm after.session.symm),
    after⟩

theorem echoes_of_alike (depth : Nat) {count : Nat} (beyond : Beyond count world)
    (alike : Alike False world world') (sound' : Sound world') (script : List Step) :
    Echoes (performWith (nestedCalls depth)) count world world' script := by
  -- on the script: a late step is skipped on one side, any other is taken on both
  induction script generalizing world world' with
  | nil => exact ⟨rfl, alike.session.symm, by simp [turns]⟩
  | cons step script ih =>
      have after : Beyond count (turn (performWith (nestedCalls depth)) world step).after :=
        beyond.performs depth step
      cases late : step.isLate count with
      | true =>
          have ignored : Ensures (performWith (nestedCalls depth) step) world _ :=
            late_ignored late beyond.newer
          obtain ⟨outcome, still⟩ := ignored
          have unseen := seen_turn (performWith_keeps depth step) beyond.sound
          rw [turn_after, Act.after, still.seen, List.self_eq_append_right] at unseen
          obtain ⟨heard, session, lates⟩ := ih after (still.symm.trans alike) sound'
          refine ⟨?_, ?_, ?_⟩
          · simpa [LanguageSession.Client.heard, turns, late] using heard
          · simpa [turns, late] using session
          · rintro pair member
            rcases List.mem_cons.mp member with rfl | later
            · exact fun _ => ⟨outcome, unseen⟩
            · exact lates pair later
      | false =>
          obtain ⟨same, alike⟩ := turn_alike depth step alike beyond.sound sound'
          have sound' := (turn_keeps (performWith_keeps depth step) sound').1
          obtain ⟨heard, session, lates⟩ := ih after alike sound'
          refine ⟨?_, ?_, ?_⟩
          · simpa [LanguageSession.Client.heard, turns, late] using ⟨same, heard⟩
          · simpa [turns, late] using session
          · simpa [turns, late] using lates

end

/-! ## Starting from scratch -/

/-- A run never changes the settings, and under some of them it never begins a session. -/
structure Constant (settings : Settings) (world : World) : Prop where
  sound : Sound world
  kept : world.settings = settings
  unbegun : ∀ error, endingTime settings = .error error →
    Unbegun (fun _ => True) world ∧ world.session = {}

theorem Reached.constant {world : World} (reached : Reached world) :
    Constant world.settings world := by
  obtain ⟨settings, factory, depth, script, rfl⟩ := reached
  have each : ∀ step ∈ script, ∀ world, Constant settings world →
      Ensures (performWith (nestedCalls depth) step) world fun _ => Constant settings := by
    intro step _ world constant
    have keeps : Ensures (performWith (nestedCalls depth) step) world fun _ => Keeps world :=
      performWith_keeps depth step world
    have unmoved : Ensures (performWith (nestedCalls depth) step) world fun _ =>
        Unmoved (fun _ => True) world :=
      nestedCalls_unmoved hereditary_true (depth + 1) step trivial world
    refine (keeps.and unmoved).mono ?_
    rintro _ world' ⟨keeps, unmoved⟩
    obtain ⟨sound, grows⟩ := keeps constant.sound
    refine ⟨sound, grows.settings.trans constant.kept, fun error refused => ?_⟩
    obtain ⟨unbegun, empty⟩ := constant.unbegun error refused
    obtain ⟨unbegun, same⟩ := unmoved unbegun
    exact ⟨unbegun, same.trans empty⟩
  have fresh : Constant settings { settings := settings, factory := factory } :=
    ⟨sound_fresh settings factory, rfl, fun error refused =>
      ⟨⟨rfl, rfl, by rintro _ ⟨⟩, fun _ _ _ _ => ⟨error, refused⟩⟩, rfl⟩⟩
  have constant := leftBy_turns each fresh
  rwa [constant.kept]

theorem result_stop_of_unserved (nested : Nested) {world : World}
    (nobody : world.session.server = none) :
    result (stop nested none) world = (.ok (), world) := by
  unfold stop
  rw [result_bind, show result (getThe Session) world = (.ok world.session, world) from rfl]
  simp only [nobody]
  rfl

/-- The start after the end of a session, and that of a new client. -/
theorem starts_agree (depth : Nat) (command : Text) (arguments : List Text) (root : Option Text)
    {world stopped : World} (constant : Constant world.settings world)
    (stops : result (stop (nestedCalls depth) none) world = (.ok (), stopped))
    (cleared : Cleared stopped.session) :
    Matches (Alike False) (performWith (nestedCalls depth) (.start command arguments root))
        (performWith (nestedCalls depth) (.start command arguments root)) world stopped.renewed ∧
      Ensures (performWith (nestedCalls depth) (.start command arguments root)) world
        fun _ => Beyond stopped.servers.length := by
  have keeps : Ensures (stop (nestedCalls depth) none) world fun _ => Keeps world :=
    within_keeps (stop_settles (nestedCalls_orderly depth) none) world
  rw [ensures_of_result stops] at keeps
  obtain ⟨sound, grows⟩ := keeps constant.sound
  cases known : endingTime world.settings with
  | error error =>
      -- No session has ever begun, and the client is still new.
      obtain ⟨unbegun, empty⟩ := constant.unbegun error known
      have idle := result_stop_of_unserved (nestedCalls depth) unbegun.server
      obtain rfl : stopped = world := (Prod.ext_iff.mp (stops.symm.trans idle)).2
      have new : stopped.renewed = stopped := by rw [World.renewed, ← empty]
      rw [new]
      refine ⟨?_, (Beyond.unbegun sound unbegun).performs depth _⟩
      exact performWith_blind (nestedCalls_sightless depth) _ _ _ (.refl False.elim)
  | ok time =>
      rw [← grows.settings] at known
      have agree := start_alike (nestedCalls_sightless depth) command arguments root known stops
        cleared
      have beyond := start_beyond depth command arguments root known stops sound cleared
      refine ⟨agree.bind fun _ _ _ alike _ => agrees_pure _ _ _ alike, ?_⟩
      exact Ensures.bind beyond fun _ _ beyond => beyond

/--
Whatever happened before, a session is started from scratch.  When no listener and no handler
of the runs before calls the client, a start from a session at rest whose process can be
closed ends that session and then is like the start of a new client, and so is all that
follows: the same is returned, called, told and written, and the session is the same.  What
the earlier processes still do is not noticed.
-/
theorem start_from_scratch (depth : Nat) {world : World} (reached : Reached world)
    (scriptless : Scriptless world) (rest : Rest world.session)
    (closable : ∀ server ∈ world.session.server, Closable server world)
    (command : Text) (arguments : List Text) (root : Option Text) :
    let perform := performWith (nestedCalls (depth + 1))
    let ended := turn perform world .stop
    let fresh := ended.after.renewed
    let begun := turn perform world (.start command arguments root)
    let first := turn perform fresh (.start command arguments root)
    begun.outcome = first.outcome ∧ begun.after.session = first.after.session ∧
      begun.entries.filter Seen = ended.entries.filter Seen ++ first.entries.filter Seen ∧
      ∀ script, Echoes perform world.servers.length begun.after first.after script := by
  intro perform ended fresh begun first
  have constant := reached.constant
  have keeps (step : Step) : Within Keeps (perform step) := performWith_keeps (depth + 1) step
  have stopping : Ensures (stop (nestedCalls (depth + 1)) none) world (Over world) :=
    stop_clears (fun server data => receive_fades server data) scriptless rest closable
  obtain ⟨stopped, stops⟩ : ∃ stopped, result (stop (nestedCalls (depth + 1)) none) world =
      (.ok (), stopped) := ⟨_, Prod.ext stopping.ends rfl⟩
  rw [ensures_of_result stops] at stopping
  -- the start begins with the same stop that is performed here on its own
  have performed : result (stop (nestedCalls (depth + 1)) none >>= fun _ => pure Json.null) world =
      (.ok .null, stopped) := by
    rw [result_bind, stops]
    rfl
  have left : ended.after = stopped := congrArg Prod.snd performed
  have renewed : fresh = stopped.renewed := congrArg World.renewed left
  have sound : Sound stopped := left ▸ (turn_keeps (keeps .stop) constant.sound).1
  have sound' : Sound fresh := renewed ▸ sound.renewed stopping.cleared
  obtain ⟨⟨outcome, alike⟩, beyond⟩ :=
    starts_agree (depth + 1) command arguments root constant stops stopping.cleared
  rw [← renewed] at outcome alike
  rw [stopping.conduct.count] at beyond
  have alike : Alike False begun.after first.after := alike
  refine ⟨outcome.symm, alike.session.symm, ?_, fun script => ?_⟩
  · have seen := seen_turn (keeps (.start command arguments root)) constant.sound
    have seen_ended := seen_turn (keeps .stop) constant.sound
    have seen_first := seen_turn (keeps (.start command arguments root)) sound'
    have same : fresh.seen = ended.after.seen := rfl
    have both : first.after.seen = begun.after.seen := alike.seen
    rw [seen, seen_first, same, seen_ended, List.append_assoc] at both
    exact (List.append_cancel_left both).symm
  · exact echoes_of_alike (depth + 1) beyond alike (turn_keeps (keeps _) sound').1 script

/-- A session with a request under way, an open document and the first byte of a frame. -/
def busyRun : List Step :=
  [.start "srv" [] (some "file:///old"),
    .send none (.object [("id", .nat 1), ("result", .object [])]),
    .request "x" .null (some ⟨"handler", "h", [], none, false⟩),
    .didOpen "file:///old/a" "cpp" (.literal "int a;"), .raw none [67]]

def busyWorld : World := leftBy {} (turns (performWith (nestedCalls 0)) {} busyRun)

theorem busyWorld_reached : ReachedPassively busyWorld :=
  ⟨{}, {}, 0, busyRun, fun _ => rfl, by simp [busyRun, Step.Passive], rfl⟩

/-- Nothing of the old session is left in the new one. -/
theorem start_from_scratch_of_busy :
    (busyWorld.session.pending.size = 1 ∧ busyWorld.session.documents.size = 1 ∧
      busyWorld.session.buffer = [67]) ∧
    let perform := performWith (nestedCalls 1)
    let fresh := (turn perform busyWorld .stop).after.renewed
    let start := Step.start "srv" ["--new"] (some "file:///new")
    (turn perform busyWorld start).after.session = (turn perform fresh start).after.session ∧
      ∀ script, Echoes perform 1 (turn perform busyWorld start).after
        (turn perform fresh start).after script := by
  have made : busyWorld.servers.length = 1 := by decide +kernel
  have scriptless : Scriptless busyWorld := by decide +kernel
  have closable : ∀ server ∈ busyWorld.session.server, Closable server busyWorld := by
    decide +kernel
  refine ⟨by decide +kernel, ?_⟩
  obtain ⟨-, session, -, echoes⟩ := start_from_scratch 0 busyWorld_reached.reached scriptless
    busyWorld_reached.atRest.rest closable "srv" ["--new"] (some "file:///new")
  rw [made, Nat.zero_add] at echoes
  rw [Nat.zero_add] at session
  exact ⟨session, echoes⟩

/-- A process that cannot be closed. -/
def stuckConduct : Conduct := { refusesClose := some "stuck" }

def stuckWorld : World :=
  leftBy { factory := stuckConduct } (turns (performWith (nestedCalls 0))
    { factory := stuckConduct } [.start "srv" [] none])

theorem stuckWorld_reached : ReachedPassively stuckWorld :=
  ⟨{}, stuckConduct, 0, [.start "srv" [] none], fun _ => rfl, by simp [Step.Passive], rfl⟩

/-- The end of the session before is all that comes of a start when its process is not closed. -/
theorem start_after_stuck :
    Reached stuckWorld ∧ Scriptless stuckWorld ∧ Rest stuckWorld.session ∧
    let perform := performWith (nestedCalls 1)
    let fresh := (turn perform stuckWorld .stop).after.renewed
    let start := Step.start "srv" [] none
    (turn perform stuckWorld start).after.session.phase = .stopped ∧
      (turn perform fresh start).after.session.phase = .starting :=
  ⟨stuckWorld_reached.reached, by decide +kernel, stuckWorld_reached.atRest.rest,
    by decide +kernel⟩

end Client

end LanguageSession
