import Mathlib
import LanguageSession.Proofs.Client.Notes

/-!
# A session that a listener starts

A listener that is told of the end of a server may start the next session at once.  The
call that reports the end then finds a session with another server, and leaves it alone.
-/

namespace LanguageSession

namespace Client

open Act

/-! ## What a start notes -/

/-- Entries that spare a server, and tell of no script. -/
def Spares (server : Nat) : Entry → Prop
  | .doing _ => False
  | .did _ _ => False
  | .killed other => other ≠ server
  | .closed other => other ≠ server
  | _ => True

/-- Entries that tell of no script. -/
def Unscripted : Entry → Prop
  | .doing _ => False
  | .did _ _ => False
  | _ => True

theorem spares_talking (server : Nat) : Talking (Spares server) where
  plain := by rintro (_ | _) plain <;> trivial
  dropped := trivial
  serving _ := trivial
  ending _ := trivial
  wrote _ _ _ := trivial
  refused _ _ := trivial
  awaits _ _ _ := trivial

theorem unscripted_talking : Talking Unscripted where
  plain := by rintro (_ | _) plain <;> trivial
  dropped := trivial
  serving _ := trivial
  ending _ := trivial
  wrote _ _ _ := trivial
  refused _ _ := trivial
  awaits _ _ _ := trivial

theorem Spares.unscripted {server : Nat} {entry : Entry} (spares : Spares server entry) :
    Unscripted entry := by
  cases entry <;> trivial

theorem Ends.spares {server other : Nat} {entry : Entry} (ends : Ends other entry)
    (apart : other ≠ server) : Spares server entry := by
  rcases ends with rfl | rfl <;> exact apart

theorem Ends.unscripted {server : Nat} {entry : Entry} (ends : Ends server entry) :
    Unscripted entry := by
  rcases ends with rfl | rfl <;> trivial

section

variable {nested : Nested} {world : World}

/-- What a start has come to: if it says so the session begins, and its server is spared. -/
structure Begun (server : Nat) (world : World) (ending : Except Fault Bool) (world' : World) :
    Prop where
  rest : AtRest world'
  adds : Adds Unscripted world world'
  begins : ending = .ok true → Adds (Spares server) world world' ∧
    world'.session.server = some server ∧ Beginning world'.session

theorem Begun.after {server : Nat} {start : World} {ending : Except Fault Bool} {world' : World}
    (begun : Begun server world ending world') (adds : Adds (Spares server) start world) :
    Begun server start ending world' where
  rest := begun.rest
  adds := trans_of (Adds _) (adds.mono fun _ => Spares.unscripted) begun.adds
  begins started :=
    ⟨trans_of (Adds _) adds (begun.begins started).1, (begun.begins started).2⟩

theorem bringUp_begins (command : Text) (arguments : List Text) (root : Option Text)
    {folder : Text} {server : Nat} (passive : Passive world)
    (same : world.session = launched folder server) :
    Ensures (bringUp nested command arguments root server) world (Begun server world) := by
  have unscripted := unscripted_talking
  unfold bringUp
  rw [ensures_bind]
  refine (Succeeds.left (record_succeeds _) (within_record _) passive).mono ?_
  rintro _ recorded ⟨⟨_, rfl⟩, left⟩
  have same := left.session.trans same
  have adds := (left.noted (spares_talking server).toTame fun _ => False.elim).adds
  dsimp only
  rw [ensures_bind]
  refine (spawn_passive server left.passive).mono ?_
  rintro _ spawned ⟨⟨failure, rfl⟩, passive, left, noted⟩
  have same := left.trans same
  have adds := trans_of (Adds _) adds (noted.mono (spares_talking server).plain)
  dsimp only
  split
  · rw [ensures_bind]
    refine (Succeeds.left (emitLog_succeeds _) (emitLog_leaves _) passive).mono ?_
    rintro _ told ⟨⟨_, rfl⟩, left⟩
    have same := left.session.trans same
    have adds := trans_of (Adds _) (adds.mono fun _ => Spares.unscripted)
      (left.noted unscripted.toTame fun _ => False.elim).adds
    -- a process that does not start ends the session, and that is noted of it
    have stops : Ensures (stop nested none) told fun _ => Ended :=
      stop_passive left.passive (by simp) (by rw [same]; rfl) (by simp [same, launched])
    dsimp only
    rw [ensures_bind]
    refine (stops.and (ensures_noted (stop_notes unscripted ?_) left.passive)).mono ?_
    · exact fun _ _ _ => Ends.unscripted
    · rintro (fault | _) world' ⟨ended, noted⟩
      · exact ⟨ended.atRest, trans_of (Adds _) adds noted.adds, by simp⟩
      · exact ⟨ended.atRest, trans_of (Adds _) adds noted.adds, by rintro ⟨⟩⟩
  · rw [ensures_bind]
    refine ((beginHandshake_passive root passive same).and (ensures_noted
      (beginHandshake_notes (spares_talking server) root spawned) passive)).mono ?_
    rintro _ told ⟨greeted, noted⟩
    obtain ⟨_, rfl⟩ := greeted.ends
    have adds := trans_of (Adds _) adds noted.adds
    dsimp only
    rw [ensures_bind]
    -- the session has begun if the greeting was taken, and else is ended at once
    rcases greeted.pausing with rest | failing
    · rw [rest.unstopped]
      have beginning := greeted.beginning rest
      exact ⟨⟨greeted.passive, rest⟩, adds.mono fun _ => Spares.unscripted,
        fun _ => ⟨adds, greeted.server, beginning⟩⟩
    · refine ((failing.ended greeted.passive).and (ensures_noted
        (stopIfAborted_notes unscripted fun _ _ _ => Ends.unscripted) greeted.passive)).mono ?_
      rintro (fault | _) world' ⟨⟨ended, stopped⟩, noted⟩
      all_goals have adds := trans_of (Adds _) (adds.mono fun _ => Spares.unscripted) noted.adds
      · exact ⟨ended.atRest, adds, by simp⟩
      · refine ⟨ended.atRest, adds, fun started => ?_⟩
        have going : decide (world'.session.phase ≠ .stopped) = true := Except.ok.inj started
        simp [stopped] at going

theorem start_begins (command : Text) (arguments : List Text) (root : Option Text)
    (rest : AtRest world)
    (made : ∀ server, world.session.server = some server → server < world.servers.length) :
    Ensures (start nested command arguments root) world (Begun world.servers.length world) := by
  have spares := spares_talking world.servers.length
  have others : ∀ server, world.session.server = some server → ∀ entry, Ends server entry →
      Spares world.servers.length entry :=
    fun server served _ ends => ends.spares (made server served).ne
  refine ensures_start (fun later => Adds (Spares world.servers.length) world later ∧
    later.servers.length = world.servers.length) rest ?_ ?_ ?_ ?_
  · refine (ensures_noted (stop_notes spares others) rest.passive).mono ?_
    exact fun _ stopped noted => ⟨noted.adds, noted.ebbs.count⟩
  · rintro stopped ended ⟨adds, count⟩
    refine (ensures_noted (prepare_notes spares.toTame _ stopped) ended.passive).mono ?_
    exact fun _ begun noted => ⟨trans_of (Adds _) adds noted.adds, noted.ebbs.count.trans count⟩
  · rintro fault stopped ended ⟨adds, -⟩
    exact ⟨ended.atRest, adds.mono fun _ => Spares.unscripted, by simp⟩
  · rintro begun prepared ⟨adds, count⟩
    have adopts : Adds (Spares world.servers.length) begun (begun.adopting (command :: arguments)) :=
      ⟨[.serving (some begun.servers.length)], rfl, by simp [Spares]⟩
    have adds := trans_of (Adds _) adds adopts
    rw [← count] at adds ⊢
    refine (bringUp_begins command arguments root (prepared.passive.adopting _)
      (prepared.adopted _)).mono ?_
    exact fun _ _ begun => begun.after adds

/-! ## Listeners that are told of an end -/

/-- The start that was reported to succeed has begun the session, and its server is spared. -/
def Survives (server : Nat) (start world : World) : Prop :=
  ∃ added, world.journal.entries = start.journal.entries ++ added ∧
    (.did "start" (.bool true) ∈ added → world.session.server = some server ∧
      Beginning world.session ∧ .killed server ∉ added ∧ .closed server ∉ added)

theorem Survives.later {server : Nat} {start world' : World} {allowed : Entry → Prop}
    (survives : Survives server start world) (left : Left allowed world world')
    (nothing : ∀ entry, ¬ allowed entry) : Survives server start world' := by
  obtain ⟨added, grown, begins⟩ := survives
  obtain ⟨later, grown', plain⟩ := left.adds
  refine ⟨added ++ later, by rw [grown', grown, List.append_assoc], ?_⟩
  have absent (entry : Entry) (special : ¬ Plain entry) : entry ∉ later := by
    intro member
    exact (plain entry member).elim special (nothing entry)
  rw [left.session]
  simp only [List.mem_append, absent (.did _ _) id, absent (.killed _) id,
    absent (.closed _) id, or_false]
  exact begins

def World.trusting (world : World) (who : Nat) : World :=
  { world with cast := { world.cast with spent := who :: world.cast.spent } }

/-- The callback has yet to react, and everybody else is passive. -/
structure Poised (who : Nat) (callback : Callback Step) (start world : World) : Prop where
  left : Left (fun _ => False) (start.trusting who) (world.trusting who)
  waits : who ∉ world.cast.spent
  known : world.cast.callbacks[who]? = some callback

variable {who server : Nat} {callback : Callback Step} {start : World}

theorem Poised.moved {world' : World} (poised : Poised who callback start world)
    (callbacks : world'.cast.callbacks = world.cast.callbacks)
    (spent : world.cast.spent ⊆ world'.cast.spent) (waits : who ∉ world'.cast.spent)
    (servers : world'.servers = world.servers) (factory : world'.factory = world.factory)
    (session : world'.session = world.session)
    (adds : Adds (fun entry => Plain entry ∨ False) world world') :
    Poised who callback start world' where
  left := by
    have moves : Leaves (world.trusting who) (world'.trusting who) :=
      leaves_of_parts callbacks (List.cons_subset_cons who spent) servers factory session adds
    have later := moves poised.left.passive
    exact ⟨later.passive, later.session.trans poised.left.session,
      trans_of (Adds _) poised.left.adds later.adds, trans_of Ebbs poised.left.ebbs later.ebbs⟩
  waits := waits
  known := callbacks ▸ poised.known

theorem Poised.noting (poised : Poised who callback start world) {entry : Entry}
    (neutral : Neutral entry) : Poised who callback start (world.noting entry) :=
  poised.moved rfl (List.Subset.refl _) poised.waits rfl rfl rfl
    (adds_noting (.inl neutral.plain) world)

/-- Other listeners leave the callback as it is. -/
theorem Poised.passes (poised : Poised who callback start world) {listener : Listener}
    (other : listener ≠ .callback who) (event : Event) :
    Ensures (tell nested listener event) world fun _ => Poised who callback start := by
  cases listener with
  | callback another =>
      have apart : who ≠ another := fun same => other (same ▸ rfl)
      cases known : world.cast.callbacks[another]? with
      | none =>
          simp only [tell, invoke, ensures_bind, ensures_getCast, known]
          exact poised
      | some passer =>
          have idle := (poised.left.passive.callbacks another passer known).imp_right fun spent =>
            (List.mem_cons.mp spent).resolve_left apart.symm
          refine (invoke_idle event.arguments known idle).mono ?_
          rintro _ world' ⟨-, rfl⟩
          refine poised.moved rfl (spent_spending _ _ _ (world.noting _)) ?_ rfl rfl rfl
            (adds_noting (.inl trivial) world)
          simp only [World.spending]
          split
          · simpa [apart] using poised.waits
          · exact poised.waits
  | echo =>
      cases event with
      | log text =>
          exact poised.noting trivial
      | _ => exact poised
  | collect =>
      cases event with
      | diagnostics uri items =>
          exact poised.moved rfl (List.Subset.refl _) poised.waits rfl rfl rfl (adds_of_journal rfl)
      | _ => exact poised

theorem Poised.told (poised : Poised who callback start world) {listener : Listener}
    (other : listener ≠ .callback who) (event : Event) :
    Ensures (contain (tell nested listener event) do
      record (Log.listenerFailed (← listenerLabel listener))) world fun _ =>
        Poised who callback start := by
  rw [contain, ensures_tryCatch]
  refine (poised.passes other event).mono ?_
  rintro (fault | _) world' poised
  · unfold listenerLabel
    cases listener <;> exact poised.noting trivial
  · exact poised

structure Reacted (server : Nat) (start world : World) : Prop where
  rest : AtRest world
  survives : Survives server start world

/-- The world in which the callback is about to call `start`. -/
def World.calling (world : World) (who : Nat) (callback : Callback Step)
    (arguments : List Json) : World :=
  ((world.trusting who).noting (.called who callback.kind callback.name arguments)).noting
    (.doing "start")

theorem Poised.calling (poised : Poised who callback start world) (rest : Rest start.session)
    (arguments : List Json) : AtRest (world.calling who callback arguments) := by
  have passive := poised.left.passive
  refine ⟨passive.kept, ?_⟩
  have same : (world.calling who callback arguments).session = start.session := poised.left.session
  rw [same]
  exact rest

/-- What the script notes after the start has ended. -/
theorem Begun.survives {arguments : List Json} {ending : Except Fault Bool} {started : World}
    (poised : Poised who callback start world)
    (begun : Begun server (world.calling who callback arguments) ending started) :
    Survives server start started ∧ ∀ value, ending = .ok value →
      Survives server start (started.noting (.did "start" (.bool value))) := by
  obtain ⟨before, grown, plain⟩ := poised.left.adds
  obtain ⟨between, grown', unscripted⟩ := begun.adds
  -- before the callback was called only plain entries were noted
  have absent (entry : Entry) (special : ¬ Plain entry) : entry ∉ before := by
    intro member
    exact (plain entry member).elim special id
  have entries : started.journal.entries = start.journal.entries ++
      (before ++ [.called who callback.kind callback.name arguments, .doing "start"] ++ between) := by
    have grown : world.journal.entries = start.journal.entries ++ before := grown
    rw [grown']
    simp [World.calling, World.trusting, World.noting, grown]
  have unscripted (operation : Text) (value : Json) : .did operation value ∉ between :=
    fun member => unscripted _ member
  refine ⟨⟨_, entries, fun member => ?_⟩, ?_⟩
  · simp [absent (.did _ _) id, unscripted] at member
  · rintro value rfl
    refine ⟨_, by rw [noting_entries, entries, List.append_assoc], fun member => ?_⟩
    obtain rfl : value = true := by
      simpa [absent (.did _ _) id, unscripted] using member
    obtain ⟨⟨later, grown'', spares⟩, current, beginning⟩ := begun.begins rfl
    obtain rfl : later = between := List.append_cancel_left (grown''.symm.trans grown')
    refine ⟨current, beginning, ?_, ?_⟩
    · intro member
      have killed : .killed server ∈ later := by
        simpa [absent (.killed _) id] using member
      exact spares _ killed rfl
    · intro member
      have closed : .closed server ∈ later := by
        simpa [absent (.closed _) id] using member
      exact spares _ closed rfl

theorem Poised.reacts {command : Text} {arguments : List Text} {root : Option Text} {event : Event}
    (poised : Poised who callback start world) (rest : Rest start.session)
    (made : ∀ server, start.session.server = some server → server < start.servers.length)
    (reacts : callback.script = [.start command arguments root])
    (admits : callback.admits event.arguments = true) (depth : Nat) :
    Ensures (tell (nestedCalls depth) (.callback who) event) world fun _ =>
      Reacted start.servers.length start := by
  have unspent : world.cast.spent.contains who = false := by simpa using poised.waits
  have raise {start' : World} (reacted : Reacted start.servers.length start start') :
      Ensures (if callback.raises then throw (.raised "boom") else pure () : Act World Unit) start'
        fun _ => Reacted start.servers.length start := by
    split <;> exact reacted
  have calling := poised.calling rest event.arguments
  have count : (world.calling who callback event.arguments).servers.length =
      start.servers.length := poised.left.ebbs.count
  have same : (world.calling who callback event.arguments).session = start.session :=
    poised.left.session
  simp only [tell, invoke, ensures_bind, ensures_getCast, poised.known, ensures_write,
    add_eq_noting, proceed, admits, if_true, noting_cast, unspent, Bool.false_eq_true, if_false,
    ensures_modifyCast, runScript, reacts, List.forM_eq_forM, List.forM_cons, List.forM_nil]
  change Ensures _ (world.calling who callback event.arguments) _
  -- without depth the start fails before it does anything
  cases depth with
  | zero =>
      have begun : Begun start.servers.length (world.calling who callback event.arguments)
          (.error .exhausted) (world.calling who callback event.arguments) :=
        ⟨calling, refl_of (Adds _) _, by simp⟩
      exact ⟨calling, (begun.survives poised).1⟩
  | succ depth =>
      have starts : Ensures (Client.start (nestedCalls depth) command arguments root)
          (world.calling who callback event.arguments) (Begun _ _) :=
        start_begins command arguments root calling (by rw [count, same]; exact made)
      rw [count] at starts
      simp only [nestedCalls, performWith, ensures_bind]
      refine starts.mono ?_
      rintro (fault | started) world' begun
      · exact ⟨begun.rest, (begun.survives poised).1⟩
      · have noted : AtRest (world'.noting (.did "start" (.bool started))) :=
          ⟨begun.rest.passive.kept,
            begun.rest.rest⟩
        exact raise ⟨noted, (begun.survives poised).2 started rfl⟩

theorem Reacted.leaves {world' : World} (reacted : Reacted server start world)
    (leaves : Leaves world world') : Reacted server start world' where
  rest := reacted.rest.leaves leaves
  survives := reacted.survives.later (leaves reacted.rest.passive) fun _ => id

theorem Reacted.told (reacted : Reacted server start world) (listener : Listener) (event : Event) :
    Ensures (contain (tell nested listener event) do
      record (Log.listenerFailed (← listenerLabel listener))) world fun _ =>
        Reacted server start := by
  rw [contain, ensures_tryCatch]
  refine (tell_leaves listener event world).mono ?_
  rintro (fault | _) told leaves
  · exact (reportListener_within _ told).mono fun _ _ => (reacted.leaves leaves).leaves
  · exact reacted.leaves leaves

/-- Every listener is told, and the callback is among them. -/
theorem Poised.forM {command : Text} {arguments : List Text} {root : Option Text} {event : Event}
    {listeners : List Listener} (poised : Poised who callback start world)
    (rest : Rest start.session)
    (made : ∀ server, start.session.server = some server → server < start.servers.length)
    (reacts : callback.script = [.start command arguments root])
    (admits : callback.admits event.arguments = true) (depth : Nat)
    (listens : .callback who ∈ listeners) :
    Ensures (listeners.forM fun listener => contain (tell (nestedCalls depth) listener event) do
      record (Log.listenerFailed (← listenerLabel listener))) world fun _ =>
        Reacted start.servers.length start := by
  -- on the listeners: those before the callback leave it poised, those after it the session
  induction listeners generalizing world with
  | nil => simp at listens
  | cons listener listeners ih =>
      by_cases reacting : listener = .callback who
      · subst reacting
        have reacts : Ensures (contain (tell (nestedCalls depth) (.callback who) event) do
            record (Log.listenerFailed (← listenerLabel (.callback who)))) world fun _ =>
              Reacted start.servers.length start := by
          rw [contain, ensures_tryCatch]
          refine (poised.reacts rest made reacts admits depth).mono ?_
          rintro (fault | _) world' reacted
          · exact (reportListener_within _ world').mono fun _ _ => reacted.leaves
          · exact reacted
        refine Ensures.bind reacts fun _ _ reacted => ?_
        exact Ensures.forM (fun listener _ _ reacted => reacted.told listener event) reacted
      · have remains := List.mem_of_ne_of_mem (Ne.symm reacting) listens
        exact (contained_succeeds listener event).ensures_bind (poised.told reacting event)
          fun _ _ poised => ih poised remains

/-! ## The end of a server -/

/--
A listener that starts the next session when it is told that the server has ended: if
the start says that the session was begun, that session is what is left when the report of
the end returns.
-/
theorem session_survives_exit {command : Text} {arguments : List Text} {root : Option Text}
    (world : World) (ended : Nat) (code : Option Int) (who : Nat) (callback : Callback Step)
    (depth : Nat) (rest : Rest world.session)
    (made : ∀ server, world.session.server = some server → server < world.servers.length)
    (current : world.session.server = some ended)
    (listens : .callback who ∈ world.subscriptions.on .log)
    (known : world.cast.callbacks[who]? = some callback) (waits : who ∉ world.cast.spent)
    (reacts : callback.script = [.start command arguments root])
    (admits : callback.admits [.string "LSP process exited."] = true)
    (passive : Passive (world.trusting who)) :
    Ensures (serverEnded (nestedCalls depth) ended code) world fun ending world' =>
      ∃ added, world'.journal.entries = world.journal.entries ++ added ∧
        (.did "start" (.bool true) ∈ added → ending = .ok () ∧
          world'.session.server = some world.servers.length ∧
          world'.session.phase = .starting ∧
          .killed world.servers.length ∉ added ∧ .closed world.servers.length ∉ added) := by
  have poised : Poised who callback world world :=
    ⟨⟨passive, rfl, refl_of (Adds _) _, refl_of Ebbs _⟩, waits, known⟩
  have told : Ensures (emitLog (nestedCalls depth) "LSP process exited.")
      (world.noting (.logged (Log.serverExited code))) fun _ => Reacted world.servers.length world := by
    simp only [emitLog, emit, Subscriptions.emit, ensures_bind, record, ensures_write,
      ensures_getSubscriptions, add_eq_noting]
    have logged (note : Log.Record) : Neutral (.logged note) := trivial
    have emitted (event : Event) : Neutral (.emitted event) := trivial
    have poised := ((poised.noting (logged (Log.serverExited code))).noting
      (logged (Log.sessionEvent "LSP process exited."))).noting (emitted (.log "LSP process exited."))
    have admits : callback.admits (Event.log "LSP process exited.").arguments = true := admits
    exact poised.forM rest made reacts admits depth listens
  rw [serverEnded, ensures_bind]
  simp only [ensures_getSession, current, rest.stopping, decide_true, Bool.not_false,
    Bool.and_self, if_true]
  rw [ensures_bind, record, ensures_write, add_eq_noting]
  refine (emitLog_succeeds _).ensures_bind told fun _ told reacted => ?_
  obtain ⟨added, grown, begins⟩ := reacted.survives
  by_cases started : .did "start" (.bool true) ∈ added
  · obtain ⟨moved, beginning, spared⟩ := begins started
    -- the report is about the old server, which is not that of the session any more
    have other : ended ≠ world.servers.length := (made ended current).ne
    rw [stop, ensures_bind]
    simp only [ensures_getSession, moved]
    split
    · exact ⟨added, grown, fun _ => ⟨rfl, moved, beginning.phase, spared⟩⟩
    · next stays =>
      simp [other] at stays
  · have stops : Ensures (stop (nestedCalls depth) (some ended)) told fun _ => Tamed Unscripted told :=
      ensures_noted (stop_notes unscripted_talking fun _ _ _ => Ends.unscripted) reacted.rest.passive
    refine stops.mono ?_
    rintro ending world' noted
    obtain ⟨later, grown', unscripted⟩ := noted.adds
    refine ⟨added ++ later, by rw [grown', grown, List.append_assoc], fun member => ?_⟩
    exact (List.mem_append.mp member).elim (absurd · started) (unscripted _ · |>.elim)

end

/-- Starts the next session when anything is logged. -/
def restarter : Callback Step where
  kind := "log"
  name := "restarter"
  script := [.start "srv" [] none]

/-- The server has yet to accept the session when it ends. -/
def restartWorld : World where
  session := { phase := .starting, server := some 0, nextId := 2, handshakeId := some 1,
               pending := ⟨[(.nat 1, .handshake)]⟩ }
  subscriptions := { log := [.callback 0] }
  cast := { callbacks := [restarter] }
  servers := [⟨["srv"], {}, false, some 1, false, 0, 0⟩]

theorem restartWorld_rest : Rest restartWorld.session :=
  ⟨.inr (.inl ⟨rfl, rfl, rfl, rfl, rfl, rfl, rfl⟩), rfl, rfl⟩

theorem restartWorld_passive : Passive (restartWorld.trusting 0) where
  callbacks who callback known := by
    cases who with
    | zero => exact .inr List.mem_cons_self
    | succ who => simp [World.trusting, restartWorld] at known
  servers := by
    simp only [World.trusting, restartWorld, List.mem_singleton, forall_eq]
    exact fun _ => rfl
  factory _ := rfl

def tellsOfStart : Entry → Bool
  | .did operation (.bool true) => operation = "start"
  | _ => false

theorem eq_of_tellsOfStart {entry : Entry} (tells : tellsOfStart entry = true) :
    entry = .did "start" (.bool true) := by
  unfold tellsOfStart at tells
  split at tells
  · rw [of_decide_eq_true tells]
  · simp at tells

theorem session_survives_exit_of_restart :
    Ensures (serverEnded (nestedCalls 1) 0 (some 1)) restartWorld fun ending world' =>
      ending = .ok () ∧ world'.session.server = some 1 ∧ world'.session.phase = .starting := by
  have starts : Ensures (serverEnded (nestedCalls 1) 0 (some 1)) restartWorld fun _ world' =>
      world'.journal.entries.any tellsOfStart = true := by
    unfold Ensures
    decide +kernel
  refine (starts.and (session_survives_exit restartWorld 0 (some 1) 0 restarter 1
    restartWorld_rest (by decide) rfl List.mem_cons_self rfl List.not_mem_nil rfl rfl
    restartWorld_passive)).mono ?_
  rintro ending world' ⟨started, added, grown, survives⟩
  obtain ⟨entry, member, tells⟩ := List.any_eq_true.mp started
  obtain rfl := eq_of_tellsOfStart tells
  rw [grown] at member
  obtain ⟨ends, server, phase, -⟩ := survives member
  exact ⟨ends, server, phase⟩

end Client

end LanguageSession
