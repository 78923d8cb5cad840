import Mathlib
import LanguageSession.Proofs.Association
import LanguageSession.Proofs.Client.Output
import LanguageSession.Proofs.Registry

/-!
# A session between calls

When listeners and response handlers do not call the client, and processes write only
between calls, every call leaves the session in one of three shapes: without a server,
with a server that has yet to accept the session, or open.  A session that is to be
aborted is ended before the call returns, unless the call fails before it was asked for.
-/

namespace LanguageSession

namespace Client

open Act

/-! ## Shapes -/

structure Vacant (session : Session) : Prop where
  phase : session.phase = .notStarted ∨ session.phase = .stopped
  server : session.server = none
  ready : session.ready = false
  pending : session.pending.entries = []
  documents : session.documents.versions = []
  buffer : session.buffer = []
  handshakeId : session.handshakeId = none

structure Beginning (session : Session) : Prop where
  phase : session.phase = .starting
  server : session.server.isSome
  ready : session.ready = false
  pending : session.pending.entries = [(.nat 1, .handshake)]
  documents : session.documents.versions = []
  handshakeId : session.handshakeId = some 1
  nextId : session.nextId = 2

structure Opened (session : Session) : Prop where
  phase : session.phase = .ready
  server : session.server.isSome
  ready : session.ready = true
  pending : ∀ entry ∈ session.pending.entries,
    entry.2 ≠ .handshake ∧ ∃ id, entry.1 = .nat id ∧ 2 ≤ id ∧ id < session.nextId
  documents : ∀ document ∈ session.documents.versions, 1 ≤ document.2
  handshakeId : session.handshakeId = none
  nextId : 2 ≤ session.nextId

structure Rest (session : Session) : Prop where
  shape : Vacant session ∨ Beginning session ∨ Opened session
  stopping : session.stopping = false
  abortRequested : session.abortRequested = false

/-- The session is to be ended. -/
structure Failing (session : Session) : Prop where
  server : session.server.isSome
  stopping : session.stopping = false
  abortRequested : session.abortRequested = true

theorem Rest.of_served {session : Session} (rest : Rest session) (served : session.server.isSome) :
    Beginning session ∨ Opened session := by
  rcases rest.shape with vacant | shape
  · simp [vacant.server] at served
  · exact shape

theorem Rest.vacant {session : Session} (rest : Rest session) (unserved : session.server = none) :
    Vacant session := by
  rcases rest.shape with vacant | beginning | opened
  · exact vacant
  · simpa [unserved] using beginning.server
  · simpa [unserved] using opened.server

theorem Rest.opened {session : Session} (rest : Rest session) (ready : session.ready = true) :
    Opened session := by
  rcases rest.shape with vacant | beginning | opened
  · simp [vacant.ready] at ready
  · simp [beginning.ready] at ready
  · exact opened

theorem Rest.phase_ne_shuttingDown {session : Session} (rest : Rest session) :
    session.phase ≠ .shuttingDown := by
  rcases rest.shape with vacant | beginning | opened
  · rcases vacant.phase with phase | phase <;> simp [phase]
  · simp [beginning.phase]
  · simp [opened.phase]

/-! ## Passive worlds -/

/-- Nothing is replied before a write has returned. -/
def Silent (conduct : Conduct) : Prop := ∀ message, conduct.replies message = []

structure Passive (world : World) : Prop where
  callbacks : ∀ who callback, world.cast.callbacks[who]? = some callback →
    callback.script = [] ∨ who ∈ world.cast.spent
  servers : ∀ process ∈ world.servers, Silent process.conduct
  factory : Silent world.factory

theorem Passive.kept {world : World} (passive : Passive world) {settings : Settings}
    {session : Session} {subscriptions : Subscriptions Listener}
    {handles : List (Text × Channel × Listener)} {mail : List (Nat × Completion)} {nextSlot : Nat}
    {collected : List (Text × List Json)} {journal : Journal} :
    Passive ⟨settings, session, subscriptions, handles, world.cast, world.servers, world.factory,
      mail, nextSlot, collected, journal⟩ :=
  ⟨passive.callbacks, passive.servers, passive.factory⟩

/-- What may be noted while the session stays as it is. -/
def Plain : Entry → Prop
  | .called _ _ _ _ => True
  | entry => Neutral entry

theorem Neutral.plain {entry : Entry} (neutral : Neutral entry) : Plain entry := by
  cases entry <;> trivial

/-- All that was noted is of this kind. -/
def Adds (kind : Entry → Prop) (world world' : World) : Prop :=
  ∃ added, world'.journal.entries = world.journal.entries ++ added ∧ ∀ entry ∈ added, kind entry

structure Ebbs (world world' : World) : Prop where
  count : world'.servers.length = world.servers.length
  running : ∀ server, world'.isRunning server = true → world.isRunning server = true

/-- The session is left as it is, and the world passive; little is noted but what is allowed. -/
structure Left (allowed : Entry → Prop) (world world' : World) : Prop where
  passive : Passive world'
  session : world'.session = world.session
  adds : Adds (fun entry => Plain entry ∨ allowed entry) world world'
  ebbs : Ebbs world world'

def LeavesBut (allowed : Entry → Prop) (world world' : World) : Prop :=
  Passive world → Left allowed world world'

abbrev Leaves : World → World → Prop := LeavesBut fun _ => False

theorem Passive.modifying {world : World} (passive : Passive world) (server : Nat)
    {change : Server → Server}
    (silent : ∀ process, Silent process.conduct → Silent (change process).conduct) :
    Passive (world.modifyServer server change) where
  callbacks := passive.callbacks
  factory := passive.factory
  servers := by
    intro process member
    obtain ⟨index, short, rfl⟩ := List.getElem_of_mem member
    simp only [World.modifyServer, List.length_modify] at short
    have before := passive.servers _ (List.getElem_mem short)
    simp only [World.modifyServer, List.getElem_modify]
    split
    · exact silent _ before
    · exact before

instance (kind : Entry → Prop) : IsPreorder World (Adds kind) where
  refl world := ⟨[], (List.append_nil _).symm, by simp⟩
  trans first second third := by
    rintro ⟨before, grown, allowed⟩ ⟨after, grown', allowed'⟩
    refine ⟨before ++ after, by rw [grown', grown, List.append_assoc], ?_⟩
    intro entry member
    exact (List.mem_append.mp member).elim (allowed entry) (allowed' entry)

theorem adds_of_journal {kind : Entry → Prop} {world world' : World}
    (same : world'.journal = world.journal) : Adds kind world world' :=
  ⟨[], by rw [same, List.append_nil], by simp⟩

theorem adds_noting {kind : Entry → Prop} {entry : Entry} (allowed : kind entry) (world : World) :
    Adds kind world (world.noting entry) :=
  ⟨[entry], rfl, by simpa using allowed⟩

instance : IsPreorder World Ebbs where
  refl _ := ⟨rfl, fun _ => id⟩
  trans _ _ _ before after :=
    ⟨after.count.trans before.count, fun server => before.running server ∘ after.running server⟩

theorem ebbs_of_servers {world world' : World} (same : world'.servers = world.servers) :
    Ebbs world world' := by
  constructor
  · rw [same]
  · intro server
    simp [World.isRunning, World.server?, same]

theorem ebbs_modifying (world : World) (server : Nat) {change : Server → Server}
    (lowers : ∀ process, (change process).running = true → process.running = true) :
    Ebbs world (world.modifyServer server change) := by
  constructor
  · simp [World.modifyServer]
  · intro other
    simp only [World.isRunning, World.server?, World.modifyServer, List.getElem?_modify]
    cases world.servers[other]? with
    | none => exact id
    | some process =>
        simp only [Option.any_some]
        split
        · exact lowers process
        · exact id

instance (allowed : Entry → Prop) : Tolerant (LeavesBut allowed) where
  refl world passive := ⟨passive, rfl, refl_of (Adds _) world, refl_of Ebbs world⟩
  trans first second third before after passive := by
    obtain ⟨passive, same, adds, ebbs⟩ := before passive
    obtain ⟨passive, later, adds', ebbs'⟩ := after passive
    exact ⟨passive, later.trans same, trans_of (Adds _) adds adds', trans_of Ebbs ebbs ebbs'⟩
  noting world _ neutral passive :=
    ⟨passive.kept, rfl,
      adds_noting (.inl neutral.plain) world, ebbs_of_servers rfl⟩
  modifying world server change weakens passive := by
    refine ⟨passive.modifying server ?_, rfl, adds_of_journal rfl,
      ebbs_modifying world server fun process => (weakens process).2⟩
    intro process silent
    rw [(weakens process).1]
    exact silent

theorem leaves_of_parts {allowed : Entry → Prop} {world world' : World}
    (callbacks : world'.cast.callbacks = world.cast.callbacks)
    (spent : world.cast.spent ⊆ world'.cast.spent)
    (servers : world'.servers = world.servers) (factory : world'.factory = world.factory)
    (session : world'.session = world.session)
    (adds : Adds (fun entry => Plain entry ∨ allowed entry) world world') :
    LeavesBut allowed world world' := by
  intro passive
  refine ⟨⟨?_, ?_, ?_⟩, session, adds, ebbs_of_servers servers⟩
  · rw [callbacks]
    exact fun who callback known => (passive.callbacks who callback known).imp_right (spent ·)
  · rw [servers]
    exact passive.servers
  · rw [factory]
    exact passive.factory

theorem within_of_passive {α : Type} {action : Act World α}
    (leaves : ∀ world, Passive world → Ensures action world fun _ => Leaves world) :
    Within Leaves action := by
  intro world passive
  exact leaves world passive passive

theorem leaves_bind {α β : Type} {action : Act World α} {next : α → Act World β} {world : World}
    {post : Except Fault β → World → Prop} (succeeds : Succeeds action)
    (leaves : Within Leaves action) (passive : Passive world)
    (second : ∀ value world', Passive world' → world'.session = world.session →
      Ensures (next value) world' post) : Ensures (action >>= next) world post := by
  have left : Ensures action world fun _ => Left (fun _ => False) world := leaves world passive
  exact succeeds.ensures_bind left fun value world' left =>
    second value world' left.passive left.session

/-! ## Callbacks and events -/

section

variable {nested : Nested}

/-- How a call of a callback ends that runs no script. -/
def idleOutcome (callback : Callback Step) (arguments : List Json) : Except Fault Unit :=
  if callback.admits arguments && callback.raises then .error (.raised "boom") else .ok ()

/-- The world after such a call, in which the script counts as run. -/
def World.spending (who : Nat) (callback : Callback Step) (arguments : List Json)
    (world : World) : World :=
  { world with
    cast := { world.cast with
      spent := if callback.admits arguments && !world.cast.spent.contains who then
        who :: world.cast.spent else world.cast.spent } }

theorem invoke_idle {world : World} {perform : Step → Act World Json} {who : Nat}
    {callback : Callback Step} (arguments : List Json) (known : world.cast.callbacks[who]? = some callback)
    (idle : callback.script = [] ∨ who ∈ world.cast.spent) :
    Ensures (invoke Step.operation perform who arguments) world fun ending world' =>
      ending = idleOutcome callback arguments ∧
        world' = (world.noting (.called who callback.kind callback.name arguments)).spending
          who callback arguments := by
  have raise (start : World) : Ensures
      (if callback.raises then throw (.raised "boom") else pure () : Act World Unit) start
      fun ending world' => ending = (if callback.raises then .error (.raised "boom") else .ok ()) ∧
        world' = start := by
    split <;> exact ⟨rfl, rfl⟩
  simp only [invoke, ensures_bind, ensures_getCast, known, ensures_write, add_eq_noting, proceed,
    idleOutcome, World.spending]
  cases callback.admits arguments with
  | false => exact ⟨rfl, rfl⟩
  | true =>
      simp only [if_true, Bool.true_and, ensures_bind, ensures_getCast]
      split
      · next spent =>
        simp only [spent, Bool.not_true, Bool.false_eq_true, if_false]
        exact raise _
      · next unspent =>
        have idle : callback.script = [] := idle.resolve_right (by simpa using unspent)
        simp only [unspent, idle, Bool.not_false, if_true]
        exact raise _

theorem spent_spending (who : Nat) (callback : Callback Step) (arguments : List Json)
    (world : World) : world.cast.spent ⊆ (world.spending who callback arguments).cast.spent := by
  simp only [World.spending]
  split
  · exact List.subset_cons_self _ _
  · exact List.Subset.refl _

theorem invoke_leaves (perform : Step → Act World Json) (who : Nat) (arguments : List Json) :
    Within Leaves (invoke Step.operation perform who arguments) := by
  refine within_of_passive fun world passive => ?_
  cases known : world.cast.callbacks[who]? with
  | none =>
      simp only [invoke, ensures_bind, ensures_getCast, known]
      exact refl_of Leaves world
  | some callback =>
      refine (invoke_idle arguments known (passive.callbacks who callback known)).mono ?_
      rintro _ world' ⟨-, rfl⟩
      exact leaves_of_parts rfl (spent_spending _ _ _ (world.noting _)) rfl rfl rfl
        (adds_noting (.inl trivial) world)

theorem tell_leaves (listener : Listener) (event : Event) :
    Within Leaves (tell nested listener event) := by
  cases listener with
  | callback who => exact invoke_leaves _ who _
  | echo =>
      cases event with
      | log text => exact within_write trivial
      | _ => exact within_pure _
  | collect =>
      cases event with
      | diagnostics uri items =>
          exact fun world => leaves_of_parts rfl (List.Subset.refl _) rfl rfl rfl (adds_of_journal rfl)
      | _ => exact within_pure _

theorem emit_leaves (event : Event) : Within Leaves (emit nested event) := by
  intro world
  exact ensures_emit Leaves fun listener _ world' _ => tell_leaves listener event world'

theorem emitLog_leaves (text : Text) : Within Leaves (emitLog nested text) :=
  Within.bind (within_record _) fun _ => emit_leaves _

/-! ## Writing -/

/-- Nothing has changed but that the end of the session may have been asked for. -/
def Attempted (session session' : Session) : Prop :=
  session' = session ∨ session.server.isSome ∧ session' = { session with abortRequested := true }

theorem Attempted.trans {first second third : Session} (before : Attempted first second)
    (after : Attempted second third) : Attempted first third := by
  rcases before with rfl | ⟨served, rfl⟩
  · exact after
  · rcases after with rfl | ⟨-, rfl⟩
    · exact .inr ⟨served, rfl⟩
    · exact .inr ⟨served, rfl⟩

/-- In a passive world the action ends well and at most asks for the end of the session. -/
def Attempts {α : Type} (action : Act World α) : Prop :=
  ∀ world, Passive world → Ensures action world fun ending world' =>
    (∃ value, ending = .ok value) ∧ Passive world' ∧ Attempted world.session world'.session

theorem Attempts.bind {α β : Type} {action : Act World α} {next : α → Act World β}
    (first : Attempts action) (second : ∀ value, Attempts (next value)) :
    Attempts (action >>= next) := by
  intro world passive
  rw [ensures_bind]
  refine (first world passive).mono ?_
  rintro _ middle ⟨⟨value, rfl⟩, passive, attempted⟩
  refine (second value middle passive).mono ?_
  rintro ending world' ⟨ends, passive, later⟩
  exact ⟨ends, passive, attempted.trans later⟩

theorem attempts_of_leaves {α : Type} {action : Act World α} (succeeds : Succeeds action)
    (leaves : Within Leaves action) : Attempts action := by
  intro world passive
  obtain ⟨passive, same⟩ := leaves world passive
  exact ⟨succeeds world, passive, .inl same⟩

theorem deliver_passive (server : Nat) (message : Json) (data : Bytes) :
    Attempts (deliver nested server message data) := by
  intro world passive
  simp only [deliver, ensures_bind, ensures_get]
  split
  · exact ⟨⟨none, rfl⟩, passive, .inl rfl⟩
  · next process known =>
    have silent : Silent process.conduct := passive.servers process (List.mem_of_getElem? known)
    have counted : Passive (world.modifyServer server fun process =>
        { process with writes := process.writes + 1 }) := passive.modifying server fun _ => id
    simp only [ensures_bind, ensures_modify]
    split
    · exact ⟨⟨_, rfl⟩, counted.kept, .inl rfl⟩
    · simp only [ensures_bind, ensures_write, add_eq_noting, ensures_modify, silent message]
      refine ⟨⟨none, rfl⟩, Passive.modifying ?_ server ?_, .inl rfl⟩
      · exact counted.kept
      · intro process silent
        rw [(accept_weakens message process).1]
        exact silent

theorem record_passive (note : Log.Record) : Attempts (record note : Act World Unit) :=
  attempts_of_leaves (record_succeeds _) (within_record _)

theorem emitLog_passive (text : Text) : Attempts (emitLog nested text) :=
  attempts_of_leaves (emitLog_succeeds _) (emitLog_leaves _)

theorem Attempted.server {session session' : Session} (attempted : Attempted session session') :
    session'.server = session.server := by
  rcases attempted with rfl | ⟨-, rfl⟩ <;> rfl

theorem writeMessage_passive (message : Json) (data : Bytes) :
    Attempts (writeMessage nested message data) := by
  intro world passive
  simp only [writeMessage, ensures_bind, ensures_getSession]
  cases served : world.session.server with
  | none => exact ⟨⟨(), rfl⟩, passive, .inl rfl⟩
  | some server =>
      refine leaves_bind (look_succeeds server) (look_within server) passive ?_
      intro running looked passive same
      rw [← same]
      split
      · rw [ensures_bind]
        refine (deliver_passive server message data looked passive).mono ?_
        rintro _ delivered ⟨⟨reason, rfl⟩, passive, attempted⟩
        cases reason with
        | none =>
            refine (record_passive _ delivered passive).mono ?_
            rintro ending written ⟨ends, passive, later⟩
            exact ⟨ends, passive, attempted.trans later⟩
        | some reason =>
            dsimp only
            rw [ensures_bind]
            refine (emitLog_passive _ delivered passive).mono ?_
            rintro _ told ⟨⟨_, rfl⟩, passive, later⟩
            have attempted := attempted.trans later
            refine ⟨⟨(), rfl⟩, passive.kept, ?_⟩
            refine attempted.trans (.inr ⟨?_, rfl⟩)
            rw [attempted.server, same, served]
            rfl
      · exact ⟨⟨(), rfl⟩, passive, .inl rfl⟩

theorem sendNotification_passive (method : Text) (params : Json) :
    Attempts (sendNotification nested method params) := by
  unfold sendNotification
  dsimp only
  split
  · exact attempts_of_leaves (succeeds_pure _) (within_pure _)
  · refine Attempts.bind (writeMessage_passive _ _) fun _ => ?_
    exact attempts_of_leaves (succeeds_pure _) (within_pure _)

theorem notify_passive (method : Text) (params : Json) :
    Attempts (notify nested method params) := by
  refine Attempts.bind (sendNotification_passive _ _) fun sent => ?_
  split
  · refine Attempts.bind (record_passive _) fun _ => ?_
    exact attempts_of_leaves (succeeds_pure _) (within_pure _)
  · exact attempts_of_leaves (succeeds_pure _) (within_pure _)

/-- The session after the next id was given out to a handler, if there is one. -/
def promised (session : Session) (handler : Option Handler) : Session :=
  { session with
    nextId := session.nextId + 1
    pending := match handler with
      | none => session.pending
      | some handler => ⟨Registry.insert (.nat session.nextId) handler session.pending.entries⟩ }

theorem sendRequest_passive (method : Text) (params : Json) (handler : Option Handler)
    {world : World} (passive : Passive world) :
    Ensures (sendRequest nested method params handler) world fun ending world' =>
      Passive world' ∧ match ending with
        | .ok (.ok id) => id = world.session.nextId ∧
            Attempted (promised world.session handler) world'.session
        | .ok (.error _) => world'.session = world.session
        | .error _ => False := by
  simp only [sendRequest, ensures_bind, ensures_getSession]
  split
  · exact ⟨passive, rfl⟩
  · next data encoded =>
    have written : ∀ start : World, Passive start → start.session = promised world.session handler →
        Ensures (writeMessage nested (Message.request (.nat world.session.nextId)
          (.string method) params) data) start fun ending world' => ∃ value, ending = .ok value ∧
            Passive world' ∧ Attempted (promised world.session handler) world'.session := by
      intro start passive same
      refine (writeMessage_passive _ data start passive).mono ?_
      rintro _ world' ⟨⟨value, rfl⟩, passive, attempted⟩
      exact ⟨value, rfl, passive, same ▸ attempted⟩
    have sent : Passive { world with
        session := { world.session with nextId := world.session.nextId + 1 } } :=
      passive.kept
    simp only [ensures_bind, ensures_modifySession]
    cases handler with
    | none =>
        simp only [ensures_bind]
        refine (written _ sent rfl).mono ?_
        rintro _ world' ⟨value, rfl, passive, attempted⟩
        exact ⟨passive, rfl, attempted⟩
    | some handler =>
        simp only [ensures_bind, ensures_await]
        refine Ensures.mono (written _ ?registered ?same) ?sent
        case registered =>
          cases handler <;> exact passive.kept
        case same => cases handler <;> rfl
        case sent =>
          rintro _ world' ⟨value, rfl, passive, attempted⟩
          exact ⟨passive, rfl, attempted⟩

/-! ## Stopping -/

theorem setPhase_passive (phase : Phase) {world : World} (passive : Passive world) :
    Ensures (setPhase phase) world fun ending world' => ending = .ok () ∧ Passive world' ∧
      world'.session = { world.session with phase := phase } := by
  simp only [setPhase, ensures_bind, ensures_getSession]
  split
  · next same =>
    subst same
    exact ⟨rfl, passive, rfl⟩
  · exact ⟨rfl, passive.kept, rfl⟩

theorem setReady_passive (ready : Bool) {world : World} (passive : Passive world) :
    Ensures (setReady nested ready) world fun ending world' => ending = .ok () ∧ Passive world' ∧
      world'.session = if world.session.ready = ready then world.session else
        { world.session with
          ready := ready, phase := if ready then .ready else world.session.phase } := by
  have told {start : World} (passive : Passive start) :
      Ensures (emit nested (.ready ready)) start fun ending world' => ending = .ok () ∧
        Passive world' ∧ world'.session = start.session := by
    have succeeds : Succeeds (emit nested (.ready ready)) := emit_succeeds _
    obtain ⟨value, ends⟩ := succeeds start
    obtain ⟨passive, same⟩ := emit_leaves (.ready ready) start passive
    exact ⟨ends, passive, same⟩
  simp only [setReady, ensures_bind, ensures_getSession]
  split
  · exact ⟨rfl, passive, rfl⟩
  · simp only [ensures_bind, ensures_modifySession]
    have marked : Passive { world with session := { world.session with ready := ready } } :=
      passive.kept
    split
    · rw [ensures_bind]
      refine (setPhase_passive .ready marked).mono ?_
      rintro _ begun ⟨rfl, passive, same⟩
      refine (told passive).mono ?_
      rintro ending world' ⟨ends, passive, later⟩
      exact ⟨ends, passive, later.trans same⟩
    · exact told marked

theorem unready_passive {world : World} (passive : Passive world) :
    Ensures (setReady nested false) world fun ending world' => ending = .ok () ∧ Passive world' ∧
      world'.session = { world.session with ready := false } := by
  refine (setReady_passive false passive).mono ?_
  rintro ending world' ⟨ends, passive, same⟩
  refine ⟨ends, passive, ?_⟩
  rw [same]
  split
  · next unready =>
    rw [← unready]
  · rfl

/-- The session is over. -/
structure Ended (world : World) : Prop where
  passive : Passive world
  rest : Rest world.session
  server : world.session.server = none

theorem forget_passive (server : Nat) {world : World} (passive : Passive world) :
    Ensures (forget nested server) world fun ending world' =>
      ending = .ok () ∧ Ended world' ∧ world'.session.phase = .stopped := by
  -- what remains to be done, told or not that the session is unready
  have settled {start : World} (passive : Passive start)
      (same : start.session = { world.session with
        server := none, buffer := [], pending := {}, documents := {}
        handshakeId := none, abortRequested := false }) :
      Ensures (do
        setReady nested false
        setPhase .stopped
        modifyThe Session fun session => { session with stopping := false } : Act World Unit) start
        fun ending world' =>
          ending = .ok () ∧ Ended world' ∧ world'.session.phase = .stopped := by
    rw [ensures_bind]
    refine (unready_passive passive).mono ?_
    rintro _ unready ⟨rfl, passive, later⟩
    dsimp only
    rw [ensures_bind]
    refine (setPhase_passive .stopped passive).mono ?_
    rintro _ stopped ⟨rfl, passive, last⟩
    rw [later, same] at last
    simp only [ensures_modifySession, last]
    refine ⟨trivial, ⟨passive.kept, ?_, rfl⟩, trivial⟩
    exact ⟨.inl ⟨.inr rfl, rfl, rfl, rfl, rfl, rfl, rfl⟩, rfl, rfl⟩
  unfold forget
  rw [ensures_bind]
  simp only [ensures_get]
  rw [ensures_bind]
  simp only [record, ensures_write, add_eq_noting]
  rw [ensures_bind]
  simp only [ensures_modifySession]
  rw [ensures_bind]
  simp only [ensures_write, add_eq_noting]
  rw [ensures_bind]
  simp only [ensures_write, add_eq_noting]
  exact settled passive.kept rfl

theorem passive_bind {α β : Type} {action : Act World α} {next : α → Act World β} {world : World}
    {post : Except Fault β → World → Prop}
    (first : Ensures action world fun ending world' =>
      (∃ value, ending = .ok value) ∧ Passive world')
    (second : ∀ value world', Passive world' → Ensures (next value) world' post) :
    Ensures (action >>= next) world post := by
  rw [ensures_bind]
  refine first.mono ?_
  rintro _ world' ⟨⟨value, rfl⟩, passive⟩
  exact second value world' passive

theorem askToEnd_passive (server : Nat) {world : World} (passive : Passive world) :
    Ensures (askToEnd nested server) world fun ending world' =>
      (∃ value, ending = .ok value) ∧ Passive world' := by
  -- what is asked does not matter here, only that asking does not fail
  have asked (session : Session) (running : Bool) {start : World} (passive : Passive start) :
      Ensures (if (running && !session.abortRequested) = true then do
          setPhase .shuttingDown
          let _ ← sendRequest nested "shutdown" .null none
          let _ ← sendNotification nested "exit" .null
          return true
        else return false) start fun ending world' =>
          (∃ value, ending = .ok value) ∧ Passive world' := by
    split
    · refine passive_bind ?_ fun _ begun passive => passive_bind ?_ fun _ sent passive => ?_
      · refine (setPhase_passive .shuttingDown passive).mono ?_
        rintro _ _ ⟨ends, passive, -⟩
        exact ⟨⟨_, ends⟩, passive⟩
      · refine (sendRequest_passive "shutdown" .null none passive).mono ?_
        rintro (fault | value) _ ⟨passive, ends⟩
        · exact ends.elim
        · exact ⟨⟨value, rfl⟩, passive⟩
      · refine passive_bind ?_ fun _ _ passive => ⟨⟨true, rfl⟩, passive⟩
        refine (sendNotification_passive "exit" .null sent passive).mono ?_
        rintro _ _ ⟨ends, passive, -⟩
        exact ⟨ends, passive⟩
    · exact ⟨⟨false, rfl⟩, passive⟩
  unfold askToEnd
  rw [ensures_bind]
  simp only [ensures_getSession]
  split
  · have looked : Ensures (look server) world fun _ => Leaves world := look_within server world
    refine passive_bind ?_ fun running _ passive => asked _ running passive
    exact ⟨look_succeeds server world, (looked passive).1⟩
  · refine passive_bind ?_ fun running _ passive => asked _ running passive
    exact ⟨⟨false, rfl⟩, passive⟩

def Ends (server : Nat) (entry : Entry) : Prop := entry = .killed server ∨ entry = .closed server

theorem dismiss_leaves (server : Nat) (graceful : Bool) :
    Within (LeavesBut (Ends server)) (dismiss server graceful) := by
  have noted {entry : Entry} (ends : Ends server entry) (world : World) :
      LeavesBut (Ends server) world (world.noting entry) :=
    leaves_of_parts rfl (List.Subset.refl _) rfl rfl rfl (adds_noting (.inr ends) world)
  exact dismiss_within server graceful (noted (.inl rfl)) (noted (.inr rfl))

theorem endSession_passive (server : Nat) {world : World} (passive : Passive world) :
    Ensures (endSession nested server) world fun _ world' =>
      Ended world' ∧ world'.session.phase = .stopped := by
  unfold endSession
  rw [ensures_bind]
  simp only [ensures_modifySession]
  rw [ensures_bind]
  simp only [ensures_write, add_eq_noting]
  refine passive_bind (askToEnd_passive server ?_) fun graceful asked passive => ?_
  · exact passive.kept
  · rw [ensures_bind, ensures_tryCatch]
    have dismissed : Ensures (dismiss server graceful) asked fun _ => LeavesBut _ asked :=
      dismiss_leaves server graceful asked
    refine dismissed.mono ?_
    rintro (fault | _) world' left
    · dsimp only
      rw [ensures_bind]
      refine (forget_passive server (left passive).1).mono ?_
      rintro _ _ ⟨rfl, ended⟩
      exact ended
    · refine (forget_passive server (left passive).1).mono ?_
      rintro _ _ ⟨-, ended⟩
      exact ended

theorem stop_ends {expected : Option Nat} {server : Nat} {world : World} (passive : Passive world)
    (served : world.session.server = some server) (own : ∀ other ∈ expected, other = server)
    (stopping : world.session.stopping = false) :
    Ensures (stop nested expected) world fun _ world' =>
      Ended world' ∧ world'.session.phase = .stopped := by
  have wanted : expected.any (· ≠ server) = false := by
    cases expected with
    | none => rfl
    | some other => simp [own other rfl]
  unfold stop
  rw [ensures_bind]
  simp only [ensures_getSession, served, stopping, wanted, Bool.or_self, Bool.false_eq_true,
    if_false]
  exact endSession_passive server passive

theorem stop_passive {expected : Option Nat} {world : World} (passive : Passive world)
    (own : ∀ server ∈ expected, world.session.server = some server)
    (stopping : world.session.stopping = false)
    (rest : world.session.server = none → Rest world.session) :
    Ensures (stop nested expected) world fun _ => Ended := by
  cases served : world.session.server with
  | none =>
      unfold stop
      rw [ensures_bind]
      simp only [ensures_getSession, served]
      exact ⟨passive, rest served, served⟩
  | some server =>
      refine (stop_ends passive served ?_ stopping).mono fun _ _ => And.left
      intro other member
      simpa [served, eq_comm] using own other member

structure AtRest (world : World) : Prop where
  passive : Passive world
  rest : Rest world.session

/-- A session at rest, or one that is still to be ended. -/
def Pausing (session : Session) : Prop := Rest session ∨ Failing session

theorem Ended.atRest {world : World} (ended : Ended world) : AtRest world :=
  ⟨ended.passive, ended.rest⟩

theorem Failing.ended {world : World} (failing : Failing world.session) (passive : Passive world) :
    Ensures (stopIfAborted nested) world fun _ world' =>
      Ended world' ∧ world'.session.phase = .stopped := by
  obtain ⟨server, served⟩ := Option.isSome_iff_exists.mp failing.server
  unfold stopIfAborted
  rw [ensures_bind]
  simp only [ensures_getSession]
  rw [failing.abortRequested, failing.stopping, served]
  exact stop_ends passive served (by simp) failing.stopping

theorem Rest.unstopped {world : World} (rest : Rest world.session)
    (post : Except Fault Unit → World → Prop) :
    Ensures (stopIfAborted nested) world post ↔ post (.ok ()) world := by
  unfold stopIfAborted
  rw [ensures_bind]
  simp only [ensures_getSession]
  rw [rest.abortRequested]
  exact Iff.rfl

theorem stopIfAborted_passive {world : World} (passive : Passive world)
    (pausing : Pausing world.session) :
    Ensures (stopIfAborted nested) world fun _ => AtRest := by
  rcases pausing with rest | failing
  · rw [rest.unstopped]
    exact ⟨passive, rest⟩
  · exact (failing.ended passive).mono fun _ _ ended => ended.1.atRest

theorem Rest.attempted {session session' : Session} (rest : Rest session)
    (attempted : Attempted session session') : Pausing session' := by
  rcases attempted with rfl | ⟨served, rfl⟩
  · exact .inl rest
  · exact .inr ⟨served, rest.stopping, rfl⟩

/-! ## Output of a server -/

theorem Beginning.accepted {session : Session} (beginning : Beginning session) :
    Opened { session with pending := {}, handshakeId := none, ready := true, phase := .ready } where
  phase := rfl
  server := beginning.server
  ready := rfl
  pending := by simp
  documents := by simp [beginning.documents]
  handshakeId := rfl
  nextId := beginning.nextId.ge

/-- The action ended well and may have asked for the end of the session. -/
structure Pauses {α : Type} (session : Session) (ending : Except Fault α) (world : World) :
    Prop where
  ends : ∃ value, ending = .ok value
  passive : Passive world
  pausing : Pausing world.session
  server : world.session.server = session.server
  buffer : world.session.buffer = session.buffer

theorem requestAbort_passive {world : World} (passive : Passive world)
    (served : world.session.server.isSome) (stopping : world.session.stopping = false) :
    Ensures requestAbort world (Pauses world.session) where
  ends := ⟨(), rfl⟩
  passive := passive.kept
  pausing := .inr ⟨served, stopping, rfl⟩
  server := rfl
  buffer := rfl

theorem finishHandshake_passive (completion : Completion) {session : Session}
    (rest : Rest session) (beginning : Beginning session) {world : World} (passive : Passive world)
    (same : world.session = { session with pending := {} }) :
    Ensures (finishHandshake nested completion) world (Pauses session) := by
  have passive : Passive { world with session := { world.session with handshakeId := none } } :=
    passive.kept
  unfold finishHandshake
  rw [ensures_bind]
  simp only [ensures_modifySession]
  split
  · rw [ensures_bind]
    refine (sendNotification_passive "initialized" (.object []) _ passive).mono ?_
    rintro _ sent ⟨⟨value, rfl⟩, passive, attempted⟩
    have unready : sent.session.ready = false := by
      -- open if the message was taken, and to be ended if it was refused
      rcases attempted with sent_same | ⟨-, sent_same⟩ <;> simp [sent_same, same, beginning.ready]
    refine (setReady_passive true passive).mono ?_
    rintro ending ready ⟨ends, passive, later⟩
    simp only [unready, Bool.false_eq_true, if_false, if_true] at later
    refine ⟨⟨_, ends⟩, passive, ?_, ?_, ?_⟩
    · rw [later]
      rcases attempted with sent_same | ⟨-, sent_same⟩
      · left
        rw [sent_same, same]
        exact ⟨.inr (.inr beginning.accepted), rest.stopping, rest.abortRequested⟩
      · right
        rw [sent_same, same]
        exact ⟨beginning.server, rest.stopping, rfl⟩
    all_goals rcases attempted with sent_same | ⟨-, sent_same⟩ <;> simp [later, sent_same, same]
  · refine leaves_bind (emitLog_succeeds _) (emitLog_leaves _) passive fun _ told passive left => ?_
    have left := left.trans (congrArg (fun session => { session with handshakeId := none }) same)
    refine (requestAbort_passive passive ?_ ?_).mono ?_
    · rw [left]
      exact beginning.server
    · rw [left]
      exact rest.stopping
    · rintro ending world' ⟨ends, passive, pausing, server, buffer⟩
      exact ⟨ends, passive, pausing, by rw [server, left], by rw [buffer, left]⟩

theorem complete_leaves {handler : Handler} (other : handler ≠ .handshake)
    (completion : Completion) : Within Leaves (complete nested handler completion) := by
  cases handler with
  | handshake => exact (other rfl).elim
  | mailbox slot =>
      exact fun world => leaves_of_parts rfl (List.Subset.refl _) rfl rfl rfl (adds_of_journal rfl)
  | callback who => exact invoke_leaves _ who _

/-- Whoever waits is the session itself, with its first request, or somebody else later on. -/
theorem Rest.waiting {session : Session} {before after : List (Json × Handler)} {key : Json}
    {handler : Handler} (rest : Rest session)
    (split : session.pending.entries = before ++ (key, handler) :: after) :
    (Beginning session ∧ handler = .handshake ∧ key = .nat 1 ∧ before ++ after = []) ∨
      (Opened session ∧ handler ≠ .handshake ∧
        Rest { session with pending := ⟨before ++ after⟩ }) := by
  rcases rest.shape with vacant | beginning | opened
  · simp [vacant.pending] at split
  · have whole := split.symm.trans beginning.pending
    rcases List.append_eq_singleton_iff.mp whole with ⟨rfl, whole⟩ | ⟨-, absurd⟩
    · obtain ⟨⟨rfl, rfl⟩, rfl⟩ : (key = .nat 1 ∧ handler = .handshake) ∧ after = [] := by
        simpa using whole
      exact .inl ⟨beginning, rfl, rfl, rfl⟩
    · cases absurd
  · have fewer := Registry.sublist_of_split split
    have taking : Opened { session with pending := ⟨before ++ after⟩ } :=
      { opened with pending := fun entry member => opened.pending entry (fewer.subset member) }
    have other : handler ≠ .handshake := (opened.pending (key, handler) (by simp [split])).1
    exact .inr ⟨opened, other, .inr (.inr taking), rest.stopping, rest.abortRequested⟩

/-- Whoever waits is told, and the failure goes no further. -/
theorem answer_passive (completion : Completion) (id : Json) {session : Session}
    {before after : List (Json × Handler)} {key : Json} {handler : Handler} (rest : Rest session)
    (split : session.pending.entries = before ++ (key, handler) :: after) {world : World}
    (passive : Passive world) (same : world.session = { session with pending := ⟨before ++ after⟩ }) :
    Ensures (contain (complete nested handler completion) (record (Log.handlerFailed id))) world
      (Pauses session) := by
  rw [contain, ensures_tryCatch]
  rcases rest.waiting split with ⟨beginning, rfl, -, nobody⟩ | ⟨opened, other, still⟩
  · rw [nobody] at same
    refine (finishHandshake_passive completion rest beginning passive same).mono ?_
    rintro _ told pauses
    obtain ⟨value, rfl⟩ := pauses.ends
    exact pauses
  · -- the failure of a handler is written to the log
    have told : Ensures (complete nested handler completion) world fun _ => Leaves world :=
      complete_leaves other completion world
    have pauses {told : World} (left : Leaves world told) : Pauses session (.ok ()) told := by
      obtain ⟨passive, left⟩ := left passive
      rw [same] at left
      exact ⟨⟨(), rfl⟩, passive, .inl (left ▸ still), by rw [left], by rw [left]⟩
    refine told.mono ?_
    rintro (fault | _) told left
    · have after := pauses left
      exact ⟨⟨(), rfl⟩, after.passive.kept,
        after.pausing, after.server, after.buffer⟩
    · exact pauses left

/-- Lists and objects are no ids of responses. -/
def Hashable (message : Json) : Prop :=
  Message.classify message = .response → (message.member "id").checkKey = .ok ()

/--
After messages: the session pauses, or the messages were refused and changed nothing since.
-/
structure Handled {α : Type} (session : Session) (refused : Prop) (ending : Except Fault α)
    (world : World) : Prop where
  passive : Passive world
  settled : match ending with
    | .ok _ => Pausing world.session
    | .error _ => Rest world.session ∧ refused
  server : world.session.server = session.server
  buffer : world.session.buffer = session.buffer

theorem Pauses.handled {α : Type} {session : Session} {refused : Prop} {ending : Except Fault α}
    {world : World} (pauses : Pauses session ending world) :
    Handled session refused ending world := by
  obtain ⟨⟨value, rfl⟩, passive, pausing, server, buffer⟩ := pauses
  exact ⟨passive, pausing, server, buffer⟩

theorem Left.pauses {α : Type} {ending : Except Fault α} {world world' : World}
    {allowed : Entry → Prop} (left : Left allowed world world') (rest : Rest world.session)
    (ends : ∃ value, ending = .ok value) : Pauses world.session ending world' where
  ends := ends
  passive := left.passive
  pausing := .inl (left.session ▸ rest)
  server := by rw [left.session]
  buffer := by rw [left.session]

theorem AtRest.leaves {world world' : World} (rest : AtRest world) (leaves : Leaves world world') :
    AtRest world' := by
  obtain ⟨passive, same⟩ := leaves rest.passive
  exact ⟨passive, same ▸ rest.rest⟩

theorem AtRest.ensures {α : Type} {action : Act World α} {world : World} (rest : AtRest world)
    (leaves : Within Leaves action) : Ensures action world fun _ => AtRest :=
  (leaves world).mono fun _ _ left => rest.leaves left

theorem AtRest.pauses {α : Type} {action : Act World α} {world : World} (rest : AtRest world)
    (succeeds : Succeeds action) (leaves : Within Leaves action) :
    Ensures action world (Pauses world.session) :=
  (leaves world rest.passive).pauses rest.rest (succeeds world)

theorem resolve_passive (message : Json) {world : World} (rest : AtRest world)
    (response : Message.classify message = .response) :
    Ensures (Registry.resolve (complete nested) message) world
      (Handled world.session (¬ Hashable message)) := by
  simp only [Registry.resolve, ensures_bind, ensures_getPending, ensures_ofExcept]
  rcases Registry.take_cases world.session.pending (message.member "id") with
    ⟨fault, unhashable, refused⟩ | missed | ⟨before, after, key, handler, split, -, taken⟩
  · rw [refused]
    refine ⟨rest.passive, ⟨rest.rest, fun hashable => ?_⟩, rfl, rfl⟩
    simp [hashable response] at unhashable
  · rw [missed]
    refine (rest.pauses ?_ ?_).mono fun _ _ => Pauses.handled
    · exact Succeeds.bind (record_succeeds _) fun _ => succeeds_pure _
    · exact Within.bind (within_record _) fun _ => within_pure _
  · rw [taken]
    simp only [ensures_bind, ensures_setPending]
    refine (answer_passive (Completion.ofResponse message) (message.member "id") rest.rest split ?_
      rfl).mono ?_
    · exact rest.passive.kept
    · rintro _ told ⟨⟨value, rfl⟩, passive, pausing, server, buffer⟩
      exact ⟨passive, pausing, server, buffer⟩

/-- A request has a method, so there is an answer to it. -/
theorem reply_of_request {message : Json} (request : Message.classify message = .request)
    (root : Text) : ∃ reply, Answer.reply message root = .ok reply := by
  unfold Message.classify at request
  unfold Answer.reply
  cases method : message.member "method" with
  | array items =>
      simp only [Message.method?, method] at request
      split at request <;> cases request
  | object members =>
      simp only [Message.method?, method] at request
      split at request <;> cases request
  | _ => exact ⟨_, rfl⟩

theorem Attempts.pauses {α : Type} {action : Act World α} (attempts : Attempts action)
    {world : World} (rest : AtRest world) : Ensures action world (Pauses world.session) := by
  refine (attempts world rest.passive).mono ?_
  rintro ending world' ⟨ends, passive, attempted⟩
  refine ⟨ends, passive, rest.rest.attempted attempted, attempted.server, ?_⟩
  rcases attempted with same | ⟨-, same⟩ <;> rw [same]

theorem answerRequest_passive {message : Json} (request : Message.classify message = .request)
    {world : World} (rest : AtRest world) :
    Ensures (answerRequest nested message) world (Pauses world.session) := by
  have sends (envelope : Json) : Attempts (sendReply nested message envelope) := by
    unfold sendReply
    split
    · exact record_passive _
    · exact writeMessage_passive _ _
  obtain ⟨reply, same⟩ := reply_of_request request world.session.root
  unfold answerRequest
  rw [ensures_bind]
  simp only [ensures_getSession]
  rw [ensures_bind, ensures_ofExcept, same]
  dsimp only
  split
  · exact Attempts.pauses (Attempts.bind (record_passive _) fun _ => sends _) rest
  · exact (sends _).pauses rest

theorem handleMessage_passive (message : Json) {world : World} (rest : AtRest world) :
    Ensures (handleMessage nested message) world (Handled world.session (¬ Hashable message)) := by
  unfold handleMessage
  refine leaves_bind (record_succeeds _) (within_record _) rest.passive fun _ noted passive same => ?_
  have rest : AtRest noted := ⟨passive, same ▸ rest.rest⟩
  rw [← same]
  cases kind : Message.classify message with
  | response =>
      dsimp only
      rw [ensures_bind]
      refine (resolve_passive message rest kind).mono ?_
      rintro (fault | _) world' ⟨passive, settled, server, buffer⟩
      · exact ⟨passive, settled, server, buffer⟩
      · exact ⟨passive, settled, server, buffer⟩
  | request => exact (answerRequest_passive kind rest).mono fun _ _ => Pauses.handled
  | notification =>
      dsimp only
      split
      · exact (rest.pauses (emit_succeeds _) (emit_leaves _)).mono fun _ _ => Pauses.handled
      · exact ⟨rest.passive, .inl rest.rest, rfl, rfl⟩
  | invalid =>
      exact (rest.pauses (record_succeeds _) (within_record _)).mono fun _ _ => Pauses.handled

/-- A session that is to be ended takes no more messages. -/
theorem handleMessages_passive (server : Nat) (messages : List Json) {world : World}
    (passive : Passive world) (pausing : Pausing world.session) :
    Ensures (handleMessages nested server messages) world
      (Handled world.session (∃ message ∈ messages, ¬ Hashable message)) := by
  -- on the messages; a message that is refused keeps the later ones from being handled
  induction messages generalizing world with
  | nil => exact ⟨passive, pausing, rfl, rfl⟩
  | cons message messages ih =>
      rw [handleMessages, ensures_bind]
      simp only [ensures_getSession]
      split
      · next goes_on =>
        simp only [Bool.and_eq_true, Bool.not_eq_true', decide_eq_true_eq] at goes_on
        rcases pausing with rest | failing
        · rw [ensures_bind]
          simp only [ensures_write, add_eq_noting]
          have rest : AtRest (world.noting (.handling server message)) :=
            ⟨passive.kept, rest⟩
          rw [ensures_bind]
          refine (handleMessage_passive message rest).mono ?_
          rintro (fault | _) handled ⟨passive, after, same, kept⟩
          · exact ⟨passive, ⟨after.1, message, List.mem_cons_self, after.2⟩, same, kept⟩
          · refine (ih passive after).mono ?_
            rintro ending world' ⟨passive, after, later, still⟩
            refine ⟨passive, ?_, later.trans same, still.trans kept⟩
            cases ending with
            | ok value => exact after
            | error fault =>
                obtain ⟨rest, other, member, refused⟩ := after
                exact ⟨rest, other, List.mem_cons_of_mem _ member, refused⟩
        · simp [failing.abortRequested] at goes_on
      · exact ⟨passive, pausing, rfl, rfl⟩

/-- What is kept while one message is handled is kept by all of them. -/
theorem handleMessages_each {known : World → Prop} {server : Nat} {messages : List Json}
    (each : ∀ message world, AtRest world → world.session.server = some server → known world →
      Ensures (handleMessage nested message) (world.noting (.handling server message))
        fun _ => known)
    {world : World} (passive : Passive world) (pausing : Pausing world.session)
    (given : known world) :
    Ensures (handleMessages nested server messages) world fun _ => known := by
  have kept : Ensures (handleMessages nested server messages) world fun _ world =>
      Passive world ∧ Pausing world.session ∧ known world := by
    refine ensures_messages (fun message world kept goes_on served => ?_) ⟨passive, pausing, given⟩
    obtain ⟨passive, pausing, given⟩ := kept
    -- a session that is to be ended takes no more messages, and any other is at rest
    rcases pausing with rest | failing
    · have handled : AtRest (world.noting (.handling server message)) := ⟨passive.kept, rest⟩
      refine ((handleMessage_passive message handled).and
        (each message world ⟨passive, rest⟩ served given)).mono ?_
      rintro (fault | _) _ ⟨⟨passive, after, -, -⟩, given⟩
      · exact ⟨passive, .inl after.1, given⟩
      · exact ⟨passive, after, given⟩
    · simp [failing.abortRequested] at goes_on
  exact kept.mono fun _ _ kept => kept.2.2

theorem handleFeed_passive (server : Nat) (fed : Frame.Feed) {world : World} (rest : AtRest world) :
    Ensures (handleFeed nested server fed) world fun _ => AtRest := by
  refine ensures_fed (fun _ => id) (fun note _ _ rest => rest.ensures (within_record note))
    (fun _ _ rest => rest.ensures (emitLog_leaves _)) (fun start rest => ?_) rest
  rw [ensures_bind]
  refine (handleMessages_passive server fed.messages rest.passive (.inl rest.rest)).mono ?_
  rintro (fault | _) handled ⟨passive, after, -, -⟩
  · exact ⟨passive, after.1⟩
  · exact stopIfAborted_passive passive after

theorem Rest.buffering {session : Session} (rest : Rest session) (served : session.server.isSome)
    (buffer : Bytes) : Rest { session with buffer := buffer } := by
  refine ⟨?_, rest.stopping, rest.abortRequested⟩
  rcases rest.of_served served with beginning | opened
  · exact .inr (.inl { beginning with .. })
  · exact .inr (.inr { opened with .. })

theorem receive_passive (server : Nat) (data : Bytes) {world : World} (rest : AtRest world) :
    Ensures (receive nested server data) world fun _ => AtRest := by
  refine ensures_arrival ⟨rest.passive.kept, rest.rest⟩ fun served _ => ?_
  refine handleFeed_passive server _ ⟨rest.passive.kept, rest.rest.buffering ?_ _⟩
  exact Option.isSome_iff_exists.mpr ⟨server, served⟩

theorem receiveError_passive (server : Nat) (text : Text) {world : World} (rest : AtRest world) :
    Ensures (receiveError nested server text) world fun _ => AtRest := by
  refine rest.ensures (Within.bind within_getSession fun session => ?_)
  split
  · exact emitLog_leaves _
  · exact within_pure _

theorem serverEnded_passive (server : Nat) (code : Option Int) {world : World}
    (rest : AtRest world) : Ensures (serverEnded nested server code) world fun _ => AtRest := by
  unfold serverEnded
  rw [ensures_bind]
  simp only [ensures_getSession]
  split
  · next current =>
    simp only [Bool.and_eq_true, decide_eq_true_eq] at current
    refine leaves_bind (record_succeeds _) (within_record _) rest.passive fun _ _ passive same => ?_
    refine leaves_bind (emitLog_succeeds _) (emitLog_leaves _) passive fun _ _ passive later => ?_
    have same := later.trans same
    refine (stop_passive passive ?_ ?_ ?_).mono fun _ _ => Ended.atRest
    · rintro _ ⟨⟩
      rw [same]
      exact current.1
    · rw [same]
      exact rest.rest.stopping
    · rw [same]
      exact fun _ => rest.rest
  · exact rest

/-! ## Calls of the user -/

theorem resetSession_passive (root : Text) {world : World} (passive : Passive world) :
    Ensures (resetSession nested root) world fun ending world' => ending = .ok () ∧ Passive world' ∧
      world'.session = { world.session with
        root := root, buffer := [], pending := {}, documents := {}, nextId := 1
        handshakeId := none, abortRequested := false, ready := false } := by
  unfold resetSession
  rw [ensures_bind]
  simp only [ensures_modifySession]
  rw [ensures_bind]
  simp only [ensures_write, add_eq_noting]
  exact unready_passive passive.kept

def launched (root : Text) (server : Nat) : Session :=
  { phase := .starting, root := root, server := some server }

theorem beginning_launched (root : Text) (server : Nat) :
    Rest { promised (launched root server) (some .handshake) with handshakeId := some 1 } :=
  ⟨.inr (.inl ⟨rfl, rfl, rfl, rfl, rfl, rfl, rfl⟩), rfl, rfl⟩

/-- What the first request has come to. -/
structure Greeted (server : Nat) (ending : Except Fault Unit) (world : World) : Prop where
  ends : ∃ value, ending = .ok value
  passive : Passive world
  pausing : Pausing world.session
  server : world.session.server = some server
  ready : world.session.ready = false

theorem beginHandshake_passive (root : Option Text) {folder : Text} {server : Nat} {world : World}
    (passive : Passive world) (same : world.session = launched folder server) :
    Ensures (beginHandshake nested root) world (Greeted server) := by
  unfold beginHandshake
  dsimp only
  rw [ensures_bind]
  refine (sendRequest_passive "initialize" _ (some .handshake) passive).mono ?_
  rintro (fault | (error | id)) sent ⟨passive, told⟩
  · exact told.elim
  · refine leaves_bind (emitLog_succeeds _) (emitLog_leaves _) passive fun _ _ passive left => ?_
    have same := (left.trans told).trans same
    simp only [requestAbort, ensures_modifySession, same]
    refine ⟨⟨(), rfl⟩, ?_, .inr ⟨rfl, rfl, rfl⟩, rfl, rfl⟩
    exact passive.kept
  · obtain ⟨rfl, attempted⟩ := told
    simp only [ensures_modifySession]
    rw [same] at attempted ⊢
    have passive (session : Session) : Passive { sent with session := session } :=
      passive.kept
    rcases attempted with left | ⟨-, left⟩
    · rw [left]
      exact ⟨⟨(), rfl⟩, passive _, .inl (beginning_launched folder server), rfl, rfl⟩
    · rw [left]
      exact ⟨⟨(), rfl⟩, passive _, .inr ⟨rfl, rfl, rfl⟩, rfl, rfl⟩

theorem Greeted.beginning {server : Nat} {ending : Except Fault Unit} {world : World}
    (greeted : Greeted server ending world) (rest : Rest world.session) :
    Beginning world.session := by
  rcases rest.of_served (by simp [greeted.server]) with beginning | opened
  · exact beginning
  · simpa [greeted.ready] using opened.ready

theorem spawn_passive (server : Nat) {world : World} (passive : Passive world) :
    Ensures (spawn server) world fun ending world' => (∃ value, ending = .ok value) ∧
      Passive world' ∧ world'.session = world.session ∧ Adds Plain world world' := by
  unfold spawn
  rw [ensures_bind]
  simp only [ensures_get]
  split
  · exact ⟨⟨_, rfl⟩, passive, rfl, refl_of (Adds Plain) world⟩
  · next process known =>
    have noted (entry : Entry) : Passive (world.noting entry) :=
      passive.kept
    have spawned : Adds Plain world
        (world.noting (.spawned server process.argv world.settings.startTimeout)) :=
      adds_noting trivial world
    simp only [ensures_bind, ensures_write, add_eq_noting]
    split
    · exact ⟨⟨_, rfl⟩, noted _, rfl, spawned⟩
    · exact ⟨⟨_, rfl⟩, (noted _).modifying server fun _ => id, rfl, spawned⟩

theorem Ended.leaves {world world' : World} (ended : Ended world) (leaves : Leaves world world') :
    Ended world' := by
  obtain ⟨passive, same⟩ := leaves ended.passive
  exact ⟨passive, same ▸ ended.rest, same ▸ ended.server⟩

theorem bringUp_passive (command : Text) (arguments : List Text) (root : Option Text)
    {folder : Text} {server : Nat} {world : World} (passive : Passive world)
    (same : world.session = launched folder server) :
    Ensures (bringUp nested command arguments root server) world fun _ => AtRest := by
  unfold bringUp
  refine leaves_bind (record_succeeds _) (within_record _) passive fun _ _ passive left => ?_
  have same := left.trans same
  rw [ensures_bind]
  refine (spawn_passive server passive).mono ?_
  rintro _ spawned ⟨⟨failure, rfl⟩, passive, left, -⟩
  have same := left.trans same
  dsimp only
  split
  · refine leaves_bind (emitLog_succeeds _) (emitLog_leaves _) passive fun _ _ passive left => ?_
    have same := left.trans same
    rw [ensures_bind]
    refine (stop_passive passive (by simp) (by rw [same]; rfl) (by simp [same, launched])).mono ?_
    rintro (fault | _) _ ended
    · exact ended.atRest
    · exact ended.atRest
  · rw [ensures_bind]
    refine (beginHandshake_passive root passive same).mono ?_
    rintro _ world' greeted
    obtain ⟨_, rfl⟩ := greeted.ends
    exact Ensures.bind (stopIfAborted_passive greeted.passive greeted.pausing) fun _ _ rest => rest

structure Prepared (root : Text) (world : World) : Prop where
  passive : Passive world
  adopted : ∀ argv, (world.adopting argv).session = launched root world.servers.length

theorem prepare_passive (root : Text) {world : World} (ended : Ended world) :
    Ensures (prepare nested root) world fun ending world' =>
      match ending with
      | .error _ => Ended world'
      | .ok _ => Prepared root world' := by
  unfold prepare
  rw [ensures_bind]
  have awaited : Ensures awaitEnding world fun _ => Leaves world := awaitEnding_within world
  refine awaited.mono ?_
  rintro (fault | _) waited left
  · exact ended.leaves left
  · have ended := ended.leaves left
    dsimp only
    rw [ensures_bind]
    refine (resetSession_passive _ ended.passive).mono ?_
    rintro _ reset ⟨rfl, passive, same⟩
    refine (setPhase_passive .starting passive).mono ?_
    rintro _ begun ⟨rfl, passive, later⟩
    refine ⟨passive, fun argv => ?_⟩
    simp [World.adopting, later, same, launched, ended.rest.stopping]

theorem Passive.adopting {world : World} (passive : Passive world) (argv : List Text) :
    Passive (world.adopting argv) where
  callbacks := passive.callbacks
  factory := passive.factory
  servers := by
    intro process member
    rcases List.mem_append.mp member with earlier | last
    · exact passive.servers process earlier
    · rw [List.mem_singleton.mp last]
      exact passive.factory

/--
A start ends the session before, makes way for the next one and brings up its server.  What is
known besides has to last from the first to the last of these.
-/
theorem ensures_start {command : Text} {arguments : List Text} {root : Option Text}
    {world : World} (known : World → Prop) {post : Except Fault Bool → World → Prop}
    (rest : AtRest world) (stops : Ensures (stop nested none) world fun _ => known)
    (prepares : ∀ ended, Ended ended → known ended →
      Ensures (prepare nested (root.getD [])) ended fun _ => known)
    (fails : ∀ fault ended, Ended ended → known ended → post (.error fault) ended)
    (brings : ∀ begun, Prepared (root.getD []) begun → known begun →
      Ensures (bringUp nested command arguments root begun.servers.length)
        (begun.adopting (command :: arguments)) post) :
    Ensures (start nested command arguments root) world post := by
  rw [start_eq, ensures_bind]
  refine ((stop_passive rest.passive (by simp) rest.rest.stopping fun _ => rest.rest).and
    stops).mono ?_
  rintro (fault | _) stopped ⟨ended, given⟩
  · exact fails fault stopped ended given
  · dsimp only
    rw [ensures_bind]
    refine ((prepare_passive _ ended).and (prepares stopped ended given)).mono ?_
    rintro (fault | _) begun ⟨prepared, given⟩
    · exact fails fault begun prepared given
    · dsimp only
      rw [ensures_bind, ensures_adoptServer]
      exact brings begun prepared given

theorem start_passive (command : Text) (arguments : List Text) (root : Option Text) {world : World}
    (rest : AtRest world) :
    Ensures (start nested command arguments root) world fun _ => AtRest := by
  refine ensures_start (fun _ => True) rest (ensures_true _ _) (fun _ _ _ => ensures_true _ _)
    (fun _ _ ended _ => ended.atRest) ?_
  exact fun begun prepared _ =>
    bringUp_passive command arguments root (prepared.passive.adopting _) (prepared.adopted _)

/-! ## Requests -/

theorem Opened.promised {session : Session} (opened : Opened session) {handler : Option Handler}
    (other : ∀ waiting ∈ handler, waiting ≠ .handshake) : Opened (promised session handler) where
  phase := opened.phase
  server := opened.server
  ready := opened.ready
  documents := opened.documents
  handshakeId := opened.handshakeId
  nextId := Nat.le_succ_of_le opened.nextId
  pending := by
    have known : ∀ key ∈ session.pending.entries.map Prod.fst,
        ∃ id, key = .nat id ∧ 2 ≤ id ∧ id < session.nextId + 1 := by
      intro key member
      obtain ⟨entry, present, rfl⟩ := List.mem_map.mp member
      obtain ⟨-, id, same, least, below⟩ := opened.pending entry present
      exact ⟨id, same, least, Nat.lt_succ_of_lt below⟩
    intro entry member
    cases handler with
    | none => exact ⟨(opened.pending entry member).1, known _ (List.mem_map_of_mem member)⟩
    | some handler =>
        rcases Registry.mem_insert member with earlier | rfl | ⟨same, key, -⟩
        · exact ⟨(opened.pending entry earlier).1, known _ (List.mem_map_of_mem earlier)⟩
        · exact ⟨other _ rfl, session.nextId, rfl, opened.nextId, Nat.lt_succ_self _⟩
        · exact ⟨same ▸ other _ rfl, known _ key⟩

/-- Only a session that is ready takes requests. -/
theorem unavailable_ready (world : World) :
    Ensures unavailable world fun ending _ =>
      ending = .ok none → world.session.ready = true := by
  have judged (running : Bool) : (if (!running) = true then
        some (Message.error (.integer Message.serverNotInitialized) "LSP process not running.")
      else if (!world.session.ready) = true then
        some (Message.error (.integer Message.serverNotInitialized) "LSP server not initialized.")
      else none) = none → world.session.ready = true := by
    cases running <;> cases world.session.ready <;> simp
  unfold unavailable
  rw [ensures_bind]
  simp only [ensures_getSession]
  split
  · split
    · exact fun same => judged false (Except.ok.inj same)
    · exact fun same => judged _ (Except.ok.inj same)
  · exact fun same => judged false (Except.ok.inj same)

theorem trySend_passive (method : Text) (params : Json) {handler : Option Handler}
    (other : ∀ waiting ∈ handler, waiting ≠ .handshake) {world : World} (rest : AtRest world) :
    Ensures (trySend nested method params handler) world fun ending world' =>
      Passive world' ∧ match ending with
        | .ok (.ok _) => Pausing world'.session
        | _ => Rest world'.session := by
  have looked : Ensures unavailable world fun _ => Leaves world := unavailable_within world
  have judged : Ensures unavailable world fun ending world' => Leaves world world' ∧
      (ending = .ok none → world.session.ready = true) := ⟨looked, unavailable_ready world⟩
  unfold trySend
  rw [ensures_bind]
  refine judged.mono ?_
  rintro ending looked ⟨left, able⟩
  have same := (left rest.passive).2
  have rest := rest.leaves left
  match ending with
  | .error fault => exact ⟨rest.passive, rest.rest⟩
  | .ok (some error) => exact ⟨rest.passive, rest.rest⟩
  | .ok none =>
      have opened : Opened looked.session := rest.rest.opened (same ▸ able rfl)
      dsimp only
      rw [ensures_bind]
      refine (sendRequest_passive method params handler rest.passive).mono ?_
      rintro (fault | (error | id)) sent ⟨passive, told⟩
      · exact told.elim
      · refine ⟨passive.kept, ?_⟩
        exact (told ▸ rest.rest : Rest sent.session)
      · obtain ⟨rfl, attempted⟩ := told
        have promised : Rest (promised looked.session handler) :=
          ⟨.inr (.inr (opened.promised other)), rest.rest.stopping, rest.rest.abortRequested⟩
        exact ⟨passive, promised.attempted attempted⟩

theorem request_passive (method : Text) (params : Json) {handler : Option Handler}
    (other : ∀ waiting ∈ handler, waiting ≠ .handshake) {world : World} (rest : AtRest world) :
    Ensures (request nested method params handler) world fun _ => AtRest := by
  unfold request
  rw [ensures_bind]
  refine (trySend_passive method params other rest).mono ?_
  rintro (fault | (error | id)) sent ⟨passive, after⟩
  · exact ⟨passive, after⟩
  · have rest : AtRest sent := ⟨passive, after⟩
    cases handler with
    | none => exact rest
    | some handler =>
        refine Ensures.bind (rest.ensures ?_) fun _ _ rest => rest
        exact complete_leaves (other handler rfl) _
  · exact Ensures.bind (stopIfAborted_passive passive after) fun _ _ rest => rest

theorem requestSync_passive (method : Text) (params : Json) (timeout : Option Duration)
    {world : World} (rest : AtRest world) :
    Ensures (requestSync nested method params timeout) world fun _ => AtRest := by
  unfold requestSync
  rw [ensures_bind]
  simp only [ensures_get]
  rw [ensures_bind]
  simp only [ensures_modify]
  have passive : Passive { world with nextSlot := world.nextSlot + 1 } :=
    rest.passive.kept
  refine Ensures.bind (request_passive method params ?_ ⟨passive, rest.rest⟩) fun _ _ rest => ?_
  · rintro _ ⟨⟩
    simp
  · refine rest.ensures (Within.bind (collectMail_within _ _) fun found => ?_)
    split
    · exact within_pure _
    · refine Within.bind (within_ofExcept _) fun tenths => ?_
      exact Within.bind (within_record _) fun _ => within_pure _

/-! ## Documents -/

/-- A notification is followed by what it says of the documents. -/
theorem notify_then_passive (method : Text) (params : Json) {change : Documents → Documents}
    (counts : ∀ documents, (∀ document ∈ documents.versions, 1 ≤ document.2) →
      ∀ document ∈ (change documents).versions, 1 ≤ document.2)
    {world : World} (rest : AtRest world) (ready : world.session.ready = true) :
    Ensures (do
      if ← notify nested method params then
        modifyThe Session fun session => { session with documents := change session.documents }
      stopIfAborted nested : Act World Unit) world fun _ => AtRest := by
  have opened := rest.rest.opened ready
  rw [ensures_bind]
  refine (notify_passive method params world rest.passive).mono ?_
  rintro _ sent ⟨⟨told, rfl⟩, passive, attempted⟩
  cases told with
  | false => exact stopIfAborted_passive passive (rest.rest.attempted attempted)
  | true =>
      dsimp only
      rw [if_pos rfl, ensures_bind]
      simp only [ensures_modifySession]
      refine stopIfAborted_passive passive.kept ?_
      change Pausing { sent.session with documents := change sent.session.documents }
      rcases attempted with same | ⟨served, same⟩
      · rw [same]
        have noted : Opened { world.session with documents := change world.session.documents } :=
          { opened with documents := counts _ opened.documents }
        exact .inl ⟨.inr (.inr noted), rest.rest.stopping, rest.rest.abortRequested⟩
      · rw [same]
        exact .inr ⟨served, rest.rest.stopping, rfl⟩

theorem Notice.counted (notice : Notice) {documents : Documents}
    (counted : ∀ document ∈ documents.versions, 1 ≤ document.2) :
    ∀ document ∈ (notice.apply documents).versions, 1 ≤ document.2 := by
  cases notice with
  | opened uri language text =>
      intro document member
      rcases Association.mem_put member with earlier | rfl
      · exact counted document earlier
      · exact le_rfl
  | changed uri text =>
      intro document member
      rcases Association.mem_put member with earlier | rfl
      · exact counted document earlier
      · exact Nat.le_add_left 1 _
  | closed uri => exact fun document member => counted document (List.mem_of_mem_filter member)

theorem giveNotice_passive (notice : Notice) {world : World} (rest : AtRest world) :
    Ensures (giveNotice nested notice) world fun _ => AtRest := by
  unfold giveNotice
  rw [ensures_bind]
  simp only [ensures_getSession]
  split
  · next ready => exact notify_then_passive _ _ (fun _ => notice.counted) rest ready
  · exact rest

/-! ## Steps -/

/-- The step makes nobody call the client, and no process writes before its turn. -/
def Step.Passive : Step → Prop
  | .request _ _ handler => ∀ callback ∈ handler, callback.script = []
  | .subscribe _ listener => listener.script = []
  | .set _ _ change => ∀ conduct, Silent conduct → Silent (change conduct)
  | .setFactory change => ∀ conduct, Silent conduct → Silent (change conduct)
  | _ => True

theorem Passive.adding {world : World} (passive : Passive world) {callback : Callback Step}
    (idle : callback.script = []) : Passive (world.adding callback) := by
  refine ⟨fun who other known => ?_, passive.servers, passive.factory⟩
  rw [World.adding, List.getElem?_append] at known
  split at known
  · exact passive.callbacks who other known
  · left
    rwa [List.mem_singleton.mp (List.mem_of_getElem? known)]

theorem AtRest.adding {world : World} (rest : AtRest world) {callback : Callback Step}
    (idle : callback.script = []) : AtRest (world.adding callback) :=
  ⟨rest.passive.adding idle, rest.rest⟩

theorem performRequest_passive (method : Text) (params : Json) {callback : Callback Step}
    (passive : callback.script = []) {world : World} (rest : AtRest world) :
    Ensures (performWith nested (.request method params (some callback))) world fun _ => AtRest := by
  have registered : AtRest (world.adding { callback with kind := "handler" }) :=
    rest.adding passive
  rw [performWith, ensures_bind, ensures_addCallback]
  dsimp only
  refine Ensures.bind (request_passive method params ?_ registered) fun id _ rest => ?_
  · rintro _ ⟨⟩
    simp
  · refine ⟨⟨?_, rest.passive.servers, rest.passive.factory⟩, rest.rest⟩
    exact rest.passive.callbacks

theorem performSubscribe_passive (channel : Channel) {listener : Callback Step}
    (passive : listener.script = []) {world : World} (rest : AtRest world) :
    Ensures (performWith nested (.subscribe channel listener)) world fun _ => AtRest := by
  have added : AtRest (world.adding { listener with kind := channel.name }) := rest.adding passive
  rw [performWith, ensures_bind, ensures_addCallback]
  refine ⟨⟨?_, added.passive.servers, added.passive.factory⟩, added.rest⟩
  exact added.passive.callbacks

theorem AtRest.modifying {world : World} (rest : AtRest world) (server : Nat)
    {change : Server → Server}
    (silent : ∀ process, Silent process.conduct → Silent (change process).conduct) :
    AtRest (world.modifyServer server change) :=
  ⟨rest.passive.modifying server silent, rest.rest⟩

/-- Every step leaves the session at rest, also when it fails. -/
theorem performWith_passive {step : Step} (passive : step.Passive) {world : World}
    (rest : AtRest world) : Ensures (performWith nested step) world fun _ => AtRest := by
  cases step with
  | start command arguments root =>
      exact Ensures.bind (start_passive command arguments root rest) fun _ _ rest => rest
  | stop =>
      refine Ensures.bind ?_ fun _ _ rest => rest
      refine (stop_passive rest.passive (by simp) rest.rest.stopping fun _ => rest.rest).mono ?_
      exact fun _ _ => Ended.atRest
  | waitReady timeout =>
      exact rest.ensures (Within.bind (waitReady_within timeout) fun _ => within_pure _)
  | version uri => exact rest.ensures (Within.bind within_getSession fun _ => within_pure _)
  | request method params handler =>
      cases handler with
      | none => exact Ensures.bind (request_passive method params (by simp) rest) fun _ _ rest => rest
      | some callback => exact performRequest_passive method params (passive callback rfl) rest
  | requestSync method params timeout =>
      exact Ensures.bind (requestSync_passive method params timeout rest) fun _ _ rest => rest
  | didOpen uri language text =>
      exact Ensures.bind (giveNotice_passive (.opened uri language text) rest) fun _ _ rest => rest
  | didChange uri text =>
      exact Ensures.bind (giveNotice_passive (.changed uri text) rest) fun _ _ rest => rest
  | didClose uri =>
      exact Ensures.bind (giveNotice_passive (.closed uri) rest) fun _ _ rest => rest
  | subscribe channel listener => exact performSubscribe_passive channel passive rest
  | unsubscribe name =>
      refine rest.ensures (Within.bind (Within.bind within_get fun world => ?_) fun _ => within_pure _)
      split
      · exact within_pure _
      · exact fun world => leaves_of_parts rfl (List.Subset.refl _) rfl rfl rfl (adds_of_journal rfl)
  | send server message =>
      refine Ensures.bind (rest.ensures (within_ofExcept _)) fun data _ rest => ?_
      refine Ensures.bind (ensures_withServer rest ?_) fun _ _ rest => rest
      exact fun server => receive_passive server data rest
  | raw server data =>
      refine Ensures.bind (ensures_withServer rest ?_) fun _ _ rest => rest
      exact fun server => receive_passive server data rest
  | stderr server text =>
      refine Ensures.bind (ensures_withServer rest ?_) fun _ _ rest => rest
      exact fun server => receiveError_passive server text rest
  | exit server code =>
      refine Ensures.bind (ensures_withServer rest ?_) fun _ _ rest => rest
      intro server
      rw [ensures_bind]
      simp only [ensures_modify]
      exact serverEnded_passive server code (rest.modifying server fun _ => id)
  | onExit server code =>
      refine Ensures.bind (ensures_withServer rest ?_) fun _ _ rest => rest
      exact fun server => serverEnded_passive server code rest
  | set server running change =>
      refine Ensures.bind (ensures_withServer rest ?_) fun _ _ rest => rest
      intro server
      exact rest.modifying server fun process => passive process.conduct
  | setFactory change =>
      refine ⟨⟨rest.passive.callbacks, rest.passive.servers, ?_⟩, rest.rest⟩
      exact passive _ rest.passive.factory

end

/-! ## Runs -/

theorem atRest_fresh (settings : Settings) {factory : Conduct} (silent : Silent factory) :
    AtRest { settings := settings, factory := factory } where
  passive := ⟨by simp, by simp, silent⟩
  rest := ⟨.inl ⟨.inl rfl, rfl, rfl, rfl, rfl, rfl, rfl⟩, rfl, rfl⟩

theorem turns_atRest {nested : Nested} {script : List Step}
    (passive : ∀ step ∈ script, step.Passive) {world : World} (rest : AtRest world) :
    ∀ turn ∈ turns (performWith nested) world script, AtRest turn.after := by
  induction script generalizing world with
  | nil => simp [turns]
  | cons step script ih =>
      have after : AtRest (turn (performWith nested) world step).after :=
        performWith_passive (passive step List.mem_cons_self) rest
      intro other member
      rcases List.mem_cons.mp member with rfl | later
      · exact after
      · exact ih (fun step member => passive step (List.mem_cons_of_mem _ member)) after other later

/--
Between the calls of a run in which nobody calls the client from inside it, the session
is at rest: whatever fails, and however processes end.
-/
theorem rest_of_run (settings : Settings) (factory : Conduct) (script : List Step)
    (silent : Silent factory) (passive : ∀ step ∈ script, step.Passive) :
    ∀ turn ∈ play { settings := settings, factory := factory } script,
      Rest turn.after.session ∧ turn.after.session.phase ≠ .shuttingDown := by
  intro turn member
  have rest := (turns_atRest passive (atRest_fresh settings silent) turn member).rest
  exact ⟨rest, rest.phase_ne_shuttingDown⟩

/-- A write fails in an open session, with a request that was never answered. -/
def brokenWrite : List Step :=
  [.start "srv" [] none, .send none (.object [("id", .nat 1), ("result", .object [])]),
    .request "x" .null (some ⟨"handler", "h", [], none, true⟩),
    .set none none fun conduct => { conduct with refusesWrite := fun _ => some "broken" },
    .didOpen "file:///a" "cpp" (.literal "int a;")]

theorem rest_of_broken_write :
    (play {} brokenWrite).map (fun turn => turn.after.session.phase) =
        [.starting, .ready, .ready, .ready, .stopped] ∧
      ∀ turn ∈ play {} brokenWrite,
        Rest turn.after.session ∧ turn.after.session.phase ≠ .shuttingDown :=
  ⟨by decide +kernel, rest_of_run {} {} brokenWrite (fun _ => rfl)
    (by simp [brokenWrite, Step.Passive, Silent])⟩

end Client

end LanguageSession
