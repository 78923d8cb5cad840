import Mathlib
import LanguageSession.Proofs.Client.Afresh
import LanguageSession.Proofs.Client.Placement
import LanguageSession.Proofs.Client.Refusal

/-!
# How a session takes leave

When nobody calls the client, the end of a session is seen as one sequence.  A ready session
looks at its process, and if it runs offers it `shutdown` and `exit`, each only after
another look, and waits; then a process that still runs is killed and waited for, and the
process is closed.  All who wait are forgotten without being called, and the listeners of a
ready session are told that it is ready no more.  From then on nothing is left to be stopped.
-/

namespace LanguageSession

namespace Client

open Act

/-! ## What is seen -/

/-- The log, what arrives and is dropped, and the calls of listeners are left out. -/
def Loud : Entry → Bool
  | .logged _ => false
  | .arrived _ _ => false
  | .shown _ => false
  | .called _ kind _ _ => decide (kind = ("handler" : Text))
  | _ => true

/-- This was seen, and but for the session and the journal all is as before. -/
structure Sequel (heard : List Entry) (world world' : World) : Prop where
  entries : ∃ added, world'.journal.entries = world.journal.entries ++ added ∧
    added.filter Loud = heard
  callbacks : world'.cast.callbacks = world.cast.callbacks
  subscriptions : world'.subscriptions = world.subscriptions
  settings : world'.settings = world.settings
  factory : world'.factory = world.factory
  conduct : SameConduct world world'

/-- No listener calls the client, and none is the handler of a request. -/
structure Docile (world : World) : Prop where
  scriptless : Scriptless world
  listeners : ∀ channel who, .callback who ∈ world.subscriptions.on channel →
    ∀ callback ∈ world.cast.callbacks[who]?, callback.kind ≠ ("handler" : Text)

section

variable {world world' : World} {heard heard' : List Entry}

theorem Sequel.trans {world'' : World} (before : Sequel heard world world')
    (after : Sequel heard' world' world'') : Sequel (heard ++ heard') world world'' where
  entries := by
    obtain ⟨added, grown, rfl⟩ := before.entries
    obtain ⟨added', grown', rfl⟩ := after.entries
    exact ⟨added ++ added', by rw [grown', grown, List.append_assoc], List.filter_append _ _⟩
  callbacks := after.callbacks.trans before.callbacks
  subscriptions := after.subscriptions.trans before.subscriptions
  settings := after.settings.trans before.settings
  factory := after.factory.trans before.factory
  conduct := trans_of SameConduct before.conduct after.conduct

theorem sequel_refl (world : World) : Sequel [] world world :=
  ⟨⟨[], by simp, rfl⟩, rfl, rfl, rfl, rfl, refl_of SameConduct world⟩

theorem Sequel.silently {world'' : World} (before : Sequel heard world world')
    (after : Sequel [] world' world'') : Sequel heard world world'' :=
  List.append_nil heard ▸ before.trans after

theorem sequel_noting (entry : Entry) (world : World) :
    Sequel (if Loud entry then [entry] else []) world (world.noting entry) where
  entries := ⟨[entry], rfl, by cases loud : Loud entry <;> simp [loud]⟩
  callbacks := rfl
  subscriptions := rfl
  settings := rfl
  factory := rfl
  conduct _ := rfl

theorem sequel_modifying (world : World) (server : Nat) {change : Server → Server}
    (alike : ∀ process, (change process).conduct = process.conduct) :
    Sequel [] world (world.modifyServer server change) :=
  ⟨⟨[], by simp [World.modifyServer], rfl⟩, rfl, rfl, rfl, rfl,
    sameConduct_modifying world server alike⟩

theorem sequel_session (world : World) (session : Session) :
    Sequel [] world { world with session := session } :=
  ⟨⟨[], by simp, rfl⟩, rfl, rfl, rfl, rfl, fun _ => rfl⟩

theorem Docile.later (docile : Docile world) (sequel : Sequel heard world world') :
    Docile world' := by
  constructor
  · rw [Scriptless, sequel.callbacks]
    exact docile.scriptless
  · rw [sequel.subscriptions, sequel.callbacks]
    exact docile.listeners

/-! ## Events -/

variable {nested : Nested}

theorem tell_sequel (docile : Docile world) {listener : Listener} {channel : Channel}
    (subscribed : listener ∈ world.subscriptions.on channel) (event : Event) :
    Ensures (tell nested listener event) world fun _ world' =>
      Sequel [] world world' ∧ world'.session = world.session := by
  cases listener with
  | callback who =>
      cases known : world.cast.callbacks[who]? with
      | none =>
          simp only [tell, invoke, ensures_bind, ensures_getCast, known]
          exact ⟨sequel_refl world, rfl⟩
      | some callback =>
          have idle := docile.scriptless callback (List.mem_of_getElem? known)
          have quiet : Loud (.called who callback.kind callback.name event.arguments) = false :=
            decide_eq_false (docile.listeners channel who subscribed callback known)
          refine (invoke_idle event.arguments known (.inl idle)).mono ?_
          rintro _ _ ⟨-, rfl⟩
          have noted := sequel_noting (.called who callback.kind callback.name event.arguments) world
          rw [quiet] at noted
          exact ⟨⟨noted.entries, rfl, rfl, rfl, rfl, fun _ => rfl⟩, rfl⟩
  | echo =>
      cases event with
      | log text => exact ⟨sequel_noting (.shown _) world, rfl⟩
      | _ => exact ⟨sequel_refl world, rfl⟩
  | collect =>
      cases event with
      | diagnostics uri items =>
          exact ⟨⟨⟨[], (List.append_nil _).symm, rfl⟩, rfl, rfl, rfl, rfl, fun _ => rfl⟩, rfl⟩
      | _ => exact ⟨sequel_refl world, rfl⟩

theorem reportListener_sequel (listener : Listener) (world : World) :
    Ensures (do record (Log.listenerFailed (← listenerLabel listener)) : Act World Unit) world
      fun _ world' => Sequel [] world world' ∧ world'.session = world.session := by
  cases listener <;> exact ⟨sequel_noting (.logged _) world, rfl⟩

theorem emit_sequel (docile : Docile world) (event : Event) :
    Ensures (emit nested event) world fun ending world' => ending = .ok () ∧
      Sequel [.emitted event] world world' ∧ world'.session = world.session := by
  have told : Ensures (emit nested event) world fun _ world' =>
      Sequel [.emitted event] world world' ∧ world'.session = world.session := by
    simp only [emit, Subscriptions.emit, ensures_bind, ensures_getSubscriptions, ensures_write,
      add_eq_noting]
    refine Ensures.forM (fun listener subscribed middle => ?_)
      ⟨sequel_noting (.emitted event) world, rfl⟩
    rintro ⟨before, same⟩
    rw [contain, ensures_tryCatch]
    refine (tell_sequel (docile.later before) (before.subscriptions ▸ subscribed) event).mono ?_
    rintro ending told ⟨after, same'⟩
    have sequel := before.silently after
    cases ending with
    | ok _ => exact ⟨sequel, same'.trans same⟩
    | error fault =>
        refine (reportListener_sequel listener told).mono ?_
        rintro _ reported ⟨noted, same''⟩
        exact ⟨sequel.silently noted, same''.trans (same'.trans same)⟩
  obtain ⟨_, ends⟩ := emit_succeeds event world
  exact ⟨ends, told⟩

theorem emitLog_sequel (docile : Docile world) (text : Text) :
    Ensures (emitLog nested text) world fun ending world' => ending = .ok () ∧
      Sequel [.emitted (.log text)] world world' ∧ world'.session = world.session := by
  unfold emitLog
  rw [ensures_bind, record, ensures_write, add_eq_noting]
  have noted : Sequel [] world _ := sequel_noting (.logged (Log.sessionEvent text)) world
  refine (emit_sequel (docile.later noted) (.log text)).mono ?_
  rintro _ world' ⟨ends, told, same⟩
  exact ⟨ends, noted.trans told, same⟩

/-! ## A session that is ending -/

/-- Output that arrives while a session is ending is dropped. -/
def Deaf (nested : Nested) : Prop :=
  ∀ server data (world : World), world.session.stopping = true →
    result (nested.receive server data) world = (.ok (), world.noting (.arrived server data))

theorem nestedCalls_deaf (depth : Nat) : Deaf (nestedCalls depth) := by
  intro server data world stopping
  have dropped : Ensures ((nestedCalls depth).receive server data) world fun ending world' =>
      ending = .ok () ∧ world' = world.noting (.arrived server data) := by
    cases depth with
    | zero =>
        simp only [nestedCalls, receiveTooDeep, ensures_bind, ensures_write, add_eq_noting,
          ensures_getSession, noting_session, stopping, Bool.not_true, Bool.and_false,
          Bool.false_eq_true, if_false, ensures_pure, and_self]
    | succ depth =>
        exact (ensures_receive_dropped (by simp [stopping]) _).mpr ⟨rfl, rfl⟩
  exact Prod.ext dropped.1 dropped.2

/-- The session with this server is ending, and nobody calls the client. -/
structure Ebbing (server : Nat) (world : World) : Prop where
  docile : Docile world
  current : world.session.server = some server
  known : server < world.servers.length
  stopping : world.session.stopping = true

/-- What stays as it is until the session is forgotten. -/
structure Held (session session' : Session) : Prop where
  server : session'.server = session.server
  ready : session'.ready = session.ready
  root : session'.root = session.root
  stopping : session'.stopping = session.stopping

theorem held_of_eq {session session' : Session} (same : session' = session) :
    Held session session' := same ▸ ⟨rfl, rfl, rfl, rfl⟩

theorem Held.trans {session session' session'' : Session} (before : Held session session')
    (after : Held session' session'') : Held session session'' :=
  ⟨after.server.trans before.server, after.ready.trans before.ready,
    after.root.trans before.root, after.stopping.trans before.stopping⟩

variable {server : Nat} {message : Json}

theorem Ebbing.later (ebbing : Ebbing server world) (sequel : Sequel heard world world')
    (held : Held world.session world'.session) : Ebbing server world' where
  docile := ebbing.docile.later sequel
  current := held.server.trans ebbing.current
  known := sequel.conduct.count ▸ ebbing.known
  stopping := held.stopping.trans ebbing.stopping

theorem look_sequel (server : Nat) (world : World) :
    Ensures (look server) world fun ending world' => world'.session = world.session ∧
      ∃ running, ending = .ok running ∧ Sequel [.looked server running] world world' :=
  ⟨rfl, _, rfl, (sequel_modifying world server fun process => (look_weakens process).1).trans
    (sequel_noting (.looked _ _) _)⟩

/-- How the process is offered a message: it may have ended, take the message or refuse it. -/
inductive Offered (server : Nat) (message : Json) : List Entry → Prop
  | missed : Offered server message [.looked server false]
  | taken {data : Bytes} (encoded : Frame.encode message = .ok data) :
      Offered server message [.looked server true, .wrote server message data]
  | refused (reason : Text) : Offered server message [.looked server true,
      .writeRefused server message, .emitted (.log ("LSP process I/O error: " ++ reason))]

variable (deaf : Deaf nested)

include deaf

theorem replies_sequel (list : List Bytes) (stopping : world.session.stopping = true) :
    Ensures (list.forM (nested.receive server)) world fun ending world' => ending = .ok () ∧
      Sequel [] world world' ∧ world'.session = world.session := by
  induction list generalizing world with
  | nil => exact ⟨rfl, sequel_refl world, rfl⟩
  | cons data list ih =>
      change Ensures (nested.receive server data >>= fun _ => list.forM _) world _
      rw [ensures_bind, ensures_of_result (deaf server data world stopping)]
      have arrived : Sequel [] world _ := sequel_noting (.arrived server data) world
      have later : Ensures (list.forM (nested.receive server))
        (world.noting (.arrived server data)) _ := ih stopping
      refine later.mono ?_
      rintro _ world' ⟨ends, sequel, same⟩
      exact ⟨ends, arrived.trans sequel, same⟩

theorem deliver_sequel (data : Bytes) (ebbing : Ebbing server world) :
    Ensures (deliver nested server message data) world fun ending world' =>
      world'.session = world.session ∧
        (ending = .ok none ∧ Sequel [.wrote server message data] world world' ∨
          ∃ reason, ending = .ok (some reason) ∧
            Sequel [.writeRefused server message] world world') := by
  obtain ⟨process, known⟩ : ∃ process, world.server? server = some process :=
    ⟨_, List.getElem?_eq_getElem ebbing.known⟩
  let counting (process : Server) : Server := { process with writes := process.writes + 1 }
  have counted : Sequel [] world (world.modifyServer server counting) :=
    sequel_modifying world server fun _ => rfl
  simp only [deliver, ensures_bind, ensures_get, known, ensures_modify]
  split
  · next reason _ =>
    simp only [ensures_bind, ensures_write, add_eq_noting, ensures_pure]
    exact ⟨rfl, .inr ⟨reason, rfl, counted.trans (sequel_noting (.writeRefused _ _) _)⟩⟩
  · simp only [ensures_bind, ensures_write, add_eq_noting, ensures_modify]
    have wrote := counted.trans (sequel_noting (.wrote server message data) _)
    have accepted := wrote.silently
      (sequel_modifying _ server fun process => (accept_weakens message process).1)
    refine Ensures.mono (replies_sequel deaf _ ?_) ?_
    · exact ebbing.stopping
    · rintro _ world' ⟨rfl, dropped, same⟩
      exact ⟨same, .inl ⟨rfl, accepted.silently dropped⟩⟩

theorem writeMessage_sequel {data : Bytes} (encoded : Frame.encode message = .ok data)
    (ebbing : Ebbing server world) :
    Ensures (writeMessage nested message data) world fun ending world' => ending = .ok () ∧
      Held world.session world'.session ∧ world'.session.nextId = world.session.nextId ∧
      ∃ heard, Offered server message heard ∧ Sequel heard world world' := by
  simp only [writeMessage, ensures_bind, ensures_getSession, ebbing.current]
  refine (look_sequel server world).mono ?_
  rintro _ looked ⟨same, running, rfl, looks⟩
  cases running with
  | false =>
      exact ⟨rfl, held_of_eq same, congrArg Session.nextId same, _, .missed, looks⟩
  | true =>
      dsimp only
      rw [if_pos rfl, ensures_bind]
      refine (deliver_sequel deaf data (ebbing.later looks (held_of_eq same))).mono ?_
      rintro _ delivered ⟨same', ⟨rfl, wrote⟩ | ⟨reason, rfl, refused⟩⟩
      · have kept := same'.trans same
        refine ⟨rfl, held_of_eq kept, congrArg Session.nextId kept, _, .taken encoded, ?_⟩
        exact (looks.trans wrote).silently (sequel_noting (.logged _) _)
      · dsimp only
        have kept := same'.trans same
        have docile := ebbing.docile.later (looks.trans refused)
        rw [ensures_bind]
        refine (emitLog_sequel docile _).mono ?_
        rintro _ told ⟨rfl, emitted, same''⟩
        have kept := same''.trans kept
        simp only [requestAbort, ensures_modifySession]
        refine ⟨trivial, ?_, ?_, _, .refused reason, ?_⟩
        · rw [kept]
          exact ⟨rfl, rfl, rfl, rfl⟩
        · exact congrArg Session.nextId kept
        · exact ((looks.trans refused).trans emitted).silently (sequel_session told _)

/-- What becomes of the wish of a session to end by itself; says whether it asked. -/
inductive Asked (server : Nat) (session : Session) : Bool → List Entry → Prop
  | unready (unready : session.ready = false) : Asked server session false []
  | ended (ready : session.ready = true) : Asked server session false [.looked server false]
  | asked (ready : session.ready = true) {first second : List Entry}
      (shutdown : Offered server (farewell session.nextId) first)
      (exit : Offered server parting second) :
      Asked server session true (.looked server true :: (first ++ second))

omit deaf

theorem setPhase_sequel (phase : Phase) (world : World) :
    Ensures (setPhase phase) world fun ending world' => ending = .ok () ∧
      world'.session = { world.session with phase := phase } ∧ Sequel [] world world' := by
  simp only [setPhase, ensures_bind, ensures_getSession]
  split
  · next same =>
    subst same
    exact ⟨rfl, rfl, sequel_refl world⟩
  · have noted : Sequel [] world _ :=
      sequel_noting (.logged (Log.stateChange world.session.phase.name phase.name)) world
    exact ⟨rfl, rfl, noted.trans (sequel_session _ _)⟩

theorem parting_encodes : ∃ data, Frame.encode parting = .ok data := ⟨_, rfl⟩

include deaf

theorem sendFarewell_sequel (ebbing : Ebbing server world) :
    Ensures (sendRequest nested "shutdown" .null none) world fun ending world' =>
      (∃ value, ending = .ok value) ∧ Held world.session world'.session ∧
        world'.session.nextId = world.session.nextId + 1 ∧
        ∃ heard, Offered server (farewell world.session.nextId) heard ∧
          Sequel heard world world' := by
  obtain ⟨data, encoded⟩ := farewell_encodes world.session.nextId
  have same : Frame.encode (Message.request (.nat world.session.nextId) (Text.ofString "shutdown")
      .null) = .ok data := encoded
  simp only [sendRequest, ensures_bind, ensures_getSession, same, ensures_modifySession,
    ensures_pure]
  let numbered : World :=
    { world with session := { world.session with nextId := world.session.nextId + 1 } }
  have noted : Sequel [] world numbered := sequel_session world _
  have held : Held world.session numbered.session := ⟨rfl, rfl, rfl, rfl⟩
  refine (writeMessage_sequel deaf encoded (ebbing.later noted held)).mono ?_
  rintro _ world' ⟨rfl, held', next, heard, offered, sequel⟩
  exact ⟨⟨_, rfl⟩, held.trans held', next, heard, offered, noted.trans sequel⟩

theorem sendParting_sequel (ebbing : Ebbing server world) :
    Ensures (sendNotification nested "exit" .null) world fun ending world' =>
      (∃ value, ending = .ok value) ∧ Held world.session world'.session ∧
        world'.session.nextId = world.session.nextId ∧
        ∃ heard, Offered server parting heard ∧ Sequel heard world world' := by
  obtain ⟨data, encoded⟩ := parting_encodes
  have same : Frame.encode (Message.notification (Text.ofString "exit") .null) = .ok data := encoded
  simp only [sendNotification, same, ensures_bind, ensures_pure]
  refine (writeMessage_sequel deaf encoded ebbing).mono ?_
  rintro _ world' ⟨rfl, held, next, offered⟩
  exact ⟨⟨_, rfl⟩, held, next, offered⟩

theorem askToEnd_sequel (ebbing : Ebbing server world)
    (goes_on : world.session.ready = true → world.session.abortRequested = false) :
    Ensures (askToEnd nested server) world fun ending world' =>
      Held world.session world'.session ∧ ∃ asked heard, ending = .ok asked ∧
        Asked server world.session asked heard ∧ Sequel heard world world' ∧
        world'.session.nextId = world.session.nextId + asked.toNat := by
  simp only [askToEnd, ensures_bind, ensures_getSession]
  cases ready : world.session.ready with
  | false => exact ⟨held_of_eq rfl, false, [], rfl, .unready ready, sequel_refl world, rfl⟩
  | true =>
      rw [if_pos rfl, ensures_bind]
      refine (look_sequel server world).mono ?_
      rintro _ looked ⟨same, running, rfl, looks⟩
      cases running with
      | false =>
          exact ⟨held_of_eq same, false, _, rfl, .ended ready, looks, congrArg Session.nextId same⟩
      | true =>
          simp only [goes_on ready, Bool.not_false, Bool.and_self, if_true, ensures_bind]
          refine (setPhase_sequel .shuttingDown looked).mono ?_
          rintro _ shutting ⟨rfl, same', quiet⟩
          have looks := looks.silently quiet
          have held : Held world.session shutting.session := by
            rw [same', same]
            exact ⟨rfl, rfl, rfl, rfl⟩
          have next : shutting.session.nextId = world.session.nextId := by rw [same', same]
          have ebbing := ebbing.later looks held
          refine (sendFarewell_sequel deaf ebbing).mono ?_
          rintro _ said ⟨⟨_, rfl⟩, held', next', first, shutdown, told⟩
          refine (sendParting_sequel deaf (ebbing.later told held')).mono ?_
          rintro _ left ⟨⟨_, rfl⟩, held'', next'', second, exit, told'⟩
          rw [next] at shutdown
          refine ⟨held.trans (held'.trans held''), true, _, rfl, .asked ready shutdown exit, ?_, ?_⟩
          · exact looks.trans (told.trans told')
          · exact next''.trans (next'.trans (congrArg (· + 1) next))

omit deaf

/-! ## The end of the process and of the session -/

/-- A process that still runs is killed and waited for before it is closed. -/
inductive Dismissed (settings : Settings) (server : Nat) : List Entry → Prop
  | ended : Dismissed settings server [.looked server false, .closed server]
  | killed : Dismissed settings server
      [.looked server true, .killed server, .waited server settings.killGrace, .closed server]

def graceWait (settings : Settings) (server : Nat) (asked : Bool) : List Entry :=
  if asked then [.waited server settings.shutdownGrace] else []

/-- What closing the process comes to. -/
def World.closing (world : World) (server : Nat) : Except Fault Unit :=
  match (world.server? server).bind fun process => process.conduct.refusesClose with
  | some reason => .error (.raised reason)
  | none => .ok ()

theorem SameConduct.closing (same : SameConduct world world') (server : Nat) :
    world'.closing server = world.closing server := by
  have refuses (world : World) : ((world.server? server).bind fun process =>
      process.conduct.refusesClose) =
      ((world.server? server).map Server.conduct).bind Conduct.refusesClose := by
    cases world.server? server <;> rfl
  rw [World.closing, World.closing, refuses, refuses, same server]

theorem wait_sequel (server : Nat) (timeout : Duration) (world : World) :
    Ensures (wait server timeout) world fun ending world' => ending = .ok () ∧
      world'.session = world.session ∧ Sequel [.waited server timeout] world world' :=
  ⟨rfl, rfl, (sequel_noting (.waited server timeout) world).trans
    (sequel_modifying _ server fun process => (settle_weakens process).1)⟩

theorem kill_sequel (server : Nat) (world : World) :
    Ensures (kill server) world fun ending world' => ending = .ok () ∧
      world'.session = world.session ∧ Sequel [.killed server] world world' :=
  ⟨rfl, rfl, (sequel_noting (.killed server) world).trans
    (sequel_modifying _ server fun process => (kill_weakens process).1)⟩

theorem close_sequel (server : Nat) (world : World) :
    Ensures (close server) world fun ending world' => ending = world.closing server ∧
      world'.session = world.session ∧ Sequel [.closed server] world world' := by
  have noted : Sequel [.closed server] world _ := sequel_noting (.closed server) world
  have same : (world.noting (.closed server)).server? server = world.server? server := rfl
  simp only [close, ensures_bind, ensures_write, add_eq_noting, ensures_get, same, World.closing]
  cases (world.server? server).bind fun process => process.conduct.refusesClose with
  | none => exact ⟨rfl, rfl, noted⟩
  | some reason => exact ⟨rfl, rfl, noted⟩

theorem dismiss_sequel (server : Nat) (asked : Bool) (world : World) :
    Ensures (dismiss server asked) world fun ending world' => ending = world.closing server ∧
      world'.session = world.session ∧ ∃ heard, Dismissed world.settings server heard ∧
        Sequel (graceWait world.settings server asked ++ heard) world world' := by
  -- after the time it was given, a process that still runs is killed
  have forced (start : World) : Ensures (look server >>= fun running =>
      if running = true then do
        kill server
        wait server world.settings.killGrace
        close server
      else close server) start fun ending world' => ending = start.closing server ∧
        world'.session = start.session ∧
          ∃ heard, Dismissed world.settings server heard ∧ Sequel heard start world' := by
    rw [ensures_bind]
    refine (look_sequel server start).mono ?_
    rintro _ looked ⟨same, running, rfl, looks⟩
    cases running with
    | false =>
        refine (close_sequel server looked).mono ?_
        rintro _ closed ⟨rfl, kept, closes⟩
        exact ⟨looks.conduct.closing server, kept.trans same, _, .ended, looks.trans closes⟩
    | true =>
        simp only [if_true, ensures_bind]
        refine (kill_sequel server looked).mono ?_
        rintro _ killed ⟨rfl, kept, kills⟩
        refine (wait_sequel server _ killed).mono ?_
        rintro _ waited ⟨rfl, still, waits⟩
        refine (close_sequel server waited).mono ?_
        rintro _ closed ⟨rfl, last, closes⟩
        have sequel := looks.trans (kills.trans waits)
        refine ⟨sequel.conduct.closing server, ?_, _, .killed, sequel.trans closes⟩
        exact last.trans (still.trans (kept.trans same))
  simp only [dismiss, ensures_bind, ensures_get]
  cases asked with
  | false => exact forced world
  | true =>
      rw [if_pos rfl, ensures_bind]
      refine (wait_sequel server _ world).mono ?_
      rintro _ waited ⟨rfl, same, waits⟩
      refine (forced waited).mono ?_
      rintro _ world' ⟨rfl, kept, heard, dismissed, sequel⟩
      exact ⟨waits.conduct.closing server, kept.trans same, heard, dismissed, waits.trans sequel⟩

/-- The session after its end: only the root and the number of requests are kept. -/
def Session.ended (session : Session) (requests : Nat) : Session :=
  { phase := .stopped, root := session.root, nextId := session.nextId + requests }

def unreadyEvents (session : Session) : List Event :=
  if session.ready then [.ready false] else []

theorem unready_sequel (docile : Docile world) :
    Ensures (setReady nested false) world fun ending world' => ending = .ok () ∧
      world'.session = { world.session with ready := false } ∧
      Sequel ((unreadyEvents world.session).map .emitted) world world' := by
  unfold setReady
  rw [ensures_bind, ensures_getSession]
  dsimp only
  split
  · next unready =>
    have same : world.session = { world.session with ready := false } := by rw [← unready]
    have nothing : unreadyEvents world.session = [] := by simp [unreadyEvents, unready]
    rw [nothing]
    exact ⟨rfl, same, sequel_refl world⟩
  · next ready =>
    have tells : unreadyEvents world.session = [.ready false] := by simpa [unreadyEvents] using ready
    rw [tells, ensures_bind, ensures_modifySession]
    have marked : Sequel [] world _ := sequel_session world { world.session with ready := false }
    refine (emit_sequel (docile.later marked) (.ready false)).mono ?_
    rintro _ world' ⟨ends, told, same⟩
    exact ⟨ends, same, marked.trans told⟩

theorem forget_sequel (server : Nat) (docile : Docile world) :
    Ensures (forget nested server) world fun ending world' => ending = .ok () ∧
      world'.session = world.session.ended 0 ∧
      Sequel ([.dropped, .serving none] ++ (unreadyEvents world.session).map .emitted)
        world world' := by
  simp only [forget, ensures_bind, ensures_get, record, ensures_write, add_eq_noting,
    ensures_modifySession]
  have cleared (note : Log.Record) (session : Session) : Sequel [.dropped, .serving none] world
      (({ world.noting (.logged note) with session := session }.noting .dropped).noting
        (.serving none)) :=
    ((sequel_noting (.logged note) world).trans (sequel_session _ session)).trans
      ((sequel_noting .dropped _).trans (sequel_noting (.serving none) _))
  refine Ensures.mono (unready_sequel (docile.later (cleared _ _))) ?_
  rintro _ unready ⟨rfl, same, told⟩
  dsimp only
  refine (setPhase_sequel .stopped unready).mono ?_
  rintro _ stopped ⟨rfl, kept, quiet⟩
  refine ⟨trivial, ?_, ?_⟩
  · change { stopped.session with stopping := false } = _
    rw [kept, same]
    rfl
  · exact (((cleared _ _).trans told).silently quiet).silently (sequel_session stopped _)

/-- What is seen of the end of a session, in order. -/
def TakesLeave (settings : Settings) (server : Nat) (session : Session) (asked : Bool)
    (seen : List Entry) : Prop :=
  ∃ wish dismissal, Asked server session asked wish ∧ Dismissed settings server dismissal ∧
    seen = .ending server :: (wish ++ graceWait settings server asked ++ dismissal ++
      [.dropped, .serving none] ++ (unreadyEvents session).map .emitted)

theorem Asked.of_same {session session' : Session} {asked : Bool} {wish : List Entry}
    (asks : Asked server session asked wish) (ready : session.ready = session'.ready)
    (next : session.nextId = session'.nextId) : Asked server session' asked wish := by
  cases asks with
  | unready unready => exact .unready (ready ▸ unready)
  | ended isReady => exact .ended (ready ▸ isReady)
  | asked isReady shutdown exit => exact .asked (ready ▸ isReady) (next ▸ shutdown) exit

include deaf

theorem endSession_sequel (docile : Docile world)
    (goes_on : world.session.ready = true → world.session.abortRequested = false)
    (served : world.session.server = some server) (known : server < world.servers.length) :
    Ensures (endSession nested server) world fun ending world' =>
      ending = world.closing server ∧
      ∃ asked seen, TakesLeave world.settings server world.session asked seen ∧
        Sequel seen world world' ∧ world'.session = world.session.ended asked.toNat := by
  let leaving : World := World.noting
    { world with session := { world.session with stopping := true } } (.ending server)
  have begun : Sequel [.ending server] world leaving :=
    (sequel_session world _).trans (sequel_noting (.ending server) _)
  have ebbing : Ebbing server leaving := ⟨docile.later begun, served, known, rfl⟩
  simp only [endSession, ensures_bind, ensures_modifySession, ensures_write, add_eq_noting]
  refine (askToEnd_sequel deaf ebbing goes_on).mono ?_
  rintro _ wished ⟨held, asked, wish, rfl, asks, told, next⟩
  dsimp only
  rw [ensures_tryCatch]
  refine (dismiss_sequel server asked wished).mono ?_
  rintro _ dismissed ⟨rfl, same, dismissal, dismisses, gone⟩
  have sequel := begun.trans (told.trans gone)
  have settings : wished.settings = world.settings := told.settings
  have forgotten : Ensures (forget nested server) dismissed fun ending world' =>
      ending = .ok () ∧ ∃ asked seen,
        TakesLeave world.settings server world.session asked seen ∧
          Sequel seen world world' ∧ world'.session = world.session.ended asked.toNat := by
    refine (forget_sequel server (docile.later sequel)).mono ?_
    rintro _ world' ⟨rfl, ended, last⟩
    refine ⟨rfl, asked, _, ⟨wish, dismissal, asks.of_same rfl rfl, settings ▸ dismisses, rfl⟩, ?_, ?_⟩
    · have events : unreadyEvents dismissed.session = unreadyEvents world.session := by
        rw [same, unreadyEvents, held.ready]
        rfl
      have whole := sequel.trans last
      rw [events, settings] at whole
      simpa using whole
    · rw [ended, same, Session.ended, Session.ended, held.root, next]
      rfl
  have closing : wished.closing server = world.closing server :=
    (begun.trans told).conduct.closing server
  rw [closing]
  -- the failure to close the process is passed on when the session was forgotten
  cases world.closing server with
  | ok _ => exact forgotten
  | error fault =>
      dsimp only
      rw [ensures_bind]
      refine forgotten.mono ?_
      rintro _ world' ⟨rfl, seen⟩
      exact ⟨rfl, seen⟩

theorem stop_sequel {expected : Option Nat} (own : ∀ other ∈ expected, other = server)
    (docile : Docile world) (going : world.session.stopping = false)
    (goes_on : world.session.ready = true → world.session.abortRequested = false)
    (served : world.session.server = some server) (known : server < world.servers.length) :
    Ensures (stop nested expected) world fun ending world' =>
      ending = world.closing server ∧
      ∃ asked seen, TakesLeave world.settings server world.session asked seen ∧
        Sequel seen world world' ∧ world'.session = world.session.ended asked.toNat := by
  have meant : expected.any (fun other => decide (other ≠ server)) = false := by
    cases expected with
    | none => rfl
    | some other => simp [own other rfl]
  rw [stop, ensures_bind, ensures_getSession]
  dsimp only
  rw [served]
  simp only [going, meant, Bool.or_self, Bool.false_eq_true, if_false]
  exact endSession_sequel deaf docile goes_on served known

omit deaf

end

/-! ## What is read off the entries -/

def looking (server : Nat) : Entry → Option Bool
  | .looked other running => if other = server then some running else none
  | _ => none

def looks (server : Nat) (entries : List Entry) : List Bool := entries.filterMap (looking server)

/-- A message was not taken by the process. -/
def ioFailure (reason : Text) : Event := .log ("LSP process I/O error: " ++ reason)

/--
How the process was found, the messages that it was offered, the events, and whether it was
killed.  Nothing was done to other processes, and no handler was called.
-/
structure Tally (server : Nat) (entries : List Entry) (met : List Bool) (said : List Json)
    (told : List Event) (forced : Bool) : Prop where
  looks : looks server entries = met
  offers : (handed server entries).map Prod.fst = said
  others : ∀ other ≠ server, handed other entries = []
  events : emissions entries = told
  killed : ∀ other, .killed other ∈ entries ↔ other = server ∧ forced = true
  handlers : ∀ who name arguments, .called who "handler" name arguments ∉ entries

section

variable {server : Nat} {entries entries' : List Entry} {met met' : List Bool}
  {said said' : List Json} {told told' : List Event} {forced forced' : Bool}

theorem Tally.append (first : Tally server entries met said told forced)
    (second : Tally server entries' met' said' told' forced') :
    Tally server (entries ++ entries') (met ++ met') (said ++ said') (told ++ told')
      (forced || forced') where
  looks := by
    rw [← first.looks, ← second.looks]
    exact List.filterMap_append
  offers := by rw [handed_append, List.map_append, first.offers, second.offers]
  others other ne := by rw [handed_append, first.others other ne, second.others other ne]; rfl
  events := by
    rw [← first.events, ← second.events]
    exact List.filterMap_append
  killed other := by
    rw [List.mem_append, first.killed, second.killed, Bool.or_eq_true, and_or_left]
  handlers who name arguments member := by
    rcases List.mem_append.mp member with earlier | later
    · exact first.handlers who name arguments earlier
    · exact second.handlers who name arguments later

theorem filterMap_loud {β : Type} {reading : Entry → Option β}
    (loud : ∀ entry, Loud entry = false → reading entry = none) (entries : List Entry) :
    (entries.filter Loud).filterMap reading = entries.filterMap reading := by
  rw [List.filterMap_filter]
  refine List.filterMap_congr fun entry _ => ?_
  cases heard : Loud entry with
  | true => rfl
  | false => exact (loud entry heard).symm

theorem handed_loud (server : Nat) (entries : List Entry) :
    handed server (entries.filter Loud) = handed server entries :=
  filterMap_loud (fun entry quiet => by cases entry <;> first | rfl | cases quiet) entries

/-- The entries that are left out do not count. -/
theorem Tally.of_loud (tally : Tally server (entries.filter Loud) met said told forced) :
    Tally server entries met said told forced where
  looks := by
    rw [← tally.looks]
    exact (filterMap_loud (fun entry quiet => by cases entry <;> first | rfl | cases quiet) _).symm
  offers := by rw [← tally.offers, handed_loud]
  others other ne := by rw [← tally.others other ne, handed_loud]
  events := by
    rw [← tally.events]
    exact (filterMap_loud (fun entry quiet => by cases entry <;> first | rfl | cases quiet) _).symm
  killed other := by
    have loud : Loud (.killed other) = true := rfl
    rw [← tally.killed, List.mem_filter, and_iff_left loud]
  handlers who name arguments member := by
    have loud : Loud (.called who "handler" name arguments) = true := by simp [Loud]
    exact tally.handlers who name arguments (List.mem_filter.mpr ⟨member, loud⟩)

theorem tally_quiet {entry : Entry} (looked : ∀ server, looking server entry = none)
    (handed : ∀ server, handing server entry = none) (event : emission entry = none)
    (killed : ∀ other, entry ≠ .killed other)
    (handlers : ∀ who name arguments, entry ≠ .called who "handler" name arguments) :
    Tally server [entry] [] [] [] false where
  looks := by simp [Client.looks, looked]
  offers := by simp [Client.handed, handed]
  others other _ := by simp [Client.handed, handed]
  events := by simp [emissions, event]
  killed other := by simpa using (killed other).symm
  handlers who name arguments := by simpa using (handlers who name arguments).symm

theorem tally_looked (server : Nat) (running : Bool) :
    Tally server [.looked server running] [running] [] [] false := by
  constructor <;> simp [looks, looking, handed, handing, emissions, emission]

theorem tally_emitted (server : Nat) (events : List Event) :
    Tally server (events.map .emitted) [] [] events false where
  looks := by simp [looks, looking, List.filterMap_map, Function.comp_def]
  offers := by simp [handed, handing, List.filterMap_map, Function.comp_def]
  others other _ := by simp [handed, handing, List.filterMap_map, Function.comp_def]
  events := by simp [emissions, emission, List.filterMap_map, Function.comp_def]
  killed other := by simp
  handlers who name arguments := by simp

/-! ## The parts of the end -/

theorem Offered.tally {message : Json} {heard : List Entry}
    (offered : Offered server message heard) : ∃ (met : Bool) (reasons : List Text),
      Tally server heard [met] (if met then [message] else []) (reasons.map ioFailure) false := by
  cases offered with
  | missed => exact ⟨false, [], tally_looked server false⟩
  | @taken data encoded =>
      have wrote : Tally server [.wrote server message data] [] [message] [] false := by
        refine ⟨rfl, by simp [handed, handing], fun other ne => ?_, rfl, by simp, by simp⟩
        simp [handed, handing, ne.symm]
      exact ⟨true, [], (tally_looked server true).append wrote⟩
  | refused reason =>
      have refused : Tally server [.writeRefused server message] [] [message] [] false := by
        refine ⟨rfl, by simp [handed, handing], fun other ne => ?_, rfl, by simp, by simp⟩
        simp [handed, handing, ne.symm]
      have failed := tally_emitted server [ioFailure reason]
      exact ⟨true, [reason], (tally_looked server true).append (refused.append failed)⟩

/-- How the process of a session that begins to end may be found. -/
def Sighted (ready : Bool) (met : List Bool) : Prop :=
  if ready then met = [false] ∨ ∃ first second, met = [true, first, second] else met = []

/-- What the process is told that was found like this. -/
def lastWords (id : Nat) : List Bool → List Json
  | [true, first, second] =>
    (if first then [farewell id] else []) ++ if second then [parting] else []
  | _ => []

theorem Asked.tally {session : Session} {asked : Bool} {wish : List Entry}
    (asks : Asked server session asked wish) :
    ∃ met, ∃ reasons : List Text, Sighted session.ready met ∧
      Tally server wish met (lastWords session.nextId met) (reasons.map ioFailure) false := by
  cases asks with
  | unready unready =>
      refine ⟨[], [], by rw [Sighted, unready]; rfl, ?_⟩
      constructor <;> simp [looks, handed, emissions, lastWords]
  | ended ready =>
      exact ⟨[false], [], by rw [Sighted, ready]; exact .inl rfl, tally_looked server false⟩
  | asked ready shutdown exit =>
      obtain ⟨first, reasons, said⟩ := shutdown.tally
      obtain ⟨second, reasons', said'⟩ := exit.tally
      refine ⟨[true, first, second], reasons ++ reasons', ?_, ?_⟩
      · rw [Sighted, ready]
        exact .inr ⟨first, second, rfl⟩
      · rw [List.map_append]
        exact (tally_looked server true).append (said.append said')

theorem tally_waited (timeout : Duration) :
    Tally server [.waited server timeout] [] [] [] false :=
  tally_quiet (fun _ => rfl) (fun _ => rfl) rfl nofun nofun

theorem tally_graceWait (settings : Settings) (asked : Bool) :
    Tally server (graceWait settings server asked) [] [] [] false := by
  cases asked with
  | false => exact tally_emitted server []
  | true => exact tally_waited _

theorem Dismissed.tally {settings : Settings} {heard : List Entry}
    (dismissed : Dismissed settings server heard) :
    ∃ last, Tally server heard [last] [] [] last := by
  have closed : Tally server [.closed server] [] [] [] false :=
    tally_quiet (fun _ => rfl) (fun _ => rfl) rfl nofun nofun
  cases dismissed with
  | ended => exact ⟨false, (tally_looked server false).append closed⟩
  | killed =>
      have killed : Tally server [.killed server] [] [] [] true := by
        exact ⟨rfl, rfl, fun _ _ => rfl, rfl, by simp, by simp⟩
      exact ⟨true, (tally_looked server true).append (killed.append ((tally_waited _).append closed))⟩

theorem TakesLeave.tally {settings : Settings} {session : Session} {asked : Bool}
    {seen : List Entry} (leaves : TakesLeave settings server session asked seen) :
    ∃ met last, ∃ reasons : List Text, Sighted session.ready met ∧
      Tally server seen (met ++ [last]) (lastWords session.nextId met)
        (reasons.map ioFailure ++ unreadyEvents session) last := by
  obtain ⟨wish, dismissal, asks, dismissed, rfl⟩ := leaves
  obtain ⟨met, reasons, sighted, wished⟩ := asks.tally
  obtain ⟨last, gone⟩ := dismissed.tally
  refine ⟨met, last, reasons, sighted, ?_⟩
  have begun : Tally server [.ending server] [] [] [] false :=
    tally_quiet (fun _ => rfl) (fun _ => rfl) rfl nofun nofun
  have dropped : Tally server [.dropped] [] [] [] false :=
    tally_quiet (fun _ => rfl) (fun _ => rfl) rfl nofun nofun
  have unserved : Tally server [.serving none] [] [] [] false :=
    tally_quiet (fun _ => rfl) (fun _ => rfl) rfl nofun nofun
  have whole := begun.append ((((wished.append (tally_graceWait settings asked)).append gone).append
    (dropped.append unserved)).append (tally_emitted server (unreadyEvents session)))
  simpa using whole

end

/-! ## Nothing is left to be stopped -/

/-- Without a process nothing is done. -/
theorem turn_stop_of_unserved (depth : Nat) {world : World} (unserved : world.session.server = none) :
    turn (performWith (nestedCalls depth)) world .stop = ⟨.ok .null, [], world⟩ := by
  have stops := result_stop_of_unserved (nestedCalls depth) unserved
  have performed : result (stop (nestedCalls depth) none >>= fun _ => pure Json.null) world =
      (.ok .null, world) := by
    rw [result_bind, stops]
    rfl
  have outcome : (turn (performWith (nestedCalls depth)) world .stop).outcome = .ok .null :=
    congrArg Prod.fst performed
  have after : (turn (performWith (nestedCalls depth)) world .stop).after = world :=
    congrArg Prod.snd performed
  have entries : (turn (performWith (nestedCalls depth)) world .stop).entries = [] := by
    apply turn_entries
    rw [after, List.append_nil]
  revert outcome after entries
  rcases turn (performWith (nestedCalls depth)) world .stop with ⟨outcome, entries, after⟩
  rintro rfl rfl rfl
  rfl

theorem Unbegun.turns {kind : Step → Prop} (hereditary : Hereditary kind) (depth : Nat)
    {world : World} (unbegun : Unbegun kind world) {script : List Step}
    (of_kind : ∀ step ∈ script, kind step) :
    Unbegun kind (leftBy world (turns (performWith (nestedCalls depth)) world script)) := by
  refine leftBy_turns (fun step member world unbegun => ?_) unbegun
  have unmoved : Ensures (performWith (nestedCalls depth) step) world fun _ =>
      Unmoved kind world :=
    nestedCalls_unmoved hereditary (depth + 1) step (of_kind step member) world
  exact (unmoved unbegun).1

theorem Sound.made {world : World} (sound : Sound world) {server : Nat}
    (served : world.session.server = some server) : server < world.servers.length :=
  sound.servers server (serving_of_standing (sound.server.trans served))

theorem Sound.docile {world : World} (sound : Sound world) (passive : Scriptless world) :
    Docile world := by
  refine ⟨passive, fun channel who subscribed callback found => ?_⟩
  obtain ⟨listener, known, other⟩ := sound.listeners channel who subscribed
  obtain rfl : listener = callback := Option.some.inj (known.symm.trans found)
  exact other

/-! ## How `stop` takes leave -/

/-- What a turn does that ends a session with this server. -/
structure Departure (server : Nat) (world : World) (ended : Turn World) : Prop where
  outcome : ended.outcome = (world.closing server).map fun _ => .null
  order : ∃ asked,
    TakesLeave world.settings server world.session asked (ended.entries.filter Loud) ∧
      ended.after.session = world.session.ended asked.toNat
  tally : ∃ met last, ∃ reasons : List Text, Sighted world.session.ready met ∧
    Tally server ended.entries (met ++ [last]) (lastWords world.session.nextId met)
      (reasons.map ioFailure ++ unreadyEvents world.session) last

theorem stop_departs (depth : Nat) {world : World} {server : Nat} (docile : Docile world)
    (rest : Rest world.session) (served : world.session.server = some server)
    (known : server < world.servers.length) :
    let ended := turn (performWith (nestedCalls depth)) world .stop
    Departure server world ended ∧ ended.after.cast.callbacks = world.cast.callbacks := by
  intro ended
  have stops : Ensures (performWith (nestedCalls depth) .stop) world fun ending world' =>
      ending = (world.closing server).map (fun _ => .null) ∧
      ∃ asked seen, TakesLeave world.settings server world.session asked seen ∧
        Sequel seen world world' ∧ world'.session = world.session.ended asked.toNat := by
    change Ensures (stop (nestedCalls depth) none >>= fun _ => pure Json.null) world _
    rw [ensures_bind]
    refine (stop_sequel (nestedCalls_deaf depth) (by simp) docile rest.stopping
      (fun _ => rest.abortRequested) served known).mono ?_
    rintro _ world' ⟨rfl, seen⟩
    cases world.closing server with
    | ok _ => exact ⟨rfl, seen⟩
    | error fault => exact ⟨rfl, seen⟩
  obtain ⟨outcome, asked, seen, leaves, sequel, session⟩ := stops
  obtain ⟨added, grown, loud⟩ := sequel.entries
  have entries : ended.entries = added := turn_entries grown
  rw [← loud, ← entries] at leaves
  refine ⟨⟨outcome, ⟨asked, leaves, session⟩, ?_⟩, sequel.callbacks⟩
  obtain ⟨met, last, reasons, sighted, tally⟩ := leaves.tally
  exact ⟨met, last, reasons, sighted, tally.of_loud⟩

/--
The end of a session that is at rest, when no listener and no handler calls the client.  It
is one sequence: a ready session looks at its process, offers it `shutdown` with the next id
and `exit`, each if another look finds it running, and waits; a process that still runs is
killed and waited for; the process is closed, and all who wait are forgotten.  No handler is
called, and there are no events but those of messages that were not taken and, if the session
was ready, the one that it is ready no more.  After that `stop` does nothing, whatever is done
but a start; it never does anything when there is no process.
-/
theorem session_takes_leave (depth : Nat) {world : World} (reached : Reached world)
    (passive : Scriptless world) (rest : Rest world.session) {server : Nat}
    (served : world.session.server = some server) :
    let perform := performWith (nestedCalls depth)
    let ended := turn perform world .stop
    Departure server world ended ∧
      (∀ kind : Step → Prop, Hereditary kind →
        (∀ command arguments root, ¬ kind (.start command arguments root)) →
        ∀ script : List Step, (∀ step ∈ script, kind step) →
          let later := leftBy ended.after (turns perform ended.after script)
          turn perform later .stop = ⟨.ok .null, [], later⟩) ∧
      ∀ other : World, other.session.server = none →
        turn perform other .stop = ⟨.ok .null, [], other⟩ := by
  intro perform ended
  have sound := reached.sound
  obtain ⟨departure, callbacks⟩ :=
    stop_departs depth (sound.docile passive) rest served (sound.made served)
  refine ⟨departure, fun kind hereditary startless script of_kind => ?_, fun other unserved => ?_⟩
  · obtain ⟨asked, -, session⟩ := departure.order
    have unbegun : Unbegun kind ended.after := by
      refine ⟨?_, ?_, ?_, ?_⟩
      · rw [session]
        rfl
      · rw [session]
        rfl
      · intro callback member step scripted
        rw [passive callback (callbacks ▸ member)] at scripted
        cases scripted
      · exact fun command arguments root starts => (startless command arguments root starts).elim
    exact turn_stop_of_unserved depth (unbegun.turns hereditary depth of_kind).server
  · exact turn_stop_of_unserved depth unserved

/-- The last words to the process of a session with a request under way. -/
theorem session_takes_leave_of_busy :
    (busyWorld.session.server = some 0 ∧ busyWorld.session.pending.size = 1) ∧
    let perform := performWith (nestedCalls 0)
    let ended := turn perform busyWorld .stop
    Departure 0 busyWorld ended ∧ looks 0 ended.entries = [true, true, true, false] ∧
      turn perform ended.after .stop = ⟨.ok .null, [], ended.after⟩ := by
  have served : busyWorld.session.server = some 0 := by decide +kernel
  obtain ⟨departure, again, -⟩ := session_takes_leave 0 busyWorld_reached.reached
    (by decide +kernel) busyWorld_reached.atRest.rest served
  refine ⟨⟨served, by decide +kernel⟩, departure, by decide +kernel, ?_⟩
  exact again (fun _ => False) (fun _ kind => kind.elim) (fun _ _ _ => id) [] (by simp)

end Client

end LanguageSession
