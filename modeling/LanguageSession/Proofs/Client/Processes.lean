import Mathlib
import LanguageSession.Client.Scenario
import LanguageSession.Proofs.Callback
import LanguageSession.Proofs.Client.Sound

/-!
# What only touches the surroundings

Much of what a session does is noted in the journal, told to listeners or done to a server
process, and leaves the session as it is.  Such an action moves the world along every
relation that tolerates notes of no account and changes of processes.
-/

namespace LanguageSession

namespace Client

open Act

/-- Entries that tell of no session, message, script or end of a process. -/
def Neutral : Entry → Prop
  | .logged _ => True
  | .emitted _ => True
  | .spawned _ _ _ => True
  | .looked _ _ => True
  | .waited _ _ => True
  | .shown _ => True
  | _ => False

theorem Neutral.idle {entry : Entry} (neutral : Neutral entry) : Idle entry := by
  cases entry <;> trivial

/-- The process behaves as before, and does not begin to run. -/
def Weakens (change : Server → Server) : Prop :=
  ∀ process, (change process).conduct = process.conduct ∧
    ((change process).running = true → process.running = true)

/-- The part of answering a request that writes the reply. -/
def sendReply (nested : Nested) (message envelope : Json) : Act World Unit :=
  match Frame.encode envelope with
  | .error error => record (Log.failure "RPC"
      ("Cannot answer " ++ (message.member "method").display ++ ": " ++ error.message))
  | .ok data => writeMessage nested envelope data

/-- The part of a start that makes way for a new session. -/
def prepare (nested : Nested) (root : Text) : Act World Unit := do
  awaitEnding
  resetSession nested root
  setPhase .starting

/-- The part of a start that follows when the session has its server. -/
def bringUp (nested : Nested) (command : Text) (arguments : List Text) (root : Option Text)
    (server : Nat) : Act World Bool := do
  record (Log.spawning (command :: arguments) root)
  match ← spawn server with
  | some reason =>
    emitLog nested ("Failed to start LSP process: " ++ reason)
    stop nested none
    return false
  | none =>
    beginHandshake nested root
    stopIfAborted nested
    return (← getThe Session).phase ≠ .stopped

theorem start_eq (nested : Nested) (command : Text) (arguments : List Text) (root : Option Text) :
    start nested command arguments root = (do
      stop nested none
      prepare nested (root.getD [])
      let server ← adoptServer (command :: arguments)
      bringUp nested command arguments root server) := by
  simp only [start, prepare, bringUp, bind_assoc]
  -- what is left, if anything, is one match against another with the same branches
  all_goals rfl

/-- What the user tells a server about a document. -/
inductive Notice where
  | opened (uri language : Text) (text : Json)
  | changed (uri : Text) (text : Json)
  | closed (uri : Text)

namespace Notice

def method : Notice → Text
  | .opened _ _ _ => "textDocument/didOpen"
  | .changed _ _ => "textDocument/didChange"
  | .closed _ => "textDocument/didClose"

def params (documents : Documents) : Notice → Json
  | .opened uri language text => Message.didOpenParams (.string uri) (.string language) (.nat 1) text
  | .changed uri text =>
    Message.didChangeParams (.string uri) (.nat (documents.nextVersion uri)) text
  | .closed uri => Message.didCloseParams (.string uri)

def message (documents : Documents) (notice : Notice) : Json :=
  Message.notification (.string notice.method) (notice.params documents)

/-- The versions after the notice. -/
def apply (documents : Documents) : Notice → Documents
  | .opened uri _ _ => documents.openDocument uri
  | .changed uri _ => documents.change uri
  | .closed uri => documents.close uri

end Notice

/-- Tells the server of a document, and keeps the version. -/
def giveNotice (nested : Nested) (notice : Notice) : Act World Unit := do
  let session ← getThe Session
  if session.ready then
    if ← notify nested notice.method (notice.params session.documents) then
      modifyThe Session fun session => { session with documents := notice.apply session.documents }
    stopIfAborted nested

theorem didOpen_eq (nested : Nested) (uri language : Text) (text : Json) :
    didOpen nested uri language text = giveNotice nested (.opened uri language text) := rfl

theorem didChange_eq (nested : Nested) (uri : Text) (text : Json) :
    didChange nested uri text = giveNotice nested (.changed uri text) := rfl

theorem didClose_eq (nested : Nested) (uri : Text) :
    didClose nested uri = giveNotice nested (.closed uri) := rfl

/-- Neutral entries may be noted, and processes may weaken. -/
class Tolerant (relation : World → World → Prop) : Prop extends IsPreorder World relation where
  noting : ∀ world entry, Neutral entry → relation world (world.noting entry)
  modifying : ∀ world server change, Weakens change →
    relation world (world.modifyServer server change)

/-- The record tells neither of the state of a session nor of what its listeners are told. -/
def Unmarked (note : Log.Record) : Prop :=
  note.component ≠ "SESSION" ∧ (note.component = "CLIENT" → note.fields = [])

theorem unmarked_of_component {note : Log.Record} (component : Text)
    (same : note.component = component) (apart : component ≠ "SESSION" ∧ component ≠ "CLIENT") :
    Unmarked note := by
  subst same
  exact ⟨apart.1, fun client => (apart.2 client).elim⟩

/-- Neutral entries that tell of no state and no event. -/
def Slight : Entry → Prop
  | .logged note => Unmarked note
  | .spawned _ _ _ => True
  | .looked _ _ => True
  | .waited _ _ => True
  | _ => False

theorem Slight.neutral {entry : Entry} (slight : Slight entry) : Neutral entry := by
  cases entry <;> trivial

/-- Slight entries may be noted, and processes may weaken. -/
class Lenient (relation : World → World → Prop) : Prop extends IsPreorder World relation where
  slighting : ∀ world entry, Slight entry → relation world (world.noting entry)
  weakening : ∀ world server change, Weakens change →
    relation world (world.modifyServer server change)

instance (relation : World → World → Prop) [Tolerant relation] : Lenient relation where
  slighting world entry slight := Tolerant.noting world entry slight.neutral
  weakening := Tolerant.modifying

theorem modifyServer_settles (server : Nat) (change : Server → Server) :
    Within Settles (modifyThe World (World.modifyServer server change) : Act World Unit) := by
  refine within_modify fun world => settles_of_core ?_ rfl rfl rfl
  simp [core, World.modifyServer]

instance : Tolerant Settles where
  noting _ _ neutral := settles_idle neutral.idle
  modifying world server change _ := modifyServer_settles server change world

section

variable {relation : World → World → Prop} [Tolerant relation]

theorem within_write {entry : Entry} (neutral : Neutral entry) :
    Within relation (write entry : Act World Unit) :=
  fun world => Tolerant.noting world entry neutral

theorem within_record (note : Log.Record) : Within relation (record note : Act World Unit) :=
  within_write (show Neutral (.logged note) from trivial)

end

section

variable {relation : World → World → Prop} [IsPreorder World relation]

theorem within_getSession : Within relation (getThe Session : Act World Session) :=
  fun world => refl_of relation world

theorem within_getCast : Within relation (getThe (Cast Step) : Act World (Cast Step)) :=
  fun world => refl_of relation world

end

section

variable {relation : World → World → Prop} [Lenient relation]

theorem within_slight {entry : Entry} (slight : Slight entry) :
    Within relation (write entry : Act World Unit) :=
  fun world => Lenient.slighting world entry slight

theorem within_unmarked {note : Log.Record} (unmarked : Unmarked note) :
    Within relation (record note : Act World Unit) :=
  within_slight (show Slight (.logged note) from unmarked)

/-! ## Server processes -/

theorem within_modifyServer (server : Nat) {change : Server → Server} (weakens : Weakens change) :
    Within relation (modifyThe World (World.modifyServer server change) : Act World Unit) :=
  fun world => Lenient.weakening world server change weakens

theorem finish_weakens (process : Server) (code : Int) :
    (process.finish code).conduct = process.conduct ∧
      ((process.finish code).running = true → process.running = true) := by
  simp [Server.finish]

theorem look_weakens : Weakens Server.look := by
  intro process
  unfold Server.look
  split
  · simp [Server.finish]
  · exact ⟨rfl, id⟩

theorem accept_weakens (message : Json) : Weakens fun process => process.accept message := by
  intro process
  simp only [Server.accept]
  split
  · split
    · exact ⟨rfl, by rintro ⟨⟩⟩
    · exact ⟨rfl, id⟩
  · exact ⟨rfl, id⟩

theorem settle_weakens : Weakens Server.settle := by
  intro process
  unfold Server.settle
  split
  · exact finish_weakens process 0
  · exact ⟨rfl, id⟩

theorem kill_weakens : Weakens Server.kill := by
  intro process
  unfold Server.kill
  split
  · exact ⟨rfl, id⟩
  · exact finish_weakens process (-9)

/-- The world after a server process was looked at. -/
def World.looking (world : World) (server : Nat) : World :=
  (world.modifyServer server Server.look).noting
    (.looked server ((world.modifyServer server Server.look).isRunning server))

@[simp] theorem looking_session (world : World) (server : Nat) :
    (world.looking server).session = world.session := rfl

theorem ensures_look {world : World} (server : Nat) (post : Except Fault Bool → World → Prop) :
    Ensures (look server) world post ↔
      post (.ok ((world.looking server).isRunning server)) (world.looking server) := Iff.rfl

theorem looking_within (world : World) (server : Nat) : relation world (world.looking server) :=
  trans_of relation (Lenient.weakening world server _ look_weakens)
    (Lenient.slighting _ (.looked server _) trivial)

theorem look_within (server : Nat) : Within relation (look server) :=
  fun world => looking_within world server

theorem spawn_within (server : Nat) (begins : ∀ world : World, relation world
      (world.modifyServer server fun process => { process with running := true })) :
    Within relation (spawn server) := by
  unfold spawn
  refine Within.bind within_get fun world => ?_
  split
  · exact within_pure _
  · refine Within.bind (within_slight trivial) fun _ => ?_
    split
    · exact within_pure _
    · exact Within.bind begins fun _ => within_pure _

theorem wait_within (server : Nat) (timeout : Duration) : Within relation (wait server timeout) :=
  Within.bind (within_slight trivial) fun _ => within_modifyServer _ settle_weakens

/-- A process is dismissed where its end may be noted. -/
theorem dismiss_within (server : Nat) (graceful : Bool)
    (killed : ∀ world : World, relation world (world.noting (.killed server)))
    (closed : ∀ world : World, relation world (world.noting (.closed server))) :
    Within relation (dismiss server graceful) := by
  have closes : Within relation (close server) := by
    refine Within.bind closed fun _ => Within.bind within_get fun world => ?_
    split
    · exact within_throw _
    · exact within_pure _
  unfold dismiss
  refine Within.bind within_get fun world => ?_
  have forced : Within relation (look server >>= fun running =>
      if running = true then do
        kill server
        wait server world.settings.killGrace
        close server
      else close server) := by
    refine Within.bind (look_within _) fun running => ?_
    split
    · refine Within.bind ?_ fun _ => Within.bind (wait_within _ _) fun _ => closes
      exact Within.bind killed fun _ => within_modifyServer _ kill_weakens
    · exact closes
  dsimp only
  split
  · exact Within.bind (wait_within _ _) fun _ => forced
  · exact forced

theorem unavailable_within : Within relation unavailable := by
  refine Within.bind within_getSession fun session => ?_
  dsimp only
  split
  · split
    · exact within_pure _
    · exact Within.bind (look_within _) fun running => within_pure _
  · exact within_pure _

end

/-! ## Waiting and parting -/

section

variable {relation : World → World → Prop} [IsPreorder World relation]

theorem awaitEnding_within : Within relation awaitEnding := by
  refine Within.bind within_get fun world => Within.bind (within_ofExcept _) fun time => ?_
  split
  · exact within_ofExcept _
  · exact within_pure _

theorem askToEnd_within {nested : Nested} {server : Nat} (looks : Within relation (look server))
    (shuts : Within relation (setPhase .shuttingDown))
    (asks : Within relation (sendRequest nested "shutdown" .null none))
    (parts : Within relation (sendNotification nested "exit" .null)) :
    Within relation (askToEnd nested server) := by
  have judged (session : Session) (running : Bool) : Within relation
      (if (running && !session.abortRequested) = true then do
        setPhase .shuttingDown
        let _ ← sendRequest nested "shutdown" .null none
        let _ ← sendNotification nested "exit" .null
        return true
      else return false) := by
    split
    · refine Within.bind shuts fun _ => Within.bind asks fun _ => ?_
      exact Within.bind parts fun _ => within_pure _
    · exact within_pure _
  refine Within.bind within_getSession fun session => ?_
  dsimp only
  split
  · exact Within.bind looks fun running => judged session running
  · exact Within.bind (within_pure _) fun running => judged session running

theorem waitReady_within (timeout : Option Duration) : Within relation (waitReady timeout) := by
  refine Within.bind within_getSession fun session => ?_
  dsimp only
  split
  · split
    · refine Within.bind (within_ofExcept _) fun _ => ?_
      exact Within.bind (within_ofExcept _) fun _ => within_pure _
    · exact within_pure _
  · exact within_pure _

/-- What is done for mail when the time is not negative. -/
def lookForMail (slot : Nat) (time : Duration) : Act World (Option Completion) := do
  let _ ← MonadExcept.ofExcept (time.toDouble.mapError Fault.time)
  match (← getThe World).mail.lookup slot with
  | some completion => return some completion
  | none =>
    MonadExcept.ofExcept (time.await.mapError Fault.time)
    return none

theorem collectMail_within (slot : Nat) (time : Duration) :
    Within relation (collectMail slot time) := by
  have looked : Within relation (lookForMail slot time) := by
    refine Within.bind (within_ofExcept _) fun _ => Within.bind within_get fun world => ?_
    split
    · exact within_pure _
    · exact Within.bind (within_ofExcept _) fun _ => within_pure _
  unfold collectMail
  dsimp only
  split
  · exact Within.bind (within_throw _) fun _ => looked
  · exact looked

theorem withServer_within {server : Option Nat} {action : Nat → Act World Unit}
    (acts : ∀ server, Within relation (action server)) :
    Within relation (withServer server action) := by
  refine Within.bind (Within.bind within_get fun world => within_pure _) fun chosen => ?_
  split
  · exact acts _
  · exact within_pure _

end

theorem ensures_withServer {world : World} {post : World → Prop} {server : Option Nat}
    {action : Nat → Act World Unit} (idle : post world)
    (acts : ∀ number, Ensures (action number) world fun _ => post) :
    Ensures (withServer server action) world fun _ => post := by
  simp only [withServer, chosenServer, ensures_bind, ensures_get, ensures_pure]
  split
  · exact acts _
  · exact idle

/-! ## Events -/

section

variable {relation : World → World → Prop}

theorem reportListener_within [Lenient relation] (listener : Listener) : Within relation
    (do record (Log.listenerFailed (← listenerLabel listener)) : Act World Unit) := by
  refine Within.bind ?_ fun label =>
    within_unmarked (unmarked_of_component "EVENTS" rfl (by decide))
  unfold listenerLabel
  cases listener with
  | callback who => exact Within.bind within_getCast fun cast => within_pure _
  | echo => exact within_pure _
  | collect => exact within_pure _

variable {nested : Nested}

/-- An event is noted, and told to one listener after the other. -/
theorem ensures_emit_since [Lenient relation] {event : Event} {base world : World}
    (noted : relation base (world.noting (.emitted event)))
    (told : ∀ listener ∈ world.subscriptions.on event.channel, ∀ world', relation base world' →
      Ensures (tell nested listener event) world' fun _ => relation world') :
    Ensures (emit nested event) world fun _ => relation base := by
  simp only [emit, Subscriptions.emit, ensures_bind, ensures_getSubscriptions, ensures_write,
    add_eq_noting]
  refine Ensures.forM ?_ noted
  intro listener subscribed world' moved
  rw [contain, ensures_tryCatch]
  refine (told listener subscribed world' moved).mono ?_
  intro ending told later
  have later := trans_of relation moved later
  cases ending with
  | ok _ => exact later
  | error fault => exact (reportListener_within listener).later later

variable (relation) in
theorem ensures_emit [Tolerant relation] {event : Event} {world : World}
    (told : ∀ listener ∈ world.subscriptions.on event.channel, ∀ world', relation world world' →
      Ensures (tell nested listener event) world' fun _ => relation world') :
    Ensures (emit nested event) world fun _ => relation world :=
  ensures_emit_since (Tolerant.noting world (.emitted event) trivial) told

end

/-! ## Scripts -/

section

variable {relation : World → World → Prop} [IsPreorder World relation]

/-- Does the entry stand around a step of a script? -/
def Marks : Entry → Prop
  | .doing _ => True
  | .did _ _ => True
  | _ => False

instance : HoldsCast Step World where
  cast := World.cast
  setCast cast world := { world with cast := cast }
  result_get _ := rfl
  result_modify _ _ := rfl
  cast_setCast _ _ := rfl
  cast_add _ _ := rfl

variable (relation) in
/-- Steps of scripts may be marked, and scripts may count as run. -/
structure Hosts : Prop where
  marking : ∀ world entry, Marks entry → relation world (world.noting entry)
  spending : ∀ (world : World) who, relation world
    { world with cast := { world.cast with spent := who :: world.cast.spent } }

variable {perform : Step → Act World Json}

theorem Hosts.runScript (hosts : Hosts relation) {script : List Step}
    (performs : ∀ step ∈ script, Within relation (perform step)) :
    Within relation (runScript Step.operation perform script) := by
  refine Within.forM fun step member => ?_
  refine Within.bind (fun world => hosts.marking world _ trivial) fun _ => ?_
  refine Within.bind (performs step member) fun result => ?_
  exact fun world => hosts.marking world _ trivial

theorem proceed_within {who : Nat} {callback : Callback Step} (arguments : List Json)
    (spending : ∀ world : World, relation world
      { world with cast := { world.cast with spent := who :: world.cast.spent } })
    (runs : Within relation (runScript Step.operation perform callback.script)) :
    Within relation (proceed Step.operation perform who callback arguments) :=
  within_proceed arguments spending runs

theorem Hosts.proceed (hosts : Hosts relation) (who : Nat) {callback : Callback Step}
    (arguments : List Json) (performs : ∀ step ∈ callback.script, Within relation (perform step)) :
    Within relation (proceed Step.operation perform who callback arguments) :=
  proceed_within arguments (fun world => hosts.spending world who) (hosts.runScript performs)

theorem ensures_invoke {world : World} {who : Nat} {callback : Callback Step}
    {arguments : List Json} (known : world.cast.callbacks[who]? = some callback)
    {post : Except Fault Unit → World → Prop} :
    Ensures (invoke Step.operation perform who arguments) world post ↔
      Ensures (proceed Step.operation perform who callback arguments)
        (world.noting (.called who callback.kind callback.name arguments)) post := by
  simp only [invoke, ensures_bind, ensures_getCast, known, ensures_write, add_eq_noting]

theorem ensures_invoke_since {world : World} {who : Nat} (arguments : List Json)
    (called : ∀ callback, world.cast.callbacks[who]? = some callback →
      relation world (world.noting (.called who callback.kind callback.name arguments)))
    (proceeds : ∀ callback ∈ world.cast.callbacks,
      Within relation (proceed Step.operation perform who callback arguments)) :
    Ensures (invoke Step.operation perform who arguments) world fun _ => relation world := by
  cases known : world.cast.callbacks[who]? with
  | none =>
      simp only [LanguageSession.invoke, ensures_bind, ensures_getCast, known]
      exact refl_of relation world
  | some callback =>
      rw [ensures_invoke known]
      exact (proceeds callback (List.mem_of_getElem? known)).later (called callback known)

theorem Hosts.invoke (hosts : Hosts relation) {world : World} {who : Nat} (arguments : List Json)
    (called : ∀ callback, world.cast.callbacks[who]? = some callback →
      relation world (world.noting (.called who callback.kind callback.name arguments)))
    (performs : ∀ callback ∈ world.cast.callbacks, ∀ step ∈ callback.script,
      Within relation (perform step)) :
    Ensures (invoke Step.operation perform who arguments) world fun _ => relation world :=
  ensures_invoke_since arguments called fun callback member =>
    hosts.proceed who arguments (performs callback member)

end

/-! ## Adopting and registering -/

/-- The world after a server process was made for the session. -/
def World.adopting (world : World) (argv : List Text) : World :=
  World.noting { world with
    servers := world.servers ++ [⟨argv, world.factory, false, none, false, 0, 0⟩]
    session := { world.session with server := some world.servers.length } }
    (.serving (some world.servers.length))

theorem ensures_adoptServer {world : World} (argv : List Text)
    (post : Except Fault Nat → World → Prop) :
    Ensures (adoptServer argv) world post ↔ post (.ok world.servers.length) (world.adopting argv) :=
  Iff.rfl

def World.awaited (world : World) (id : Nat) (handler : Handler) : World :=
  let waiting : World := { world with
    session := { world.session with
      pending := ⟨Registry.insert (.nat id) handler world.session.pending.entries⟩ } }
  match handler with
  | .callback who => waiting.noting (.awaiting who id world.session.server)
  | _ => waiting

/-- A number can always be a key. -/
theorem ensures_await {world : World} (id : Nat) (handler : Handler)
    (post : Except Fault Unit → World → Prop) :
    Ensures (await id handler) world post ↔ post (.ok ()) (world.awaited id handler) := by
  have registered : Registry.register world.session.pending (.nat id) handler =
      .ok ⟨Registry.insert (.nat id) handler world.session.pending.entries⟩ := rfl
  simp only [await, ensures_bind, ensures_getPending, registered, ensures_ofExcept,
    ensures_setPending]
  cases handler <;> rfl

def World.adding (world : World) (callback : Callback Step) : World :=
  { world with cast := { world.cast with callbacks := world.cast.callbacks ++ [callback] } }

theorem ensures_addCallback {world : World} (callback : Callback Step)
    (post : Except Fault Nat → World → Prop) :
    Ensures (addCallback callback) world post ↔
      post (.ok world.cast.callbacks.length) (world.adding callback) := Iff.rfl

/-! ## What cannot fail -/

section

variable {nested : Nested}

theorem record_succeeds (note : Log.Record) : Succeeds (record note : Act World Unit) :=
  succeeds_write _

theorem getSession_succeeds : Succeeds (getThe Session : Act World Session) :=
  fun world => ⟨world.session, rfl⟩

theorem modifySession_succeeds (change : Session → Session) :
    Succeeds (modifyThe Session change : Act World Unit) := fun _ => ⟨(), rfl⟩

theorem contained_succeeds (listener : Listener) (event : Event) : Succeeds
    (contain (tell nested listener event) do
      record (Log.listenerFailed (← listenerLabel listener)) : Act World Unit) := by
  refine Succeeds.tryCatch fun _ => Succeeds.bind ?_ fun _ => record_succeeds _
  unfold listenerLabel
  cases listener with
  | callback who => exact Succeeds.bind (fun world => ⟨world.cast, rfl⟩) fun _ => succeeds_pure _
  | echo => exact succeeds_pure _
  | collect => exact succeeds_pure _

theorem emit_succeeds (event : Event) : Succeeds (emit nested event) := by
  refine Succeeds.bind (fun world => ⟨world.subscriptions, rfl⟩) fun subscriptions => ?_
  refine Succeeds.bind (succeeds_write _) fun _ => Succeeds.forM fun listener => ?_
  exact contained_succeeds listener event

theorem emitLog_succeeds (text : Text) : Succeeds (emitLog nested text) :=
  Succeeds.bind (record_succeeds _) fun _ => emit_succeeds _

theorem setPhase_succeeds (phase : Phase) : Succeeds (setPhase phase) := by
  refine Succeeds.bind getSession_succeeds fun session => ?_
  split
  · exact succeeds_pure _
  · exact Succeeds.bind (record_succeeds _) fun _ => modifySession_succeeds _

theorem setReady_succeeds (ready : Bool) : Succeeds (setReady nested ready) := by
  refine Succeeds.bind getSession_succeeds fun session => ?_
  split
  · exact succeeds_pure _
  · refine Succeeds.bind (modifySession_succeeds _) fun _ => ?_
    dsimp only
    split
    · exact Succeeds.bind (setPhase_succeeds _) fun _ => emit_succeeds _
    · exact emit_succeeds _

theorem look_succeeds (server : Nat) : Succeeds (look server) :=
  Succeeds.bind (succeeds_modify _) fun _ => Succeeds.bind succeeds_get fun _ =>
    Succeeds.bind (succeeds_write _) fun _ => succeeds_pure _

end

end Client

end LanguageSession
