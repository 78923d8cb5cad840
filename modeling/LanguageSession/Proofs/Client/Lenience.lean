import Mathlib
import LanguageSession.Proofs.Client.Undertakings

/-!
# What operations have in common

Much of what operations do leaves the phase of the session alone and tells its listeners nothing.
A relation that puts up with all of that is kept by an operation if it is kept where a message is
written, a text is told, a callback is called or the session is stopped.
-/

namespace LanguageSession

namespace Client

open Act

/-! ## Records -/

theorem Phase.name_injective : Function.Injective Phase.name := by
  intro first second same
  cases first <;> cases second <;> first | rfl | exact absurd same (by decide)

theorem unmarked_note {level : Log.Level} {message : Text} (component : Text)
    (silent : component ≠ "SESSION") : Unmarked (Log.note level component message) :=
  ⟨silent, fun _ => rfl⟩

theorem unmarked_payload {payload : Frame.Payload} {note : Log.Record}
    (noted : payload.note? = some note) : Unmarked note := by
  cases payload with
  | message value => cases noted
  | malformed size reason =>
      obtain rfl := Option.some.inj noted
      exact unmarked_note _ (by decide)
  | other value =>
      obtain rfl := Option.some.inj noted
      exact unmarked_note _ (by decide)

theorem unmarked_feed (buffer data : Bytes) :
    ∀ note ∈ (Frame.feed buffer data).notes, Unmarked note := by
  have noted : ∀ note ∈ (Frame.cut (buffer ++ data)).payloads.filterMap Frame.Payload.note?,
      Unmarked note := by
    intro note member
    obtain ⟨payload, -, noted⟩ := List.mem_filterMap.mp member
    exact unmarked_payload noted
  unfold Frame.feed
  dsimp only
  split <;> exact noted

theorem unmarked_reply {message : Json} {root : Text} {reply : Answer.Reply} {note : Log.Record}
    (replied : Answer.reply message root = .ok reply) (noted : reply.note = some note) :
    Unmarked note := by
  have unsupported {id method params : Json}
      (noted : (Answer.toMethod id method params root).note = some note) : Unmarked note := by
    unfold Answer.toMethod at noted
    dsimp only at noted
    split at noted
    · cases noted
    · split at noted
      · cases noted
      · split at noted
        · cases noted
        · obtain rfl := Option.some.inj noted
          exact unmarked_note _ (by decide)
  unfold Answer.reply at replied
  split at replied
  · cases replied
  · cases replied
  · obtain rfl := Except.ok.inj replied
    exact unsupported noted

/-! ## Obliging relations -/

/--
Entries that tell neither of states nor of events, of no callback, of no other server and of no
message.
-/
def Mild : Entry → Prop
  | .logged note => Unmarked note
  | .emitted _ => False
  | .called _ _ _ _ => False
  | .doing _ => False
  | .did _ _ => False
  | .serving _ => False
  | .ending _ => False
  | .writeRefused _ _ => False
  | .handling _ _ => False
  | _ => True

theorem Slight.mild {entry : Entry} (slight : Slight entry) : Mild entry := by
  cases entry with
  | logged note => exact slight
  | _ => trivial

def Session.bearing (session : Session) : Phase × Bool × Option Nat × Bool :=
  (session.phase, session.ready, session.server, session.stopping)

/-- Relations that operations keep as long as nothing of account happens. -/
class Obliging (relation : World → World → Prop) : Prop extends IsPreorder World relation where
  noting : ∀ world entry, Mild entry → relation world (world.noting entry)
  /-- Processes may change, but not their conduct. -/
  modifying : ∀ world server change, (∀ process, (change process).conduct = process.conduct) →
    relation world (world.modifyServer server change)
  /-- A session that is to be ended stays so, and nobody begins to wait. -/
  resuming : ∀ (world : World) (session : Session), session.bearing = world.session.bearing →
    (session.abortRequested = false → world.session.abortRequested = false) →
    session.pending.entries ⊆ world.session.pending.entries →
    relation world { world with session := session }
  arranging : ∀ world world' : World, world'.journal = world.journal →
    world'.session = world.session → world'.servers = world.servers →
    world'.factory = world.factory → world'.cast.callbacks = world.cast.callbacks →
    world'.subscriptions = world.subscriptions → world'.mail = world.mail →
    world.cast.spent ⊆ world'.cast.spent → relation world world'

instance (relation : World → World → Prop) [Obliging relation] : Lenient relation where
  slighting world entry slight := Obliging.noting world entry slight.mild
  weakening world server change weakens :=
    Obliging.modifying world server change fun process => (weakens process).1

section

variable {relation : World → World → Prop} [Obliging relation]

theorem within_mild {entry : Entry} (mild : Mild entry) :
    Within relation (write entry : Act World Unit) :=
  fun world => Obliging.noting world entry mild

theorem within_resume {change : Session → Session}
    (same : ∀ session, (change session).bearing = session.bearing)
    (aborted : ∀ session, (change session).abortRequested = false →
      session.abortRequested = false)
    (waiting : ∀ session, (change session).pending = session.pending) :
    Within relation (modifyThe Session change : Act World Unit) := fun world =>
  Obliging.resuming world (change world.session) (same _) (aborted _)
    (by rw [waiting]; exact List.Subset.refl _)

theorem within_arrange {change : World → World}
    (journal : ∀ world, (change world).journal = world.journal)
    (session : ∀ world, (change world).session = world.session)
    (servers : ∀ world, (change world).servers = world.servers)
    (factory : ∀ world, (change world).factory = world.factory)
    (cast : ∀ world, (change world).cast = world.cast)
    (subscriptions : ∀ world, (change world).subscriptions = world.subscriptions)
    (mail : ∀ world, (change world).mail = world.mail) :
    Within relation (modifyThe World change) := fun world =>
  Obliging.arranging world (change world) (journal world) (session world) (servers world)
    (factory world) (by rw [cast world]) (subscriptions world) (mail world)
    (by rw [cast world]; exact List.Subset.refl _)

theorem obliging_hosts
    (marking : ∀ world entry, Marks entry → relation world (world.noting entry)) :
    Hosts relation where
  marking := marking
  spending world _ :=
    Obliging.arranging world _ rfl rfl rfl rfl rfl rfl rfl (List.subset_cons_self _ _)

theorem requestAbort_within : Within relation requestAbort :=
  within_resume (fun _ => rfl) (by simp) fun _ => rfl

theorem spawn_obliging (server : Nat) : Within relation (spawn server) :=
  spawn_within server fun world => Obliging.modifying world server _ fun _ => rfl

theorem dismiss_obliging (server : Nat) (graceful : Bool) :
    Within relation (dismiss server graceful) :=
  dismiss_within server graceful (fun world => Obliging.noting world _ trivial)
    fun world => Obliging.noting world _ trivial

def Awaits (relation : World → World → Prop) (handler : Handler) : Prop :=
  ∀ id, Within relation (await id handler)

omit [Obliging relation] in
theorem awaits_of_awaited {handler : Handler}
    (awaited : ∀ (world : World) id, relation world (world.awaited id handler)) :
    Awaits relation handler := fun id world => by
  rw [ensures_await]
  exact awaited world id

/-! ## Speaking -/

/-- The relation is kept where a message is written or a text is told. -/
structure Speaking (relation : World → World → Prop) (nested : Nested) : Prop where
  writes : ∀ message data, Within relation (writeMessage nested message data)
  tells : ∀ text, Within relation (emitLog nested text)

variable {nested : Nested} (speaking : Speaking relation nested)

include speaking

theorem sendNotification_within (method : Text) (params : Json) :
    Within relation (sendNotification nested method params) := by
  unfold sendNotification
  dsimp only
  split
  · exact within_pure _
  · exact Within.bind (speaking.writes _ _) fun _ => within_pure _

theorem notify_within (method : Text) (params : Json) :
    Within relation (notify nested method params) := by
  refine Within.bind (sendNotification_within speaking _ _) fun sent => ?_
  split
  · refine Within.bind (within_unmarked ?_) fun _ => within_pure _
    exact unmarked_of_component "RPC" rfl (by decide)
  · exact within_pure _

theorem sendRequest_within (method : Text) (params : Json) {handler : Option Handler}
    (awaits : ∀ waiting ∈ handler, Awaits relation waiting) :
    Within relation (sendRequest nested method params handler) := by
  refine Within.bind within_getSession fun session => ?_
  dsimp only
  split
  · exact within_pure _
  · refine Within.bind (within_resume (fun _ => rfl) (fun _ => id) fun _ => rfl) fun _ => ?_
    split
    · exact Within.bind (speaking.writes _ _) fun _ => within_pure _
    · refine Within.bind (awaits _ rfl _) fun _ => ?_
      exact Within.bind (speaking.writes _ _) fun _ => within_pure _

theorem answerRequest_within (message : Json) :
    Within relation (answerRequest nested message) := by
  have sends (envelope : Json) : Within relation (sendReply nested message envelope) := by
    unfold sendReply
    split
    · exact within_unmarked (unmarked_of_component "RPC" rfl (by decide))
    · exact speaking.writes _ _
  refine Within.bind within_getSession fun session => ?_
  intro world
  rw [ensures_bind, ensures_ofExcept]
  cases replied : Answer.reply message session.root with
  | error fault => exact refl_of relation world
  | ok reply =>
      dsimp only
      split
      · next note noted =>
        exact Within.bind (within_unmarked (unmarked_reply replied noted)) (fun _ => sends _) world
      · exact sends _ world

theorem receiveError_within (server : Nat) (text : Text) :
    Within relation (receiveError nested server text) := by
  refine Within.bind within_getSession fun session => ?_
  split
  · exact speaking.tells text
  · exact within_pure _

theorem beginHandshake_within (opens : Awaits relation .handshake) (root : Option Text) :
    Within relation (beginHandshake nested root) := by
  refine Within.bind (sendRequest_within speaking _ _ (by simpa using opens)) fun sent => ?_
  split
  · exact within_resume (fun _ => rfl) (fun _ => id) fun _ => rfl
  · exact Within.bind (speaking.tells _) fun _ => requestAbort_within

theorem trySend_within (method : Text) (params : Json) {handler : Option Handler}
    (awaits : ∀ waiting ∈ handler, Awaits relation waiting) :
    Within relation (trySend nested method params handler) := by
  refine Within.bind unavailable_within fun refusal => ?_
  split
  · exact within_pure _
  · refine Within.bind (sendRequest_within speaking _ _ awaits) fun sent => ?_
    split
    · exact within_pure _
    · refine Within.bind (within_unmarked ?_) fun _ => within_pure _
      exact unmarked_of_component "RPC" rfl (by decide)

omit speaking

/-! ## Ending sessions -/

/-- The relation is also kept where the session is stopped. -/
structure Halting (relation : World → World → Prop) (nested : Nested) : Prop
    extends Speaking relation nested where
  stops : ∀ expected, Within relation (stop nested expected)

variable (halting : Halting relation nested)

include halting

theorem stopIfAborted_within : Within relation (stopIfAborted nested) := by
  refine Within.bind within_getSession fun session => ?_
  split
  · split
    · exact within_pure _
    · exact halting.stops _
  · exact within_pure _

theorem serverEnded_within (server : Nat) (code : Option Int) :
    Within relation (serverEnded nested server code) := by
  refine Within.bind within_getSession fun session => ?_
  split
  · refine Within.bind (within_unmarked (unmarked_note _ (by decide))) fun _ => ?_
    exact Within.bind (halting.tells _) fun _ => halting.stops _
  · exact within_pure _

theorem giveNotice_within (notice : Notice) : Within relation (giveNotice nested notice) := by
  refine Within.bind within_getSession fun session => ?_
  split
  · refine Within.bind (notify_within halting.toSpeaking _ _) fun sent => ?_
    dsimp only
    split
    · refine Within.bind (within_resume (fun _ => rfl) (fun _ => id) fun _ => rfl) fun _ => ?_
      exact stopIfAborted_within halting
    · exact stopIfAborted_within halting
  · exact within_pure _

omit halting

/-! ## Acting -/

/--
The relation is also kept where somebody waits for a response, and where anybody but the session
itself is given it.
-/
structure Acting (relation : World → World → Prop) (nested : Nested) : Prop
    extends Halting relation nested where
  awaits : ∀ handler, Awaits relation handler
  completes : ∀ handler completion, handler ≠ .handshake →
    Within relation (complete nested handler completion)

variable (acting : Acting relation nested)

include acting

theorem request_within (method : Text) (params : Json) {handler : Option Handler}
    (other : ∀ waiting ∈ handler, waiting ≠ .handshake) :
    Within relation (request nested method params handler) := by
  have awaits : ∀ waiting ∈ handler, Awaits relation waiting :=
    fun waiting _ => acting.awaits waiting
  refine Within.bind (trySend_within acting.toSpeaking _ _ awaits) fun sent => ?_
  split
  · dsimp only
    split
    · exact Within.bind (acting.completes _ _ (other _ rfl)) fun _ => within_pure _
    · exact within_pure _
  · exact Within.bind (stopIfAborted_within acting.toHalting) fun _ => within_pure _

theorem requestSync_within (method : Text) (params : Json) (timeout : Option Duration) :
    Within relation (requestSync nested method params timeout) := by
  refine Within.bind within_get fun world => Within.bind ?_ fun _ =>
    Within.bind (request_within acting _ _ (by simp)) fun _ =>
      Within.bind (collectMail_within _ _) fun found => ?_
  · exact within_arrange (fun _ => rfl) (fun _ => rfl) (fun _ => rfl) (fun _ => rfl)
      (fun _ => rfl) (fun _ => rfl) fun _ => rfl
  · split
    · exact within_pure _
    · refine Within.bind (within_ofExcept _) fun tenths => ?_
      refine Within.bind (within_unmarked ?_) fun _ => within_pure _
      exact unmarked_of_component "RPC" rfl (by decide)

/-! ## Steps -/

/-- The world after a listener has subscribed. -/
def World.enlisting (world : World) (channel : Channel) (listener : Callback Step) : World :=
  { world.adding { listener with kind := channel.name } with
    subscriptions := world.subscriptions.subscribe channel (.callback world.cast.callbacks.length)
    handles :=
      (listener.name, channel, .callback world.cast.callbacks.length) :: world.handles }

/-- The relation puts up with what is peculiar to the step. -/
def Admits (relation : World → World → Prop) (nested : Nested) : Step → Prop
  | .start command arguments root => Within relation (start nested command arguments root)
  | .send _ _ => ∀ server data, Within relation (receive nested server data)
  | .raw _ _ => ∀ server data, Within relation (receive nested server data)
  | .request _ _ (some callback) =>
    ∀ world : World, relation world (world.adding { callback with kind := "handler" })
  | .subscribe channel listener => ∀ world : World, relation world (world.enlisting channel listener)
  | .unsubscribe _ => ∀ (world : World) channel listener, relation world
      { world with subscriptions := world.subscriptions.unsubscribe channel listener }
  | .set _ running change => ∀ (world : World) server, relation world
      (world.modifyServer server fun process =>
        { process with
          running := running.getD process.running, conduct := change process.conduct })
  | .setFactory change =>
    ∀ world : World, relation world { world with factory := change world.factory }
  | _ => True

theorem performWith_within {step : Step} (admits : Admits relation nested step) :
    Within relation (performWith nested step) := by
  have served {server : Option Nat} {action : Nat → Act World Unit}
      (acts : ∀ server, Within relation (action server)) :
      Within relation (withServer server action >>= fun _ => pure Json.null) :=
    Within.bind (withServer_within acts) fun _ => within_pure _
  cases step with
  | start command arguments root => exact Within.bind admits fun _ => within_pure _
  | stop => exact Within.bind (acting.stops _) fun _ => within_pure _
  | waitReady timeout => exact Within.bind (waitReady_within _) fun _ => within_pure _
  | version uri => exact Within.bind within_getSession fun _ => within_pure _
  | request method params handler =>
      cases handler with
      | none => exact Within.bind (request_within acting _ _ (by simp)) fun _ => within_pure _
      | some callback =>
          refine Within.bind (fun world => admits world) fun who => ?_
          refine Within.bind (request_within acting _ _ (by simp)) fun id => ?_
          exact Within.bind (within_mild trivial) fun _ => within_pure _
  | requestSync method params timeout =>
      exact Within.bind (requestSync_within acting _ _ _) fun _ => within_pure _
  | didOpen uri language text =>
      refine Within.bind ?_ fun _ => within_pure _
      exact giveNotice_within acting.toHalting (.opened uri language text)
  | didChange uri text =>
      refine Within.bind ?_ fun _ => within_pure _
      exact giveNotice_within acting.toHalting (.changed uri text)
  | didClose uri =>
      refine Within.bind ?_ fun _ => within_pure _
      exact giveNotice_within acting.toHalting (.closed uri)
  | subscribe channel listener =>
      exact fun world => admits world
  | unsubscribe name =>
      refine Within.bind (Within.bind within_get fun world => ?_) fun _ => within_pure _
      split
      · exact within_pure _
      · exact fun world => admits world _ _
  | send server message =>
      exact Within.bind (within_ofExcept _) fun data => served fun server => admits server data
  | raw server data => exact served fun server => admits server data
  | stderr server text =>
      exact served fun server => receiveError_within acting.toSpeaking server text
  | exit server code =>
      refine served fun server => Within.bind (fun world => ?_) fun _ =>
        serverEnded_within acting.toHalting _ _
      exact Obliging.modifying world server _ fun _ => rfl
  | onExit server code => exact served fun server => serverEnded_within acting.toHalting server code
  | set server running change => exact served fun server world => admits world server
  | setFactory change => exact Within.bind (fun world => admits world) fun _ => within_pure _

end

end Client

end LanguageSession
