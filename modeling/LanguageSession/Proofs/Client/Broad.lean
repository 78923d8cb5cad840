import Mathlib
import LanguageSession.Proofs.Client.Lenience
import LanguageSession.Proofs.Client.Refusal

/-!
# What every operation keeps

A relation that minds only whether the session is ready, who listens, who waits and what has
come in the mail is kept by every operation if it is kept where output arrives, where an event
is told and where a response is given to whoever waits for it.
-/

namespace LanguageSession

namespace Client

open Act

/-! ## Broad relations -/

/-- Entries that tell of no callback, of no new server and not whether the session is ready or ends. -/
def Reticent : Entry → Prop
  | .emitted (.ready _) => False
  | .called _ _ _ _ => False
  | .doing _ => False
  | .did _ _ => False
  | .serving (some _) => False
  | .ending _ => False
  | _ => True

theorem Mild.reticent {entry : Entry} (mild : Mild entry) : Reticent entry := by
  cases entry with
  | emitted event => cases mild
  | called who kind name arguments => cases mild
  | doing operation => cases mild
  | did operation result => cases mild
  | serving server => cases mild
  | ending server => cases mild
  | _ => trivial

/-- Relations to which the server, its processes and most of the journal are of no account. -/
class Broad (relation : World → World → Prop) : Prop extends IsPreorder World relation where
  noting : ∀ world entry, Reticent entry → relation world (world.noting entry)
  serving : ∀ (world : World) servers, relation world { world with servers := servers }
  /-- A session may lose its server, but is as ready as before, and nobody begins to wait. -/
  renewing : ∀ (world : World) (session : Session), session.ready = world.session.ready →
    (session.server = none ∨ session.server = world.session.server) →
    session.pending.entries ⊆ world.session.pending.entries →
    relation world { world with session := session }
  /-- What the user keeps may change, but not who listens and what came in the mail. -/
  keeping : ∀ world world' : World, world'.journal = world.journal →
    world'.session = world.session → world'.servers = world.servers →
    world'.cast.callbacks = world.cast.callbacks →
    world'.subscriptions = world.subscriptions → world'.mail = world.mail →
    world.cast.spent ⊆ world'.cast.spent → relation world world'

instance (relation : World → World → Prop) [Broad relation] : Obliging relation where
  noting world entry mild := Broad.noting world entry mild.reticent
  modifying world _ _ _ := Broad.serving world _
  resuming world session bearing _ waiting :=
    Broad.renewing world session (congrArg (fun bearing => bearing.2.1) bearing)
      (.inr (congrArg (fun bearing => bearing.2.2.1) bearing)) waiting
  arranging world world' journal session servers _ :=
    Broad.keeping world world' journal session servers

section

variable {relation : World → World → Prop} [Broad relation]

theorem within_reticent {entry : Entry} (reticent : Reticent entry) :
    Within relation (write entry : Act World Unit) :=
  fun world => Broad.noting world entry reticent

theorem record_broad (note : Log.Record) : Within relation (record note : Act World Unit) :=
  within_reticent (show Reticent (.logged note) from trivial)

theorem within_renew {change : Session → Session}
    (ready : ∀ session, (change session).ready = session.ready)
    (server : ∀ session, (change session).server = none ∨ (change session).server = session.server)
    (waiting : ∀ session, (change session).pending.entries ⊆ session.pending.entries) :
    Within relation (modifyThe Session change : Act World Unit) :=
  fun world => Broad.renewing world (change world.session) (ready _) (server _) (waiting _)

theorem setPhase_broad (phase : Phase) : Within relation (setPhase phase) := by
  refine Within.bind within_getSession fun session => ?_
  split
  · exact within_pure _
  · refine Within.bind (record_broad _) fun _ => ?_
    exact within_renew (fun _ => rfl) (fun _ => .inr rfl) fun _ => List.Subset.refl _

/-! ## Telling -/

/-- The relation is kept where an event is told while the session goes on. -/
structure Informing (relation : World → World → Prop) (nested : Nested) : Prop where
  tells : ∀ event, event.channel ≠ .ready → Within relation (emit nested event)
  readied : Within relation (setReady nested true)

theorem Informing.emitLog {nested : Nested} (informing : Informing relation nested) (text : Text) :
    Within relation (emitLog nested text) :=
  Within.bind (record_broad _) fun _ => informing.tells _ (by simp [Event.channel])

/-- The relation is also kept where a session begins to end and is ready no more. -/
structure Telling (relation : World → World → Prop) (nested : Nested) : Prop
    extends Informing relation nested where
  ends : ∀ (world : World) server, relation world (world.noting (.ending server))
  unreadied : Within relation (setReady nested false)

section

variable {nested : Nested} (telling : Telling relation nested)

include telling

theorem Telling.forget (server : Nat) : Within relation (forget nested server) := by
  refine Within.bind within_get fun world => Within.bind (record_broad _) fun _ => ?_
  refine Within.bind
    (within_renew (fun _ => rfl) (fun _ => .inl rfl) fun _ => List.nil_subset _) fun _ => ?_
  refine Within.bind (within_reticent trivial) fun _ => Within.bind (within_reticent trivial) fun _ => ?_
  refine Within.bind telling.unreadied fun _ => Within.bind (setPhase_broad _) fun _ => ?_
  exact within_renew (fun _ => rfl) (fun _ => .inr rfl) fun _ => List.Subset.refl _

theorem Telling.dismissal (server : Nat) (graceful : Bool) : Within relation (do
    try dismiss server graceful
    catch fault =>
      LanguageSession.Client.forget nested server
      throw fault
    LanguageSession.Client.forget nested server : Act World Unit) := by
  refine Within.bind (Within.tryCatch (dismiss_obliging _ _) fun fault => ?_) fun _ =>
    telling.forget server
  exact Within.bind (telling.forget _) fun _ => within_throw fault

/-- A server that is not asked to end is not heard of. -/
theorem Telling.endAborted {world : World} (aborted : world.session.abortRequested = true)
    (server : Nat) : Ensures (endSession nested server) world fun _ => relation world := by
  have begun : relation world
      (World.noting { world with session := { world.session with stopping := true } }
        (.ending server)) :=
    trans_of relation
      (Broad.renewing world { world.session with stopping := true } rfl (.inr rfl)
        (List.Subset.refl _))
      (telling.ends _ server)
  have hastened : relation world (world.hastening server) := by
    unfold World.hastening
    dsimp only
    split
    · exact trans_of relation begun (looking_within _ server)
    · exact begun
  rw [Ensures, result_endSession_aborted nested server aborted]
  exact (telling.dismissal server false).later hastened

theorem Telling.stopIfAborted {world : World} (aborted : world.session.abortRequested = true) :
    Ensures (stopIfAborted nested) world fun _ => relation world := by
  simp only [LanguageSession.Client.stopIfAborted, stop, ensures_bind, ensures_getSession]
  split
  · split
    · exact refl_of relation world
    · next server served =>
      simp only [ensures_bind, ensures_getSession, served]
      split
      · exact refl_of relation world
      · exact telling.endAborted aborted server
  · exact refl_of relation world

end

/-! ## Writing -/

/-- The relation is also kept where output arrives and where the session begins to wait. -/
structure Hearing (relation : World → World → Prop) (nested : Nested) : Prop
    extends Informing relation nested where
  receives : ∀ server data, Within relation (nested.receive server data)
  opens : Awaits relation .handshake

variable {nested : Nested} (hearing : Hearing relation nested)

include hearing

theorem Hearing.deliver (server : Nat) (message : Json) (data : Bytes) :
    Within relation (deliver nested server message data) := by
  refine Within.bind within_get fun world => ?_
  split
  · exact within_pure _
  · refine Within.bind (fun world => Broad.serving world _) fun _ => ?_
    split
    · exact Within.bind (within_reticent trivial) fun _ => within_pure _
    · refine Within.bind (within_reticent trivial) fun _ => ?_
      refine Within.bind (fun world => Broad.serving world _) fun _ => ?_
      refine Within.bind (Within.forM fun data _ => hearing.receives server data) fun _ => ?_
      exact within_pure _

theorem Hearing.writeMessage (message : Json) (data : Bytes) :
    Within relation (writeMessage nested message data) := by
  refine Within.bind within_getSession fun session => ?_
  split
  · exact within_pure _
  · refine Within.bind (look_within _) fun running => ?_
    split
    · refine Within.bind (hearing.deliver _ _ _) fun refusal => ?_
      split
      · exact Within.bind (hearing.emitLog _) fun _ => requestAbort_within
      · exact record_broad _
    · exact within_pure _

theorem Hearing.speaking : Speaking relation nested := ⟨hearing.writeMessage, hearing.emitLog⟩

theorem Hearing.askToEnd (server : Nat) : Within relation (askToEnd nested server) :=
  askToEnd_within (look_within server) (setPhase_broad _)
    (sendRequest_within hearing.speaking _ _ (by simp)) (sendNotification_within hearing.speaking _ _)

omit hearing

/-! ## Stopping -/

/-- The relation is kept wherever a session begins or ends. -/
structure Keeping (relation : World → World → Prop) (nested : Nested) : Prop
    extends Hearing relation nested, Telling relation nested

omit [Broad relation] in
theorem Telling.keeping (telling : Telling relation nested) (hearing : Hearing relation nested) :
    Keeping relation nested := { telling, hearing with }

variable (keeping : Keeping relation nested)

include keeping

theorem Keeping.endSession (server : Nat) : Within relation (endSession nested server) := by
  refine Within.bind (within_renew (fun _ => rfl) (fun _ => .inr rfl) fun _ => List.Subset.refl _) fun _ => ?_
  refine Within.bind (fun world => keeping.ends world server) fun _ => ?_
  refine Within.bind (keeping.askToEnd _) fun graceful => ?_
  exact keeping.dismissal server graceful

theorem Keeping.stop (expected : Option Nat) : Within relation (stop nested expected) := by
  refine Within.bind within_getSession fun session => ?_
  split
  · exact within_pure _
  · split
    · exact within_pure _
    · exact keeping.endSession _

theorem Keeping.halting : Halting relation nested := ⟨keeping.speaking, keeping.stop⟩

/-! ## Starting -/

theorem Keeping.prepare (root : Text) : Within relation (prepare nested root) := by
  refine Within.bind awaitEnding_within fun _ => Within.bind ?_ fun _ => setPhase_broad _
  refine Within.bind
    (within_renew (fun _ => rfl) (fun _ => .inr rfl) fun _ => List.nil_subset _) fun _ => ?_
  exact Within.bind (within_reticent trivial) fun _ => keeping.unreadied

theorem Keeping.bringUp (command : Text) (arguments : List Text) (root : Option Text)
    (server : Nat) : Within relation (bringUp nested command arguments root server) := by
  refine Within.bind (record_broad _) fun _ => Within.bind (spawn_obliging _) fun failure => ?_
  split
  · refine Within.bind (keeping.emitLog _) fun _ => ?_
    exact Within.bind (keeping.stop _) fun _ => within_pure _
  · refine Within.bind (beginHandshake_within keeping.speaking keeping.opens _) fun _ => ?_
    refine Within.bind (stopIfAborted_within keeping.halting) fun _ => ?_
    exact Within.bind within_getSession fun _ => within_pure _

theorem Keeping.start (adopts : ∀ argv, Within relation (adoptServer argv)) (command : Text)
    (arguments : List Text) (root : Option Text) :
    Within relation (start nested command arguments root) := by
  rw [start_eq]
  refine Within.bind (keeping.stop _) fun _ => Within.bind (keeping.prepare _) fun _ => ?_
  exact Within.bind (adopts _) fun server => keeping.bringUp _ _ _ _

omit keeping

/-! ## Output of a server -/

include hearing in
theorem Hearing.finishHandshake (completion : Completion) :
    Within relation (finishHandshake nested completion) := by
  refine Within.bind (within_renew (fun _ => rfl) (fun _ => .inr rfl) fun _ => List.Subset.refl _) fun _ => ?_
  split
  · exact Within.bind (sendNotification_within hearing.speaking _ _) fun _ => hearing.readied
  · exact Within.bind (hearing.emitLog _) fun _ => requestAbort_within

/-- The world in which a message is handled that is the response to a request. -/
def World.handling (world : World) (server : Nat) (message : Json) (waiting : Registry Handler) :
    World :=
  { (world.noting (.handling server message)).noting (.logged (Log.messageIn message)) with
    session := { world.session with pending := waiting } }

theorem handled_broad (world : World) (server : Nat) (message : Json) : relation world
    ((world.noting (.handling server message)).noting (.logged (Log.messageIn message))) :=
  trans_of relation (Broad.noting world (.handling server message) trivial)
    (Broad.noting _ (.logged (Log.messageIn message)) trivial)

theorem handling_broad {world : World} (server : Nat) (message : Json) {key : Json}
    {handler : Handler} {before after : List (Json × Handler)}
    (split : world.session.pending.entries = before ++ (key, handler) :: after) :
    relation world (world.handling server message ⟨before ++ after⟩) := by
  have waiting : before ++ after ⊆ world.session.pending.entries := by
    rw [split]
    exact List.append_subset.mpr ⟨by simp, by simp⟩
  exact trans_of relation (handled_broad world server message)
    (Broad.renewing _ { world.session with pending := ⟨before ++ after⟩ } rfl (.inr rfl) waiting)

/--
The relation is also kept where somebody other than the session is given the response for which
it waits.
-/
structure Answering (relation : World → World → Prop) (nested : Nested) : Prop
    extends Hearing relation nested where
  answers : ∀ (world : World) server message handler before key after,
    world.session.server = some server → Message.classify message = .response →
    world.session.pending.entries = before ++ (key, handler) :: after →
    key.sameKey (message.member "id") → handler ≠ .handshake →
    Ensures (complete nested handler (Completion.ofResponse message))
      (world.handling server message ⟨before ++ after⟩) fun _ => relation world

variable (answering : Answering relation nested)

include answering

theorem Answering.resolve {world : World} {server : Nat} {message : Json}
    (served : world.session.server = some server)
    (response : Message.classify message = .response) :
    Ensures (Registry.resolve (complete nested) message)
      ((world.noting (.handling server message)).noting (.logged (Log.messageIn message)))
      fun _ => relation world := by
  have handled : relation world
      ((world.noting (.handling server message)).noting (.logged (Log.messageIn message))) :=
    handled_broad world server message
  simp only [Registry.resolve, ensures_bind, ensures_getPending, ensures_ofExcept, noting_session]
  rcases Registry.take_cases world.session.pending (message.member "id") with
    ⟨fault, -, refused⟩ | missed | ⟨before, after, key, handler, split, same, taken⟩
  · rw [refused]
    exact handled
  · rw [missed]
    exact (record_broad _).later handled
  · rw [taken]
    simp only [ensures_bind, ensures_setPending, contain, ensures_tryCatch]
    have completed : Ensures (complete nested handler (Completion.ofResponse message))
        (world.handling server message ⟨before ++ after⟩) fun _ => relation world := by
      by_cases own : handler = .handshake
      · subst own
        exact (answering.finishHandshake _).later (handling_broad server message split)
      · exact answering.answers world server message handler before key after served response
          split same own
    refine completed.mono fun ending _ moved => ?_
    cases ending with
    | ok value => exact moved
    | error fault => exact (record_broad _).later moved

theorem Answering.handleMessage {world : World} {server : Nat} {message : Json}
    (served : world.session.server = some server) :
    Ensures (handleMessage nested message) (world.noting (.handling server message))
      fun _ => relation world := by
  have handled : relation world
      ((world.noting (.handling server message)).noting (.logged (Log.messageIn message))) :=
    handled_broad world server message
  unfold LanguageSession.Client.handleMessage
  rw [ensures_bind]
  simp only [record, ensures_write, add_eq_noting]
  cases kind : Message.classify message with
  | response => exact Ensures.bind (answering.resolve served kind) fun _ _ moved => moved
  | request => exact (answerRequest_within answering.speaking message).later handled
  | notification =>
      dsimp only
      split
      · next event notifies =>
        have told : notified message = some event := by simp [notified, kind, notifies]
        exact (answering.tells event (notified_channel told)).later handled
      · exact handled
  | invalid => exact (record_broad _).later handled

theorem Answering.handleMessages (server : Nat) (messages : List Json) :
    Within relation (handleMessages nested server messages) := by
  refine fun world => ensures_messages (fun message middle moved _ served => ?_)
    (refl_of relation world)
  exact (answering.handleMessage served).mono fun _ _ later => trans_of relation moved later

theorem Answering.handleFeed_since {base world : World} {post : World → Prop} (server : Nat)
    (fed : Frame.Feed) (moved : relation base world)
    (idle : ∀ after, relation base after → post after)
    (stops : ∀ middle, relation base middle → Ensures (stopIfAborted nested) middle fun _ => post) :
    Ensures (handleFeed nested server fed) world fun _ => post := by
  refine ensures_fed idle (fun note _ _ moved => (record_broad note).later moved)
    (fun _ _ moved => (answering.emitLog _).later moved) (fun middle moved => ?_) moved
  rw [ensures_bind]
  refine ((answering.handleMessages server fed.messages).later moved).mono ?_
  rintro (fault | _) handled moved
  · exact idle handled moved
  · exact stops handled moved

theorem Answering.receive_since (server : Nat) (data : Bytes) {world : World} {post : World → Prop}
    (idle : ∀ after, relation (world.noting (.arrived server data)) after → post after)
    (stops : ∀ middle, relation (world.noting (.arrived server data)) middle →
      Ensures (stopIfAborted nested) middle fun _ => post) :
    Ensures (receive nested server data) world fun _ => post := by
  refine ensures_arrival (idle _ (refl_of relation _)) fun _ _ =>
    answering.handleFeed_since server _ ?_ idle stops
  exact Broad.renewing (world.noting (.arrived server data)) _ rfl (.inr rfl) (List.Subset.refl _)

theorem Answering.receive_arrived (telling : Telling relation nested) (server : Nat) (data : Bytes)
    (world : World) : Ensures (receive nested server data) world fun _ =>
      relation (world.noting (.arrived server data)) := by
  have keeping : Keeping relation nested := telling.keeping answering.toHearing
  exact answering.receive_since server data (fun _ => id)
    fun _ moved => (stopIfAborted_within keeping.halting).later moved

theorem Answering.receive (telling : Telling relation nested) (server : Nat) (data : Bytes) :
    Within relation (receive nested server data) := fun world =>
  (answering.receive_arrived telling server data world).mono fun _ _ later =>
    trans_of relation (Broad.noting world (.arrived server data) trivial) later

end

end Client

end LanguageSession
