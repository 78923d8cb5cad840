import Mathlib
import LanguageSession.Proofs.Client.Rest

/-!
# What a session does not look at

Nothing that a client does depends on its journal, and within a passive world nothing but
the reading of more output depends on what was read before.  Two worlds are alike when they
differ in this only, and the same can be seen of both from outside; every action takes alike
worlds to alike worlds and ends in both in the same way.
-/

namespace LanguageSession

namespace Client

open Act

/-! ## Alike worlds -/

/--
Entries of the log file, looks at a server and marks of what it has sent are not seen from
outside.
-/
def Seen : Entry → Bool
  | .logged _ => false
  | .looked _ _ => false
  | .arrived _ _ => false
  | .handling _ _ => false
  | _ => true

def World.seen (world : World) : List Entry := world.journal.entries.filter Seen

/-- The world with another journal and another rest of what was read. -/
def World.retold (world : World) (journal : Journal) (buffer : Bytes) : World :=
  { world with journal := journal, session := { world.session with buffer := buffer } }

/-- The worlds differ in the journal, and in what was read if that is of no account. -/
structure Alike (unread : Prop) (world world' : World) : Prop where
  parts : ∃ journal buffer, world' = world.retold journal buffer
  seen : world'.seen = world.seen
  buffer : unread ∨ world'.session.buffer = world.session.buffer
  passive : unread → Passive world

variable {unread : Prop} {world world' : World}

theorem Alike.refl (passive : unread → Passive world) : Alike unread world world where
  parts := ⟨world.journal, world.session.buffer, rfl⟩
  seen := rfl
  buffer := .inr rfl
  passive := passive

theorem seen_noting (world : World) (entry : Entry) :
    (world.noting entry).seen = world.seen ++ [entry].filter Seen :=
  List.filter_append ..

theorem Alike.noting (alike : Alike unread world world') (entry : Entry) :
    Alike unread (world.noting entry) (world'.noting entry) where
  parts := by
    obtain ⟨journal, buffer, rfl⟩ := alike.parts
    exact ⟨_, buffer, rfl⟩
  seen := by rw [seen_noting, seen_noting, alike.seen]
  buffer := alike.buffer
  passive chosen := ⟨(alike.passive chosen).callbacks, (alike.passive chosen).servers,
    (alike.passive chosen).factory⟩

theorem Alike.noting_left {entry : Entry} (alike : Alike unread world world')
    (unseen : Seen entry = false) : Alike unread (world.noting entry) world' where
  parts := by
    obtain ⟨journal, buffer, rfl⟩ := alike.parts
    exact ⟨journal, buffer, rfl⟩
  seen := by simp [seen_noting, unseen, alike.seen]
  buffer := alike.buffer
  passive chosen := ⟨(alike.passive chosen).callbacks, (alike.passive chosen).servers,
    (alike.passive chosen).factory⟩

theorem Alike.noting_right {entry : Entry} (alike : Alike unread world world')
    (unseen : Seen entry = false) : Alike unread world (world'.noting entry) where
  parts := by
    obtain ⟨journal, buffer, rfl⟩ := alike.parts
    exact ⟨_, buffer, rfl⟩
  seen := by simp [seen_noting, unseen, alike.seen]
  buffer := alike.buffer
  passive := alike.passive

/-- A change that looks neither at the journal nor at what was read. -/
theorem Alike.changing (change : World → World) (alike : Alike unread world world')
    (blind : ∀ world journal buffer,
      change (world.retold journal buffer) = (change world).retold journal buffer)
    (passive : unread → ∀ world, Passive world → Passive (change world)) :
    Alike unread (change world) (change world') := by
  have kept (world : World) :
      change world = (change world).retold world.journal world.session.buffer :=
    blind world world.journal world.session.buffer
  have journal (world : World) : (change world).journal = world.journal := by rw [kept]; rfl
  have buffer (world : World) : (change world).session.buffer = world.session.buffer := by
    rw [kept]
    rfl
  constructor
  · obtain ⟨journal, buffer, rfl⟩ := alike.parts
    exact ⟨journal, buffer, blind world journal buffer⟩
  · rw [World.seen, World.seen, journal, journal]
    exact alike.seen
  · rw [buffer, buffer]
    exact alike.buffer
  · exact fun chosen => passive chosen _ (alike.passive chosen)

/-! ## Blind actions -/

abbrev Blind (unread : Prop) {α : Type} (action : Act World α) : Prop :=
  Agrees (Alike unread) action

section

variable {α : Type}

theorem blind_get_passive {next : World → Act World α}
    (same : ∀ world journal buffer, next (world.retold journal buffer) = next world)
    (each : ∀ world, (unread → Passive world) → Blind unread (next world)) :
    Blind unread (getThe World >>= next) := by
  intro world world' alike
  obtain ⟨journal, buffer, rfl⟩ := alike.parts
  change Matches (Alike unread) (next world) (next (world.retold journal buffer)) _ _
  rw [same]
  exact each world alike.passive _ _ alike

theorem blind_get {next : World → Act World α}
    (same : ∀ world journal buffer, next (world.retold journal buffer) = next world)
    (each : ∀ world, Blind unread (next world)) : Blind unread (getThe World >>= next) :=
  blind_get_passive same fun world _ => each world

theorem blind_getSession {next : Session → Act World α}
    (same : ∀ (session : Session) buffer, next { session with buffer := buffer } = next session)
    (each : ∀ session, Blind unread (next session)) :
    Blind unread (getThe Session >>= next) := by
  intro world world' alike
  obtain ⟨journal, buffer, rfl⟩ := alike.parts
  suffices both : Matches (Alike unread) (next world.session)
      (next { world.session with buffer := buffer }) world (world.retold journal buffer) from both
  rw [same world.session buffer]
  exact each world.session _ _ alike

theorem blind_getPart {part : Type} [MonadStateOf part (Act World)] {read : World → part}
    (reads : ∀ world, result (getThe part) world = (.ok (read world), world))
    (same : ∀ world journal buffer, read (world.retold journal buffer) = read world) :
    Blind unread (getThe part : Act World part) := by
  intro world world' alike
  obtain ⟨journal, buffer, rfl⟩ := alike.parts
  simp only [Matches, Ensures, reads, same]
  exact ⟨trivial, alike⟩

theorem blind_getPending : Blind unread (getThe (Registry Handler) : Act World _) :=
  blind_getPart (fun _ => rfl) fun _ _ _ => rfl

theorem blind_getSubscriptions : Blind unread (getThe (Subscriptions Listener) : Act World _) :=
  blind_getPart (fun _ => rfl) fun _ _ _ => rfl

theorem blind_getCast : Blind unread (getThe (Cast Step) : Act World _) :=
  blind_getPart (fun _ => rfl) fun _ _ _ => rfl

theorem blind_modify {change : World → World}
    (blind : ∀ world journal buffer,
      change (world.retold journal buffer) = (change world).retold journal buffer)
    (passive : unread → ∀ world, Passive world → Passive (change world)) :
    Blind unread (modifyThe World change) :=
  fun _ _ alike => ⟨rfl, alike.changing _ blind passive⟩

theorem blind_modifySession {change : Session → Session}
    (blind : ∀ (session : Session) buffer,
      change { session with buffer := buffer } = { change session with buffer := buffer }) :
    Blind unread (modifyThe Session change : Act World Unit) := by
  intro world world' alike
  refine ⟨rfl, alike.changing (fun world =>
    { world with session := change world.session }) ?_ ?_⟩
  · intro world journal buffer
    exact congrArg (fun session => { world with journal := journal, session := session })
      (blind world.session buffer)
  · exact fun _ _ passive => passive.kept

theorem blind_emptySession {change : Session → Session}
    (blind : ∀ (session : Session) buffer, change { session with buffer := buffer } = change session) :
    Blind unread (modifyThe Session change : Act World Unit) := by
  intro world world' alike
  obtain ⟨journal, buffer, rfl⟩ := alike.parts
  refine ⟨rfl, ⟨journal, (change world.session).buffer, ?_⟩, alike.seen, .inr ?_, ?_⟩
  · exact congrArg (fun session => { world with journal := journal, session := session })
      (blind world.session buffer)
  · exact congrArg Session.buffer (blind world.session buffer)
  · exact fun chosen => ⟨(alike.passive chosen).callbacks, (alike.passive chosen).servers,
      (alike.passive chosen).factory⟩

theorem blind_write (entry : Entry) : Blind unread (write entry : Act World Unit) :=
  fun _ _ alike => ⟨rfl, alike.noting entry⟩

theorem blind_record (note : Log.Record) : Blind unread (record note : Act World Unit) :=
  blind_write _

theorem blind_modifyServer (server : Nat) {change : Server → Server}
    (same : ∀ process, (change process).conduct = process.conduct) :
    Blind unread (modifyThe World (World.modifyServer server change)) := by
  refine blind_modify (fun _ _ _ => rfl) fun _ world passive => passive.modifying server ?_
  intro process silent
  rwa [same]

/-! ## Server processes -/

theorem look_blind (server : Nat) : Blind unread (look server) :=
  Agrees.bind (blind_modifyServer server fun process => (look_weakens process).1) fun _ =>
    blind_get (fun _ _ _ => rfl) fun _ => Agrees.bind (blind_write _) fun _ => agrees_pure _

theorem wait_blind (server : Nat) (timeout : Duration) : Blind unread (wait server timeout) :=
  Agrees.bind (blind_write _) fun _ =>
    blind_modifyServer server fun process => (settle_weakens process).1

theorem kill_blind (server : Nat) : Blind unread (kill server) :=
  Agrees.bind (blind_write _) fun _ =>
    blind_modifyServer server fun process => (kill_weakens process).1

theorem close_blind (server : Nat) : Blind unread (close server) := by
  refine Agrees.bind (blind_write _) fun _ => blind_get (fun _ _ _ => rfl) fun world => ?_
  split
  · exact agrees_throw _
  · exact agrees_pure _

theorem dismiss_blind (server : Nat) (graceful : Bool) : Blind unread (dismiss server graceful) := by
  refine blind_get (fun _ _ _ => rfl) fun world => ?_
  have forced : Blind unread (look server >>= fun running =>
      if running = true then do
        kill server
        wait server world.settings.killGrace
        close server
      else close server) := by
    refine Agrees.bind (look_blind _) fun running => ?_
    split
    · refine Agrees.bind (kill_blind _) fun _ => ?_
      exact Agrees.bind (wait_blind _ _) fun _ => close_blind _
    · exact close_blind _
  dsimp only
  split
  · exact Agrees.bind (wait_blind _ _) fun _ => forced
  · exact forced

/-! ## Events and state -/

structure Unaware (unread : Prop) (nested : Nested) : Prop where
  invokes : ∀ who arguments, Blind unread (invoke Step.operation nested.perform who arguments)
  delivers : ∀ server message data, Blind unread (deliver nested server message data)

variable {nested : Nested}

theorem listenerLabel_blind (listener : Listener) : Blind unread (listenerLabel listener) := by
  unfold listenerLabel
  cases listener with
  | callback who => exact Agrees.bind blind_getCast fun _ => agrees_pure _
  | echo => exact agrees_pure _
  | collect => exact agrees_pure _

theorem tell_blind (unaware : Unaware unread nested) (listener : Listener) (event : Event) :
    Blind unread (tell nested listener event) := by
  cases listener with
  | callback who => exact unaware.invokes who _
  | echo =>
      cases event with
      | log text => exact blind_write _
      | _ => exact agrees_pure _
  | collect =>
      cases event with
      | diagnostics uri items =>
          refine blind_modify (fun _ _ _ => rfl) fun _ _ passive => ?_
          exact passive.kept
      | _ => exact agrees_pure _

theorem emit_blind (unaware : Unaware unread nested) (event : Event) :
    Blind unread (emit nested event) := by
  refine Agrees.bind blind_getSubscriptions fun subscriptions => ?_
  refine Agrees.bind (blind_write _) fun _ => Agrees.forM fun listener _ => ?_
  refine Agrees.tryCatch (tell_blind unaware listener event) fun _ => ?_
  exact Agrees.bind (listenerLabel_blind listener) fun _ => blind_record _

theorem emitLog_blind (unaware : Unaware unread nested) (text : Text) :
    Blind unread (emitLog nested text) :=
  Agrees.bind (blind_record _) fun _ => emit_blind unaware _

theorem setPhase_blind (phase : Phase) : Blind unread (setPhase phase) := by
  refine blind_getSession (fun _ _ => rfl) fun session => ?_
  split
  · exact agrees_pure _
  · exact Agrees.bind (blind_record _) fun _ => blind_modifySession fun _ _ => rfl

theorem setReady_blind (unaware : Unaware unread nested) (ready : Bool) :
    Blind unread (setReady nested ready) := by
  refine blind_getSession (fun _ _ => rfl) fun session => ?_
  split
  · exact agrees_pure _
  · refine Agrees.bind (blind_modifySession fun _ _ => rfl) fun _ => ?_
    dsimp only
    split
    · exact Agrees.bind (setPhase_blind _) fun _ => emit_blind unaware _
    · exact emit_blind unaware _

theorem requestAbort_blind : Blind unread requestAbort := blind_modifySession fun _ _ => rfl

/-! ## Writing -/

theorem writeMessage_blind (unaware : Unaware unread nested) (message : Json) (data : Bytes) :
    Blind unread (writeMessage nested message data) := by
  refine blind_getSession (fun _ _ => rfl) fun session => ?_
  split
  · exact agrees_pure _
  · next server _ =>
    refine Agrees.bind (look_blind server) fun running => ?_
    split
    · refine Agrees.bind (unaware.delivers server message data) fun failure => ?_
      cases failure with
      | some reason => exact Agrees.bind (emitLog_blind unaware _) fun _ => requestAbort_blind
      | none => exact blind_record _
    · exact agrees_pure _

theorem blind_setPending (pending : Registry Handler) :
    Blind unread (set pending : Act World PUnit) := by
  intro world world' alike
  refine ⟨rfl, alike.changing (fun world =>
    { world with session := { world.session with pending := pending } }) (fun _ _ _ => rfl) ?_⟩
  exact fun _ _ passive => passive.kept

theorem await_blind (id : Nat) (handler : Handler) : Blind unread (await id handler) := by
  refine Agrees.bind blind_getPending fun pending => ?_
  refine Agrees.bind (agrees_ofExcept _) fun pending => ?_
  refine Agrees.bind (blind_setPending pending) fun _ => ?_
  cases handler with
  | callback who => exact blind_getSession (fun _ _ => rfl) fun session => blind_write _
  | _ => exact agrees_pure _

theorem sendRequest_blind (unaware : Unaware unread nested) (method : Text) (params : Json)
    (handler : Option Handler) : Blind unread (sendRequest nested method params handler) := by
  refine blind_getSession (fun _ _ => rfl) fun session => ?_
  dsimp only
  split
  · exact agrees_pure _
  · refine Agrees.bind (blind_modifySession fun _ _ => rfl) fun _ => ?_
    split
    · exact Agrees.bind (writeMessage_blind unaware _ _) fun _ => agrees_pure _
    · refine Agrees.bind (await_blind _ _) fun _ => ?_
      exact Agrees.bind (writeMessage_blind unaware _ _) fun _ => agrees_pure _

theorem sendNotification_blind (unaware : Unaware unread nested) (method : Text) (params : Json) :
    Blind unread (sendNotification nested method params) := by
  unfold sendNotification
  dsimp only
  split
  · exact agrees_pure _
  · exact Agrees.bind (writeMessage_blind unaware _ _) fun _ => agrees_pure _

/-! ## Stopping -/

theorem forget_blind (unaware : Unaware unread nested) (server : Nat) :
    Blind unread (forget nested server) := by
  refine blind_get (fun _ _ _ => rfl) fun world => ?_
  refine Agrees.bind (blind_record _) fun _ => ?_
  refine Agrees.bind (blind_emptySession fun _ _ => rfl) fun _ => ?_
  refine Agrees.bind (blind_write _) fun _ => Agrees.bind (blind_write _) fun _ => ?_
  refine Agrees.bind (setReady_blind unaware _) fun _ => ?_
  exact Agrees.bind (setPhase_blind _) fun _ => blind_modifySession fun _ _ => rfl

theorem askToEnd_blind (unaware : Unaware unread nested) (server : Nat) :
    Blind unread (askToEnd nested server) := by
  have asks (session : Session) (running : Bool) : Blind unread
      (if (running && !session.abortRequested) = true then do
        setPhase .shuttingDown
        let _ ← sendRequest nested "shutdown" .null none
        let _ ← sendNotification nested "exit" .null
        return true
      else return false) := by
    split
    · refine Agrees.bind (setPhase_blind _) fun _ => ?_
      refine Agrees.bind (sendRequest_blind unaware _ _ _) fun _ => ?_
      exact Agrees.bind (sendNotification_blind unaware _ _) fun _ => agrees_pure _
    · exact agrees_pure _
  refine blind_getSession (fun _ _ => rfl) fun session => ?_
  dsimp only
  split
  · exact Agrees.bind (look_blind _) fun running => asks session running
  · exact Agrees.bind (agrees_pure _) fun running => asks session running

theorem endSession_blind (unaware : Unaware unread nested) (server : Nat) :
    Blind unread (endSession nested server) := by
  refine Agrees.bind (blind_modifySession fun _ _ => rfl) fun _ => ?_
  refine Agrees.bind (blind_write _) fun _ => ?_
  refine Agrees.bind (askToEnd_blind unaware _) fun graceful => ?_
  refine Agrees.bind ?_ fun _ => forget_blind unaware _
  refine Agrees.tryCatch (dismiss_blind _ _) fun fault => ?_
  exact Agrees.bind (forget_blind unaware _) fun _ => agrees_throw fault

theorem stop_blind (unaware : Unaware unread nested) (expected : Option Nat) :
    Blind unread (stop nested expected) := by
  refine blind_getSession (fun _ _ => rfl) fun session => ?_
  split
  · exact agrees_pure _
  · split
    · exact agrees_pure _
    · exact endSession_blind unaware _

theorem stopIfAborted_blind (unaware : Unaware unread nested) :
    Blind unread (stopIfAborted nested) := by
  refine blind_getSession (fun _ _ => rfl) fun session => ?_
  split
  · split
    · exact agrees_pure _
    · exact stop_blind unaware _
  · exact agrees_pure _

/-! ## Output of a server -/

theorem finishHandshake_blind (unaware : Unaware unread nested) (completion : Completion) :
    Blind unread (finishHandshake nested completion) := by
  refine Agrees.bind (blind_modifySession fun _ _ => rfl) fun _ => ?_
  split
  · refine Agrees.bind (sendNotification_blind unaware _ _) fun _ => ?_
    exact setReady_blind unaware _
  · exact Agrees.bind (emitLog_blind unaware _) fun _ => requestAbort_blind

theorem complete_blind (unaware : Unaware unread nested) (handler : Handler)
    (completion : Completion) : Blind unread (complete nested handler completion) := by
  cases handler with
  | handshake => exact finishHandshake_blind unaware completion
  | mailbox slot =>
      refine blind_modify (fun _ _ _ => rfl) fun _ _ passive => ?_
      exact passive.kept
  | callback who => exact unaware.invokes who _

theorem resolve_blind (unaware : Unaware unread nested) (message : Json) :
    Blind unread (Registry.resolve (complete nested) message) := by
  refine Agrees.bind blind_getPending fun pending => ?_
  refine Agrees.bind (agrees_ofExcept _) fun ⟨found, rest⟩ => ?_
  cases found with
  | none => exact Agrees.bind (blind_record _) fun _ => agrees_pure _
  | some handler =>
      refine Agrees.bind (blind_setPending rest) fun _ => ?_
      refine Agrees.bind ?_ fun _ => agrees_pure _
      exact Agrees.tryCatch (complete_blind unaware _ _) fun _ => blind_record _

theorem answerRequest_blind (unaware : Unaware unread nested) (message : Json) :
    Blind unread (answerRequest nested message) := by
  have sends (reply : Answer.Reply) :
      Blind unread (sendReply nested message reply.envelope) := by
    unfold sendReply
    split
    · exact blind_record _
    · exact writeMessage_blind unaware _ _
  refine blind_getSession (fun _ _ => rfl) fun session => ?_
  refine Agrees.bind (agrees_ofExcept _) fun reply => ?_
  dsimp only
  split
  · exact Agrees.bind (blind_record _) fun _ => sends reply
  · exact sends reply

theorem handleMessage_blind (unaware : Unaware unread nested) (message : Json) :
    Blind unread (handleMessage nested message) := by
  refine Agrees.bind (blind_record _) fun _ => ?_
  split
  · exact Agrees.bind (resolve_blind unaware message) fun _ => agrees_pure _
  · exact answerRequest_blind unaware message
  · split
    · exact emit_blind unaware _
    · exact agrees_pure _
  · exact blind_record _

theorem handleMessages_blind (unaware : Unaware unread nested) (server : Nat)
    (messages : List Json) : Blind unread (handleMessages nested server messages) := by
  induction messages with
  | nil => exact agrees_pure _
  | cons message messages ih =>
      refine blind_getSession (fun _ _ => rfl) fun session => ?_
      split
      · refine Agrees.bind (blind_write _) fun _ => ?_
        exact Agrees.bind (handleMessage_blind unaware message) fun _ => ih
      · exact agrees_pure _

/-- Messages can be handled in two portions. -/
theorem handleMessages_append (server : Nat) (messages later : List Json) :
    handleMessages nested server (messages ++ later) =
      handleMessages nested server messages >>= fun _ => handleMessages nested server later := by
  induction messages with
  | nil => rfl
  | cons message messages ih =>
      apply ext_of_ensures
      intro world post
      rw [List.cons_append, handleMessages, handleMessages, ih]
      simp only [ensures_bind, ensures_getSession]
      split
      · simp only [ensures_bind, ensures_write]
        refine fun holds => holds.mono ?_
        rintro (fault | value) middle after
        · exact after
        · exact after
      · next halts =>
        -- The later messages are not handled either, in the same world.
        cases later with
        | nil => exact id
        | cons next later =>
            simp only [ensures_pure, handleMessages, ensures_bind, ensures_getSession, halts,
              Bool.false_eq_true, if_false]
            exact id

theorem handleFeed_blind (unaware : Unaware unread nested) (server : Nat) (fed : Frame.Feed) :
    Blind unread (handleFeed nested server fed) := by
  have handles : Blind unread (do
      handleMessages nested server fed.messages
      stopIfAborted nested : Act World Unit) :=
    Agrees.bind (handleMessages_blind unaware _ _) fun _ => stopIfAborted_blind unaware
  refine Agrees.bind (Agrees.forM fun note _ => blind_record note) fun _ => ?_
  split
  · exact agrees_throw _
  · split
    · exact Agrees.bind (emitLog_blind unaware _) fun _ => handles
    · exact handles

end

end Client

end LanguageSession
