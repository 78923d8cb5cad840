import Mathlib
import LanguageSession.Proofs.Client.Unbegun
import LanguageSession.Proofs.Client.Undertakings

/-!
# Failures that do not get out

A message without a form, a process that does not start and a message that is not taken are
dealt with where they arise: they end up in records, in events and in the end of the session.
Nothing that a client does ends with such a failure, unless a callback brings one in.
-/

namespace LanguageSession

/-- A message has no form, or a process does not start or does not take a message. -/
def Fault.isTransport : Fault → Bool
  | .unencodable _ => true
  | .notStarted _ => true
  | .notWritten _ => true
  | _ => false

namespace Client

open Act

/-! ## Actions that keep such failures in -/

/-- This is not the end with a failure of the transport. -/
def Contained {α : Type} : Except Fault α → Prop
  | .ok _ => True
  | .error fault => fault.isTransport = false

/-- Where all callbacks are of a kind they stay so, and no failure of the transport gets out. -/
def Sealed (kind : Step → Prop) {α : Type} (action : Act World α) : Prop :=
  ∀ world, Scripted kind world → Ensures action world fun ending world' =>
    Scripted kind world' ∧ Contained ending

section

variable {kind : Step → Prop} {α β : Type}

theorem sealed_pure (value : α) : Sealed kind (pure value) := fun _ scripted => ⟨scripted, trivial⟩

theorem sealed_throw {fault : Fault} (other : fault.isTransport = false) :
    Sealed kind (throw fault : Act World α) := fun _ scripted => ⟨scripted, other⟩

theorem sealed_ofExcept {value : Except Fault α} (contained : Contained value) :
    Sealed kind (MonadExcept.ofExcept value : Act World α) := by
  cases value with
  | ok value => exact sealed_pure value
  | error fault => exact sealed_throw contained

theorem sealed_getWorld : Sealed kind (getThe World) := fun _ scripted => ⟨scripted, trivial⟩

theorem sealed_getSession : Sealed kind (getThe Session : Act World Session) :=
  fun _ scripted => ⟨scripted, trivial⟩

theorem sealed_write (entry : Entry) : Sealed kind (write entry : Act World Unit) :=
  fun _ scripted => ⟨scripted, trivial⟩

theorem sealed_record (note : Log.Record) : Sealed kind (record note : Act World Unit) :=
  sealed_write _

theorem sealed_modifySession (change : Session → Session) :
    Sealed kind (modifyThe Session change : Act World Unit) :=
  fun _ scripted => ⟨scripted, trivial⟩

theorem sealed_modifyServer (server : Nat) (change : Server → Server) :
    Sealed kind (modifyThe World (World.modifyServer server change) : Act World Unit) :=
  fun _ scripted => ⟨scripted, trivial⟩

theorem Sealed.bind {action : Act World α} {next : α → Act World β} (first : Sealed kind action)
    (second : ∀ value, Sealed kind (next value)) : Sealed kind (action >>= next) := by
  intro world scripted
  rw [ensures_bind]
  refine (first world scripted).mono fun ending middle kept => ?_
  cases ending with
  | ok value => exact second value middle kept.1
  | error fault => exact kept

theorem Sealed.tryCatch {action : Act World α} {rescue : Fault → Act World α}
    (first : Sealed kind action)
    (second : ∀ fault, fault.isTransport = false → Sealed kind (rescue fault)) :
    Sealed kind (tryCatch action rescue) := by
  intro world scripted
  rw [ensures_tryCatch]
  refine (first world scripted).mono fun ending middle kept => ?_
  cases ending with
  | ok value => exact kept
  | error fault => exact second fault kept.2 middle kept.1

theorem Sealed.contain {action report : Act World Unit} (first : Sealed kind action)
    (second : Sealed kind report) : Sealed kind (contain action report) :=
  first.tryCatch fun _ _ => second

theorem Sealed.forM {action : β → Act World PUnit} {list : List β}
    (each : ∀ item ∈ list, Sealed kind (action item)) : Sealed kind (list.forM action) := by
  induction list with
  | nil => exact sealed_pure _
  | cons item rest ih =>
      refine Sealed.bind (each item List.mem_cons_self) fun _ => ?_
      exact ih fun other member => each other (List.mem_cons_of_mem _ member)

theorem contained_time (value : Except TimeError α) : Contained (value.mapError Fault.time) := by
  cases value with
  | ok _ => trivial
  | error _ => rfl

/-! ## Callbacks -/

variable {perform : Step → Act World Json} (performs : ∀ step, kind step → Sealed kind (perform step))

include performs

theorem proceed_sealed (who : Nat) {callback : Callback Step} (arguments : List Json)
    (inner : ∀ step ∈ callback.script, kind step) :
    Sealed kind (proceed Step.operation perform who callback arguments) := by
  have raise : Sealed kind
      (if callback.raises then throw (.raised "boom") else pure () : Act World Unit) := by
    split
    · exact sealed_throw rfl
    · exact sealed_pure _
  have runs : Sealed kind (runScript Step.operation perform callback.script) := by
    refine Sealed.forM fun step member => Sealed.bind (sealed_write _) fun _ => ?_
    exact Sealed.bind (performs step (inner step member)) fun _ => sealed_write _
  unfold LanguageSession.proceed
  split
  · refine Sealed.bind (fun _ scripted => ⟨scripted, trivial⟩) fun cast => ?_
    dsimp only
    split
    · exact raise
    · exact Sealed.bind (fun _ scripted => ⟨scripted, trivial⟩) fun _ => runs.bind fun _ => raise
  · exact sealed_pure _

theorem invoke_sealed (who : Nat) (arguments : List Json) :
    Sealed kind (invoke Step.operation perform who arguments) := by
  intro world scripted
  cases known : world.cast.callbacks[who]? with
  | none =>
      simp only [invoke, ensures_bind, ensures_getCast, known]
      exact ⟨scripted, trivial⟩
  | some callback =>
      rw [ensures_invoke known]
      have inner := scripted callback (List.mem_of_getElem? known)
      exact proceed_sealed performs who arguments inner _ scripted

end

/-! ## What listeners are told -/

/-- The calls that may be made while an operation is running keep such failures in. -/
structure SealedCalls (kind : Step → Prop) (nested : Nested) : Prop where
  performs : ∀ step, kind step → Sealed kind (nested.perform step)
  receives : ∀ server data, Sealed kind (nested.receive server data)

section

variable {kind : Step → Prop} {nested : Nested} (calls : SealedCalls kind nested)

include calls

theorem tell_sealed (listener : Listener) (event : Event) :
    Sealed kind (tell nested listener event) := by
  cases listener with
  | callback who => exact invoke_sealed calls.performs who _
  | echo =>
      cases event with
      | log text => exact sealed_write _
      | _ => exact sealed_pure _
  | collect =>
      cases event with
      | diagnostics uri items => exact fun _ scripted => ⟨scripted, trivial⟩
      | _ => exact sealed_pure _

theorem emit_sealed (event : Event) : Sealed kind (emit nested event) := by
  have reports (listener : Listener) : Sealed kind
      (do record (Log.listenerFailed (← listenerLabel listener)) : Act World Unit) := by
    cases listener <;> exact fun _ scripted => ⟨scripted, trivial⟩
  refine Sealed.bind (fun _ scripted => ⟨scripted, trivial⟩) fun subscriptions => ?_
  refine Sealed.bind (sealed_write _) fun _ => Sealed.forM fun listener _ => ?_
  exact (tell_sealed calls listener event).contain (reports listener)

theorem emitLog_sealed (text : Text) : Sealed kind (emitLog nested text) :=
  Sealed.bind (sealed_record _) fun _ => emit_sealed calls _

omit calls in
theorem setPhase_sealed (phase : Phase) : Sealed kind (setPhase phase) := by
  refine Sealed.bind sealed_getSession fun session => ?_
  split
  · exact sealed_pure _
  · exact Sealed.bind (sealed_record _) fun _ => sealed_modifySession _

theorem setReady_sealed (ready : Bool) : Sealed kind (setReady nested ready) := by
  refine Sealed.bind sealed_getSession fun session => ?_
  split
  · exact sealed_pure _
  · refine Sealed.bind (sealed_modifySession _) fun _ => ?_
    split
    · exact Sealed.bind (setPhase_sealed _) fun _ => emit_sealed calls _
    · exact emit_sealed calls _

omit calls in
theorem requestAbort_sealed : Sealed kind requestAbort := sealed_modifySession _

/-! ## Processes -/

omit calls in
theorem look_sealed (server : Nat) : Sealed kind (look server) :=
  fun _ scripted => ⟨scripted, trivial⟩

omit calls in
theorem spawn_sealed (server : Nat) : Sealed kind (spawn server) := by
  refine Sealed.bind sealed_getWorld fun world => ?_
  split
  · exact sealed_pure _
  · refine Sealed.bind (sealed_write _) fun _ => ?_
    split
    · exact sealed_pure _
    · exact Sealed.bind (sealed_modifyServer _ _) fun _ => sealed_pure _

omit calls in
theorem close_sealed (server : Nat) : Sealed kind (close server) := by
  refine Sealed.bind (sealed_write _) fun _ => Sealed.bind sealed_getWorld fun world => ?_
  split
  · exact sealed_throw rfl
  · exact sealed_pure _

omit calls in
theorem wait_sealed (server : Nat) (timeout : Duration) : Sealed kind (wait server timeout) :=
  Sealed.bind (sealed_write _) fun _ => sealed_modifyServer _ _

omit calls in
theorem dismiss_sealed (server : Nat) (graceful : Bool) : Sealed kind (dismiss server graceful) := by
  have forced (world : World) : Sealed kind (look server >>= fun running =>
      if running = true then do
        kill server
        wait server world.settings.killGrace
        close server
      else close server) := by
    refine Sealed.bind (look_sealed _) fun running => ?_
    split
    · refine Sealed.bind (Sealed.bind (sealed_write _) fun _ => sealed_modifyServer _ _) fun _ => ?_
      exact Sealed.bind (wait_sealed _ _) fun _ => close_sealed _
    · exact close_sealed _
  refine Sealed.bind sealed_getWorld fun world => ?_
  dsimp only
  split
  · exact Sealed.bind (wait_sealed _ _) fun _ => forced world
  · exact forced world

/-! ## Writing -/

theorem deliver_sealed (server : Nat) (message : Json) (data : Bytes) :
    Sealed kind (deliver nested server message data) := by
  refine Sealed.bind sealed_getWorld fun world => ?_
  split
  · exact sealed_pure _
  · refine Sealed.bind (sealed_modifyServer _ _) fun _ => ?_
    split
    · exact Sealed.bind (sealed_write _) fun _ => sealed_pure _
    · refine Sealed.bind (sealed_write _) fun _ => Sealed.bind (sealed_modifyServer _ _) fun _ => ?_
      refine Sealed.bind (Sealed.forM fun data _ => calls.receives server data) fun _ => ?_
      exact sealed_pure _

/-- A message that is not taken is told of, and asks for the end of the session. -/
theorem writeMessage_sealed (message : Json) (data : Bytes) :
    Sealed kind (writeMessage nested message data) := by
  refine Sealed.bind sealed_getSession fun session => ?_
  split
  · exact sealed_pure _
  · refine Sealed.bind (look_sealed _) fun running => ?_
    split
    · refine Sealed.bind (deliver_sealed calls _ _ _) fun refusal => ?_
      split
      · exact Sealed.bind (emitLog_sealed calls _) fun _ => requestAbort_sealed
      · exact sealed_record _
    · exact sealed_pure _

omit calls in
theorem await_sealed (id : Nat) (handler : Handler) : Sealed kind (await id handler) := by
  intro world scripted
  rw [ensures_await]
  cases handler <;> exact ⟨scripted, trivial⟩

theorem sendRequest_sealed (method : Text) (params : Json) (handler : Option Handler) :
    Sealed kind (sendRequest nested method params handler) := by
  refine Sealed.bind sealed_getSession fun session => ?_
  dsimp only
  split
  · exact sealed_pure _
  · refine Sealed.bind (sealed_modifySession _) fun _ => ?_
    split
    · exact Sealed.bind (writeMessage_sealed calls _ _) fun _ => sealed_pure _
    · refine Sealed.bind (await_sealed _ _) fun _ => ?_
      exact Sealed.bind (writeMessage_sealed calls _ _) fun _ => sealed_pure _

theorem sendNotification_sealed (method : Text) (params : Json) :
    Sealed kind (sendNotification nested method params) := by
  unfold sendNotification
  dsimp only
  split
  · exact sealed_pure _
  · exact Sealed.bind (writeMessage_sealed calls _ _) fun _ => sealed_pure _

/-! ## Stopping -/

theorem forget_sealed (server : Nat) : Sealed kind (forget nested server) := by
  refine Sealed.bind sealed_getWorld fun world => Sealed.bind (sealed_record _) fun _ => ?_
  refine Sealed.bind (sealed_modifySession _) fun _ => Sealed.bind (sealed_write _) fun _ => ?_
  refine Sealed.bind (sealed_write _) fun _ => Sealed.bind (setReady_sealed calls _) fun _ => ?_
  exact Sealed.bind (setPhase_sealed _) fun _ => sealed_modifySession _

theorem askToEnd_sealed (server : Nat) : Sealed kind (askToEnd nested server) := by
  have asks (session : Session) (running : Bool) : Sealed kind
      (if (running && !session.abortRequested) = true then do
        setPhase .shuttingDown
        let _ ← sendRequest nested "shutdown" .null none
        let _ ← sendNotification nested "exit" .null
        return true
      else return false) := by
    split
    · refine Sealed.bind (setPhase_sealed _) fun _ => ?_
      refine Sealed.bind (sendRequest_sealed calls _ _ _) fun _ => ?_
      exact Sealed.bind (sendNotification_sealed calls _ _) fun _ => sealed_pure _
    · exact sealed_pure _
  refine Sealed.bind sealed_getSession fun session => ?_
  split
  · exact Sealed.bind (look_sealed _) fun running => asks session running
  · exact Sealed.bind (sealed_pure _) fun running => asks session running

theorem endSession_sealed (server : Nat) : Sealed kind (endSession nested server) := by
  refine Sealed.bind (sealed_modifySession _) fun _ => Sealed.bind (sealed_write _) fun _ => ?_
  refine Sealed.bind (askToEnd_sealed calls _) fun graceful => ?_
  refine Sealed.bind (Sealed.tryCatch (dismiss_sealed _ _) fun fault other => ?_) fun _ =>
    forget_sealed calls _
  exact Sealed.bind (forget_sealed calls _) fun _ => sealed_throw other

theorem stop_sealed (expected : Option Nat) : Sealed kind (stop nested expected) := by
  refine Sealed.bind sealed_getSession fun session => ?_
  split
  · exact sealed_pure _
  · split
    · exact sealed_pure _
    · exact endSession_sealed calls _

theorem stopIfAborted_sealed : Sealed kind (stopIfAborted nested) := by
  refine Sealed.bind sealed_getSession fun session => ?_
  split
  · split
    · exact sealed_pure _
    · exact stop_sealed calls _
  · exact sealed_pure _

/-! ## Output of a server -/

theorem complete_sealed (handler : Handler) (completion : Completion) :
    Sealed kind (complete nested handler completion) := by
  cases handler with
  | handshake =>
      refine Sealed.bind (sealed_modifySession _) fun _ => ?_
      split
      · refine Sealed.bind (sendNotification_sealed calls _ _) fun _ => setReady_sealed calls _
      · exact Sealed.bind (emitLog_sealed calls _) fun _ => requestAbort_sealed
  | mailbox slot => exact fun _ scripted => ⟨scripted, trivial⟩
  | callback who => exact invoke_sealed calls.performs who _

theorem resolve_sealed (message : Json) :
    Sealed kind (Registry.resolve (complete nested) message) := by
  intro world scripted
  simp only [Registry.resolve, ensures_bind, ensures_getPending, ensures_ofExcept]
  rcases Registry.take_cases world.session.pending (message.member "id") with
    ⟨fault, unhashable, refused⟩ | missed | ⟨before, after, key, handler, split, same, taken⟩
  · rw [refused]
    refine ⟨scripted, ?_⟩
    unfold Json.checkKey at unhashable
    split at unhashable <;> cases unhashable <;> rfl
  · rw [missed]
    exact ⟨scripted, trivial⟩
  · rw [taken]
    have completed := Sealed.contain
      (complete_sealed calls handler (Completion.ofResponse message))
      (sealed_record (Log.handlerFailed (message.member "id")))
    exact Sealed.bind completed (fun _ => sealed_pure _) _ scripted

/-- An answer that cannot be encoded is dropped. -/
theorem answerRequest_sealed (message : Json) : Sealed kind (answerRequest nested message) := by
  have sends (envelope : Json) : Sealed kind (sendReply nested message envelope) := by
    unfold sendReply
    split
    · exact sealed_record _
    · exact writeMessage_sealed calls _ _
  have replies (root : Text) : Contained (Answer.reply message root) := by
    unfold Answer.reply
    split <;> trivial
  refine Sealed.bind sealed_getSession fun session => ?_
  refine Sealed.bind (sealed_ofExcept (replies _)) fun reply => ?_
  dsimp only
  cases reply.note with
  | none => exact sends _
  | some note => exact Sealed.bind (sealed_record _) fun _ => sends _

theorem handleMessage_sealed (message : Json) : Sealed kind (handleMessage nested message) := by
  refine Sealed.bind (sealed_record _) fun _ => ?_
  split
  · exact Sealed.bind (resolve_sealed calls _) fun _ => sealed_pure _
  · exact answerRequest_sealed calls _
  · split
    · exact emit_sealed calls _
    · exact sealed_pure _
  · exact sealed_record _

theorem handleMessages_sealed (server : Nat) (messages : List Json) :
    Sealed kind (handleMessages nested server messages) := by
  induction messages with
  | nil => exact sealed_pure _
  | cons message rest ih =>
      refine Sealed.bind sealed_getSession fun session => ?_
      split
      · refine Sealed.bind (sealed_write _) fun _ => ?_
        exact Sealed.bind (handleMessage_sealed calls _) fun _ => ih
      · exact sealed_pure _

theorem receive_sealed (server : Nat) (data : Bytes) :
    Sealed kind (receive nested server data) := by
  refine Sealed.bind (sealed_write _) fun _ => Sealed.bind sealed_getSession fun session => ?_
  dsimp only
  split
  · refine Sealed.bind (sealed_modifySession _) fun _ => ?_
    refine Sealed.bind (Sealed.forM fun note _ => sealed_record note) fun _ => ?_
    have goes_on : Sealed kind (do
        handleMessages nested server (Frame.feed session.buffer data).messages
        stopIfAborted nested) :=
      Sealed.bind (handleMessages_sealed calls _ _) fun _ => stopIfAborted_sealed calls
    split
    · next fault stopped =>
      refine sealed_throw ?_
      unfold Frame.feed at stopped
      dsimp only at stopped
      split at stopped <;> cases stopped
      rfl
    · split
      · exact Sealed.bind (emitLog_sealed calls _) fun _ => goes_on
      · exact goes_on
  · exact sealed_pure _

theorem receiveError_sealed (server : Nat) (text : Text) :
    Sealed kind (receiveError nested server text) := by
  refine Sealed.bind sealed_getSession fun session => ?_
  split
  · exact emitLog_sealed calls _
  · exact sealed_pure _

theorem serverEnded_sealed (server : Nat) (code : Option Int) :
    Sealed kind (serverEnded nested server code) := by
  refine Sealed.bind sealed_getSession fun session => ?_
  split
  · refine Sealed.bind (sealed_record _) fun _ => ?_
    exact Sealed.bind (emitLog_sealed calls _) fun _ => stop_sealed calls _
  · exact sealed_pure _

/-! ## Calls of the user -/

theorem start_sealed (command : Text) (arguments : List Text) (root : Option Text) :
    Sealed kind (start nested command arguments root) := by
  have awaits : Sealed kind awaitEnding := by
    refine Sealed.bind sealed_getWorld fun world => ?_
    refine Sealed.bind (sealed_ofExcept (contained_time _)) fun time => ?_
    split
    · exact sealed_ofExcept (contained_time _)
    · exact sealed_pure _
  have prepares : Sealed kind (prepare nested (root.getD [])) := by
    refine Sealed.bind awaits fun _ => Sealed.bind ?_ fun _ => setPhase_sealed _
    refine Sealed.bind (sealed_modifySession _) fun _ => Sealed.bind (sealed_write _) fun _ => ?_
    exact setReady_sealed calls _
  have greets : Sealed kind (beginHandshake nested root) := by
    refine Sealed.bind (sendRequest_sealed calls _ _ _) fun sent => ?_
    split
    · exact sealed_modifySession _
    · exact Sealed.bind (emitLog_sealed calls _) fun _ => requestAbort_sealed
  rw [start_eq]
  refine Sealed.bind (stop_sealed calls _) fun _ => Sealed.bind prepares fun _ => ?_
  refine Sealed.bind (fun _ scripted => ⟨scripted, trivial⟩) fun server => ?_
  refine Sealed.bind (sealed_record _) fun _ => Sealed.bind (spawn_sealed _) fun failure => ?_
  split
  · refine Sealed.bind (emitLog_sealed calls _) fun _ => ?_
    exact Sealed.bind (stop_sealed calls _) fun _ => sealed_pure _
  · refine Sealed.bind greets fun _ => Sealed.bind (stopIfAborted_sealed calls) fun _ => ?_
    exact Sealed.bind sealed_getSession fun _ => sealed_pure _

omit calls in
theorem waitReady_sealed (timeout : Option Duration) : Sealed kind (waitReady timeout) := by
  refine Sealed.bind sealed_getSession fun session => ?_
  dsimp only
  split
  · split
    · refine Sealed.bind (sealed_ofExcept (contained_time _)) fun _ => ?_
      exact Sealed.bind (sealed_ofExcept (contained_time _)) fun _ => sealed_pure _
    · exact sealed_pure _
  · exact sealed_pure _

omit calls in
theorem unavailable_sealed : Sealed kind unavailable := by
  refine Sealed.bind sealed_getSession fun session => ?_
  dsimp only
  split
  · split
    · exact sealed_pure _
    · exact Sealed.bind (look_sealed _) fun running => sealed_pure _
  · exact sealed_pure _

theorem request_sealed (method : Text) (params : Json) (handler : Option Handler) :
    Sealed kind (request nested method params handler) := by
  have tries : Sealed kind (trySend nested method params handler) := by
    refine Sealed.bind unavailable_sealed fun refusal => ?_
    split
    · exact sealed_pure _
    · refine Sealed.bind (sendRequest_sealed calls _ _ _) fun sent => ?_
      split
      · exact sealed_pure _
      · exact Sealed.bind (sealed_record _) fun _ => sealed_pure _
  refine Sealed.bind tries fun sent => ?_
  split
  · dsimp only
    split
    · exact Sealed.bind (complete_sealed calls _ _) fun _ => sealed_pure _
    · exact sealed_pure _
  · exact Sealed.bind (stopIfAborted_sealed calls) fun _ => sealed_pure _

omit calls in
theorem collectMail_sealed (slot : Nat) (time : Duration) : Sealed kind (collectMail slot time) := by
  have looked : Sealed kind (lookForMail slot time) := by
    refine Sealed.bind (sealed_ofExcept (contained_time _)) fun _ => ?_
    refine Sealed.bind sealed_getWorld fun world => ?_
    split
    · exact sealed_pure _
    · exact Sealed.bind (sealed_ofExcept (contained_time _)) fun _ => sealed_pure _
  unfold collectMail
  dsimp only
  split
  · exact Sealed.bind (sealed_throw rfl) fun _ => looked
  · exact looked

theorem requestSync_sealed (method : Text) (params : Json) (timeout : Option Duration) :
    Sealed kind (requestSync nested method params timeout) := by
  refine Sealed.bind sealed_getWorld fun world => ?_
  refine Sealed.bind (fun _ scripted => ⟨scripted, trivial⟩) fun _ => ?_
  refine Sealed.bind (request_sealed calls _ _ _) fun _ => ?_
  refine Sealed.bind (collectMail_sealed _ _) fun found => ?_
  split
  · exact sealed_pure _
  · refine Sealed.bind (sealed_ofExcept (contained_time _)) fun tenths => ?_
    exact Sealed.bind (sealed_record _) fun _ => sealed_pure _

/-- A notice that cannot be encoded is dropped. -/
theorem giveNotice_sealed (notice : Notice) : Sealed kind (giveNotice nested notice) := by
  refine Sealed.bind sealed_getSession fun session => ?_
  split
  · have notifies : Sealed kind
        (notify nested notice.method (notice.params session.documents)) := by
      refine Sealed.bind (sendNotification_sealed calls _ _) fun sent => ?_
      split
      · exact Sealed.bind (sealed_record _) fun _ => sealed_pure _
      · exact sealed_pure _
    refine Sealed.bind notifies fun sent => ?_
    dsimp only
    split
    · exact Sealed.bind (sealed_modifySession _) fun _ => stopIfAborted_sealed calls
    · exact stopIfAborted_sealed calls
  · exact sealed_pure _

/-! ## Steps -/

omit calls in
theorem withServer_sealed {server : Option Nat} {action : Nat → Act World Unit}
    (acts : ∀ server, Sealed kind (action server)) :
    Sealed kind (withServer server action >>= fun _ => pure Json.null) := by
  refine Sealed.bind (Sealed.bind ?_ fun chosen => ?_) fun _ => sealed_pure _
  · exact Sealed.bind sealed_getWorld fun world => sealed_pure _
  · split
    · exact acts _
    · exact sealed_pure _

end

/-- Steps of this kind never let a server write a message that has no form. -/
def Encodable (kind : Step → Prop) : Prop :=
  ∀ server message, kind (.send server message) → ∃ data, Frame.encode message = .ok data

section

variable {kind : Step → Prop} (hereditary : Hereditary kind) (encodable : Encodable kind)

include hereditary encodable

theorem performWith_sealed {nested : Nested} (calls : SealedCalls kind nested) {step : Step}
    (of_kind : kind step) : Sealed kind (performWith nested step) := by
  have adds {callback : Callback Step} (inner : ∀ step ∈ callback.script, kind step) :
      Sealed kind (addCallback callback) :=
    fun _ scripted => ⟨scripted.adding inner, trivial⟩
  cases step with
  | start command arguments root =>
      exact Sealed.bind (start_sealed calls _ _ _) fun _ => sealed_pure _
  | stop => exact Sealed.bind (stop_sealed calls _) fun _ => sealed_pure _
  | waitReady timeout => exact Sealed.bind (waitReady_sealed _) fun _ => sealed_pure _
  | version uri => exact Sealed.bind sealed_getSession fun _ => sealed_pure _
  | request method params handler =>
      cases handler with
      | none => exact Sealed.bind (request_sealed calls _ _ _) fun _ => sealed_pure _
      | some callback =>
          refine Sealed.bind (adds (hereditary _ of_kind callback rfl)) fun who => ?_
          refine Sealed.bind (request_sealed calls _ _ _) fun id => ?_
          exact Sealed.bind (sealed_write _) fun _ => sealed_pure _
  | requestSync method params timeout =>
      exact Sealed.bind (requestSync_sealed calls _ _ _) fun _ => sealed_pure _
  | didOpen uri language text =>
      refine Sealed.bind ?_ fun _ => sealed_pure _
      exact giveNotice_sealed calls (.opened uri language text)
  | didChange uri text =>
      refine Sealed.bind ?_ fun _ => sealed_pure _
      exact giveNotice_sealed calls (.changed uri text)
  | didClose uri =>
      refine Sealed.bind ?_ fun _ => sealed_pure _
      exact giveNotice_sealed calls (.closed uri)
  | subscribe channel listener =>
      refine Sealed.bind (adds (hereditary _ of_kind listener rfl)) fun who => ?_
      exact fun _ scripted => ⟨scripted, trivial⟩
  | unsubscribe name =>
      refine Sealed.bind (Sealed.bind sealed_getWorld fun world => ?_) fun _ => sealed_pure _
      split
      · exact sealed_pure _
      · exact fun _ scripted => ⟨scripted, trivial⟩
  | send server message =>
      obtain ⟨data, encoded⟩ := encodable server message of_kind
      refine Sealed.bind (sealed_ofExcept ?_) fun data => ?_
      · rw [encoded]
        trivial
      · exact withServer_sealed fun server => receive_sealed calls server data
  | raw server data => exact withServer_sealed fun server => receive_sealed calls server data
  | stderr server text => exact withServer_sealed fun server => receiveError_sealed calls server text
  | exit server code =>
      refine withServer_sealed fun server => Sealed.bind (sealed_modifyServer _ _) fun _ => ?_
      exact serverEnded_sealed calls server code
  | onExit server code => exact withServer_sealed fun server => serverEnded_sealed calls server code
  | set server running change => exact withServer_sealed fun server => sealed_modifyServer _ _
  | setFactory change => exact fun _ scripted => ⟨scripted, trivial⟩

/-- No call gets out more, at whatever depth it is made. -/
theorem nestedCalls_sealed (depth : Nat) : SealedCalls kind (nestedCalls depth) := by
  induction depth with
  | zero =>
      refine ⟨fun step _ => sealed_throw rfl, fun server data => ?_⟩
      refine Sealed.bind (sealed_write _) fun _ => Sealed.bind sealed_getSession fun session => ?_
      split
      · exact sealed_throw rfl
      · exact sealed_pure _
  | succ depth ih =>
      exact ⟨fun step => performWith_sealed hereditary encodable ih, receive_sealed ih⟩

end

end Client

end LanguageSession
