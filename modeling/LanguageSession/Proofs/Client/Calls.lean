import Mathlib
import LanguageSession.Proofs.Client.Alike

/-!
# Calls do not look at the journal

Every step of a scenario is blind, whatever the callbacks and the servers do while it runs:
the calls nested in it go no deeper than the scenario allows, and each layer is blind as
the one below it is.
-/

namespace LanguageSession

namespace Client

open Act

variable {nested : Nested}

structure Sightless (nested : Nested) : Prop where
  perform : ∀ step, Blind False (nested.perform step)
  receive : ∀ server data, Blind False (nested.receive server data)

/-! ## Callbacks and writes -/

theorem spend_blind (who : Nat) : Blind False (modifyThe (Cast Step) (fun cast : Cast Step =>
    { cast with spent := who :: cast.spent }) : Act World Unit) := by
  intro world world' alike
  refine ⟨rfl, alike.changing (fun world =>
    { world with cast := { world.cast with spent := who :: world.cast.spent } })
    (fun _ _ _ => rfl) False.elim⟩

theorem proceed_blind (sightless : Sightless nested) (who : Nat) (callback : Callback Step)
    (arguments : List Json) :
    Blind False (proceed Step.operation nested.perform who callback arguments) := by
  have raises : Blind False
      (if callback.raises then throw (.raised "boom") else pure () : Act World Unit) := by
    split
    · exact agrees_throw _
    · exact agrees_pure _
  have runs : Blind False (runScript Step.operation nested.perform callback.script) := by
    refine Agrees.forM fun step _ => Agrees.bind (blind_write _) fun _ => ?_
    exact Agrees.bind (sightless.perform step) fun result => blind_write _
  unfold proceed
  split
  · refine Agrees.bind blind_getCast fun cast => ?_
    dsimp only
    split
    · exact raises
    · refine Agrees.bind (spend_blind who) fun _ => ?_
      exact Agrees.bind runs fun _ => raises
  · exact agrees_pure _

theorem Sightless.unaware (sightless : Sightless nested) : Unaware False nested where
  invokes who arguments := by
    refine Agrees.bind blind_getCast fun cast => ?_
    split
    · exact agrees_pure _
    · exact Agrees.bind (blind_write _) fun _ => proceed_blind sightless who _ _
  delivers server message data := by
    refine blind_get (fun _ _ _ => rfl) fun world => ?_
    split
    · exact agrees_pure _
    · refine Agrees.bind (blind_modifyServer server fun _ => rfl) fun _ => ?_
      split
      · exact Agrees.bind (blind_write _) fun _ => agrees_pure _
      · refine Agrees.bind (blind_write _) fun _ => ?_
        refine Agrees.bind (blind_modifyServer server fun process => (accept_weakens _ process).1)
          fun _ => ?_
        exact Agrees.bind (Agrees.forM fun data _ => sightless.receive server data) fun _ =>
          agrees_pure _

/-! ## Output of a server -/

theorem blind_getWholeSession : Blind False (getThe Session : Act World Session) := by
  intro world world' alike
  have kept := alike.buffer.resolve_left id
  obtain ⟨journal, buffer, rfl⟩ := alike.parts
  refine ⟨?_, alike⟩
  obtain rfl : buffer = world.session.buffer := kept
  rfl

theorem blind_buffer (buffer : Bytes) : Blind False (modifyThe Session (fun session : Session =>
    { session with buffer := buffer }) : Act World Unit) :=
  blind_emptySession fun _ _ => rfl

theorem receive_blind (sightless : Sightless nested) (server : Nat) (data : Bytes) :
    Blind False (receive nested server data) := by
  refine Agrees.bind (blind_write _) fun _ => ?_
  refine Agrees.bind blind_getWholeSession fun session => ?_
  split
  · exact Agrees.bind (blind_buffer _) fun _ => handleFeed_blind sightless.unaware server _
  · exact agrees_pure _

theorem receiveError_blind (sightless : Sightless nested) (server : Nat) (text : Text) :
    Blind False (receiveError nested server text) := by
  refine Agrees.bind blind_getWholeSession fun session => ?_
  split
  · exact emitLog_blind sightless.unaware text
  · exact agrees_pure _

theorem serverEnded_blind (sightless : Sightless nested) (server : Nat) (code : Option Int) :
    Blind False (serverEnded nested server code) := by
  refine Agrees.bind blind_getWholeSession fun session => ?_
  split
  · refine Agrees.bind (blind_record _) fun _ => ?_
    refine Agrees.bind (emitLog_blind sightless.unaware _) fun _ => ?_
    exact stop_blind sightless.unaware _
  · exact agrees_pure _

/-! ## Calls of the user -/

theorem resetSession_blind (sightless : Sightless nested) (root : Text) :
    Blind False (resetSession nested root) := by
  refine Agrees.bind (blind_emptySession fun _ _ => rfl) fun _ => ?_
  exact Agrees.bind (blind_write _) fun _ => setReady_blind sightless.unaware false

theorem beginHandshake_blind (sightless : Sightless nested) (root : Option Text) :
    Blind False (beginHandshake nested root) := by
  unfold beginHandshake
  dsimp only
  refine Agrees.bind (sendRequest_blind sightless.unaware _ _ _) fun sent => ?_
  split
  · exact blind_modifySession fun _ _ => rfl
  · exact Agrees.bind (emitLog_blind sightless.unaware _) fun _ => requestAbort_blind

theorem awaitEnding_blind : Blind False awaitEnding := by
  refine blind_get (fun _ _ _ => rfl) fun world => ?_
  refine Agrees.bind (agrees_ofExcept _) fun time => ?_
  split
  · exact agrees_ofExcept _
  · exact agrees_pure _

theorem makeServer_blind (argv : List Text) : Blind False (makeServer argv) := by
  refine blind_get (fun _ _ _ => rfl) fun world => ?_
  exact Agrees.bind (blind_modify (fun _ _ _ => rfl) False.elim) fun _ => agrees_pure _

theorem adoptServer_blind (argv : List Text) : Blind False (adoptServer argv) := by
  refine Agrees.bind (makeServer_blind argv) fun server => ?_
  refine Agrees.bind (blind_modifySession fun _ _ => rfl) fun _ => ?_
  exact Agrees.bind (blind_write _) fun _ => agrees_pure _

theorem spawn_blind (server : Nat) : Blind False (spawn server) := by
  refine blind_get (fun _ _ _ => rfl) fun world => ?_
  split
  · exact agrees_pure _
  · refine Agrees.bind (blind_write _) fun _ => ?_
    split
    · exact agrees_pure _
    · exact Agrees.bind (blind_modifyServer server fun _ => rfl) fun _ => agrees_pure _

theorem bringUp_blind (sightless : Sightless nested) (command : Text) (arguments : List Text)
    (root : Option Text) (server : Nat) :
    Blind False (bringUp nested command arguments root server) := by
  have unaware := sightless.unaware
  refine Agrees.bind (blind_record _) fun _ => Agrees.bind (spawn_blind server) fun failure => ?_
  split
  · refine Agrees.bind (emitLog_blind unaware _) fun _ => ?_
    exact Agrees.bind (stop_blind unaware none) fun _ => agrees_pure _
  · refine Agrees.bind (beginHandshake_blind sightless root) fun _ => ?_
    refine Agrees.bind (stopIfAborted_blind unaware) fun _ => ?_
    exact Agrees.bind blind_getWholeSession fun session => agrees_pure _

theorem start_blind (sightless : Sightless nested) (command : Text) (arguments : List Text)
    (root : Option Text) : Blind False (start nested command arguments root) := by
  refine Agrees.bind (stop_blind sightless.unaware none) fun _ => ?_
  refine Agrees.bind awaitEnding_blind fun _ => ?_
  refine Agrees.bind (resetSession_blind sightless _) fun _ => ?_
  refine Agrees.bind (setPhase_blind _) fun _ => Agrees.bind (adoptServer_blind _) fun server => ?_
  exact bringUp_blind sightless command arguments root server

theorem waitReady_blind (timeout : Option Duration) : Blind False (waitReady timeout) := by
  refine Agrees.bind blind_getWholeSession fun session => ?_
  dsimp only
  split
  · split
    · refine Agrees.bind (agrees_ofExcept _) fun _ => ?_
      exact Agrees.bind (agrees_ofExcept _) fun _ => agrees_pure _
    · exact agrees_pure _
  · exact agrees_pure _

theorem unavailable_blind : Blind False unavailable := by
  refine Agrees.bind blind_getWholeSession fun session => ?_
  dsimp only
  split
  · split
    · exact agrees_pure _
    · exact Agrees.bind (look_blind _) fun _ => agrees_pure _
  · exact agrees_pure _

theorem request_blind (sightless : Sightless nested) (method : Text) (params : Json)
    (handler : Option Handler) : Blind False (request nested method params handler) := by
  have tries : Blind False (trySend nested method params handler) := by
    refine Agrees.bind unavailable_blind fun refusal => ?_
    split
    · exact agrees_pure _
    · refine Agrees.bind (sendRequest_blind sightless.unaware _ _ _) fun sent => ?_
      split
      · exact agrees_pure _
      · exact Agrees.bind (blind_record _) fun _ => agrees_pure _
  refine Agrees.bind tries fun sent => ?_
  split
  · dsimp only
    split
    · exact Agrees.bind (complete_blind sightless.unaware _ _) fun _ => agrees_pure _
    · exact agrees_pure _
  · exact Agrees.bind (stopIfAborted_blind sightless.unaware) fun _ => agrees_pure _

theorem collectMail_blind (slot : Nat) (time : Duration) : Blind False (collectMail slot time) := by
  have looks : Blind False (lookForMail slot time) := by
    refine Agrees.bind (agrees_ofExcept _) fun _ => blind_get (fun _ _ _ => rfl) fun world => ?_
    split
    · exact agrees_pure _
    · exact Agrees.bind (agrees_ofExcept _) fun _ => agrees_pure _
  unfold collectMail
  dsimp only
  split
  · exact Agrees.bind (agrees_throw _) fun _ => looks
  · exact looks

theorem requestSync_blind (sightless : Sightless nested) (method : Text) (params : Json)
    (timeout : Option Duration) : Blind False (requestSync nested method params timeout) := by
  refine blind_get (fun _ _ _ => rfl) fun world => ?_
  refine Agrees.bind (blind_modify (fun _ _ _ => rfl) False.elim) fun _ => ?_
  refine Agrees.bind (request_blind sightless _ _ _) fun _ => ?_
  refine Agrees.bind (collectMail_blind _ _) fun found => ?_
  split
  · exact agrees_pure _
  · refine Agrees.bind (agrees_ofExcept _) fun tenths => ?_
    exact Agrees.bind (blind_record _) fun _ => agrees_pure _

/-- A notification, and what it says of the documents. -/
theorem notify_then_blind (sightless : Sightless nested) (method : Text) (params : Json)
    (change : Documents → Documents) : Blind False (do
      if ← notify nested method params then
        modifyThe Session fun session => { session with documents := change session.documents }
      stopIfAborted nested : Act World Unit) := by
  have notifies : Blind False (notify nested method params) := by
    refine Agrees.bind (sendNotification_blind sightless.unaware _ _) fun sent => ?_
    split
    · exact Agrees.bind (blind_record _) fun _ => agrees_pure _
    · exact agrees_pure _
  refine Agrees.bind notifies fun sent => ?_
  dsimp only
  split
  · refine Agrees.bind (blind_modifySession fun _ _ => rfl) fun _ => ?_
    exact stopIfAborted_blind sightless.unaware
  · exact stopIfAborted_blind sightless.unaware

theorem giveNotice_blind (sightless : Sightless nested) (notice : Notice) :
    Blind False (giveNotice nested notice) := by
  refine Agrees.bind blind_getWholeSession fun session => ?_
  split
  · exact notify_then_blind sightless _ _ fun documents => notice.apply documents
  · exact agrees_pure _

/-! ## Steps -/

theorem withServer_blind {server : Option Nat} {action : Nat → Act World Unit}
    (acts : ∀ server, Blind False (action server)) : Blind False (withServer server action) := by
  have chooses : Blind False (chosenServer server) :=
    blind_get (fun _ _ _ => rfl) fun world => agrees_pure _
  refine Agrees.bind chooses fun chosen => ?_
  split
  · exact acts _
  · exact agrees_pure _

theorem addCallback_blind (callback : Callback Step) : Blind False (addCallback callback) := by
  refine Agrees.bind blind_getCast fun cast => ?_
  refine Agrees.bind ?_ fun _ => agrees_pure _
  intro world world' alike
  exact ⟨rfl, alike.changing (fun world => { world with cast := (cast.add callback).2 })
    (fun _ _ _ => rfl) False.elim⟩

theorem blind_modifySubscriptions (change : Subscriptions Listener → Subscriptions Listener) :
    Blind False (modifyThe (Subscriptions Listener) change : Act World Unit) := by
  intro world world' alike
  exact ⟨rfl, alike.changing (fun world =>
    { world with subscriptions := change world.subscriptions }) (fun _ _ _ => rfl) False.elim⟩

theorem performWith_blind (sightless : Sightless nested) (step : Step) :
    Blind False (performWith nested step) := by
  cases step with
  | start command arguments root =>
      exact Agrees.bind (start_blind sightless _ _ _) fun _ => agrees_pure _
  | stop => exact Agrees.bind (stop_blind sightless.unaware _) fun _ => agrees_pure _
  | waitReady timeout => exact Agrees.bind (waitReady_blind _) fun _ => agrees_pure _
  | version uri => exact Agrees.bind blind_getWholeSession fun _ => agrees_pure _
  | request method params handler =>
      cases handler with
      | none => exact Agrees.bind (request_blind sightless _ _ _) fun _ => agrees_pure _
      | some callback =>
          refine Agrees.bind (addCallback_blind _) fun who => ?_
          refine Agrees.bind (request_blind sightless _ _ _) fun id => ?_
          exact Agrees.bind (blind_write _) fun _ => agrees_pure _
  | requestSync method params timeout =>
      exact Agrees.bind (requestSync_blind sightless _ _ _) fun _ => agrees_pure _
  | didOpen uri language text =>
      exact Agrees.bind (giveNotice_blind sightless (.opened uri language text)) fun _ => agrees_pure _
  | didChange uri text =>
      exact Agrees.bind (giveNotice_blind sightless (.changed uri text)) fun _ => agrees_pure _
  | didClose uri =>
      exact Agrees.bind (giveNotice_blind sightless (.closed uri)) fun _ => agrees_pure _
  | subscribe channel listener =>
      refine Agrees.bind (addCallback_blind _) fun who => Agrees.bind ?_ fun _ => agrees_pure _
      refine Agrees.bind (blind_modifySubscriptions _) fun _ => ?_
      exact blind_modify (fun _ _ _ => rfl) False.elim
  | unsubscribe name =>
      refine Agrees.bind (blind_get (fun _ _ _ => rfl) fun world => ?_) fun _ => agrees_pure _
      split
      · exact agrees_pure _
      · exact blind_modifySubscriptions _
  | send server message =>
      refine Agrees.bind (agrees_ofExcept _) fun data => Agrees.bind ?_ fun _ => agrees_pure _
      exact withServer_blind fun server => receive_blind sightless server data
  | raw server data =>
      refine Agrees.bind (withServer_blind fun server => ?_) fun _ => agrees_pure _
      exact receive_blind sightless server data
  | stderr server text =>
      refine Agrees.bind (withServer_blind fun server => ?_) fun _ => agrees_pure _
      exact receiveError_blind sightless server text
  | exit server code =>
      refine Agrees.bind (withServer_blind fun server => ?_) fun _ => agrees_pure _
      refine Agrees.bind (blind_modifyServer server fun _ => rfl) fun _ => ?_
      exact serverEnded_blind sightless server code
  | onExit server code =>
      refine Agrees.bind (withServer_blind fun server => ?_) fun _ => agrees_pure _
      exact serverEnded_blind sightless server code
  | set server running change =>
      refine Agrees.bind (withServer_blind fun server => ?_) fun _ => agrees_pure _
      exact blind_modify (fun _ _ _ => rfl) False.elim
  | setFactory change =>
      exact Agrees.bind (blind_modify (fun _ _ _ => rfl) False.elim) fun _ => agrees_pure _

theorem receiveTooDeep_blind (server : Nat) (data : Bytes) :
    Blind unread (receiveTooDeep server data) := by
  refine Agrees.bind (blind_write _) fun _ => blind_getSession (fun _ _ => rfl) fun session => ?_
  split
  · exact agrees_throw _
  · exact agrees_pure _

theorem nestedCalls_sightless (depth : Nat) : Sightless (nestedCalls depth) := by
  induction depth with
  | zero =>
      constructor
      · exact fun step => agrees_throw _
      · exact receiveTooDeep_blind
  | succ depth ih =>
      constructor
      · exact performWith_blind ih
      · exact receive_blind ih

end Client

end LanguageSession
