import Mathlib
import LanguageSession.Proofs.Client.Alike

/-!
# A session that has not begun

As long as the session has no server and is not ready, nothing but `start` can change it:
there is nobody to write to, and what servers write is not for it.  It also stays as it is
when `start` is called where no session can begin.
-/

namespace LanguageSession

namespace Client

open Act

/-! ## Kinds of steps -/

/-- The callback that a step adds. -/
def Step.callback? : Step → Option (Callback Step)
  | .request _ _ handler => handler
  | .subscribe _ listener => some listener
  | _ => none

/-- Steps of this kind add callbacks that perform only such steps. -/
def Hereditary (kind : Step → Prop) : Prop :=
  ∀ step, kind step → ∀ callback ∈ step.callback?, ∀ inner ∈ callback.script, kind inner

def Scripted (kind : Step → Prop) (world : World) : Prop :=
  ∀ callback ∈ world.cast.callbacks, ∀ step ∈ callback.script, kind step

section

variable {kind : Step → Prop} {world : World}

theorem Scripted.adding (scripted : Scripted kind world) {callback : Callback Step}
    (inner : ∀ step ∈ callback.script, kind step) : Scripted kind (world.adding callback) := by
  intro other member
  rcases List.mem_append.mp member with earlier | last
  · exact scripted other earlier
  · rw [List.mem_singleton.mp last]
    exact inner

end

/-! ## What leaves such a session alone -/

/-- The session has not begun, and the callbacks do not begin it. -/
structure Unbegun (kind : Step → Prop) (world : World) : Prop where
  server : world.session.server = none
  ready : world.session.ready = false
  scripted : Scripted kind world
  refused : ∀ command arguments root, kind (.start command arguments root) →
    ∃ error, endingTime world.settings = .error error

def Unmoved (kind : Step → Prop) (world world' : World) : Prop :=
  Unbegun kind world → Unbegun kind world' ∧ world'.session = world.session

section

variable {kind : Step → Prop}

theorem unmoved_of_parts {world world' : World} (settings : world'.settings = world.settings)
    (session : world'.session = world.session)
    (callbacks : world'.cast.callbacks = world.cast.callbacks) : Unmoved kind world world' := by
  rintro ⟨server, ready, scripted, refused⟩
  refine ⟨⟨?_, ?_, ?_, ?_⟩, session⟩
  · rw [session, server]
  · rw [session, ready]
  · rwa [Scripted, callbacks]
  · rwa [settings]

instance : Tolerant (Unmoved kind) where
  refl world unbegun := ⟨unbegun, rfl⟩
  trans first second third before after unbegun := by
    obtain ⟨unbegun, same⟩ := before unbegun
    obtain ⟨unbegun, later⟩ := after unbegun
    exact ⟨unbegun, later.trans same⟩
  noting _ _ _ := unmoved_of_parts rfl rfl rfl
  modifying _ _ _ _ := unmoved_of_parts rfl rfl rfl

theorem unmoved_hosts : Hosts (Unmoved kind) where
  marking _ _ _ := unmoved_of_parts rfl rfl rfl
  spending _ _ := unmoved_of_parts rfl rfl rfl

theorem within_of_unbegun {α : Type} {action : Act World α}
    (unmoved : ∀ world, Unbegun kind world → Ensures action world fun _ => Unmoved kind world) :
    Within (Unmoved kind) action := by
  intro world unbegun
  exact unmoved world unbegun unbegun

variable {nested : Nested}
  (performs : ∀ step, kind step → Within (Unmoved kind) (nested.perform step))

include performs

theorem invoke_unmoved (who : Nat) (arguments : List Json) :
    Within (Unmoved kind) (invoke Step.operation nested.perform who arguments) := by
  refine within_of_unbegun fun world unbegun => ?_
  refine unmoved_hosts.invoke arguments (fun _ _ => unmoved_of_parts rfl rfl rfl) ?_
  exact fun callback known step member => performs step (unbegun.scripted callback known step member)

/-! ## Operations -/

theorem complete_unmoved {handler : Handler} (other : handler ≠ .handshake)
    (completion : Completion) : Within (Unmoved kind) (complete nested handler completion) := by
  cases handler with
  | handshake => exact (other rfl).elim
  | mailbox slot => exact fun world => unmoved_of_parts rfl rfl rfl
  | callback who => exact invoke_unmoved performs who _

theorem request_unmoved (method : Text) (params : Json) {handler : Option Handler}
    (other : ∀ waiting ∈ handler, waiting ≠ .handshake) :
    Within (Unmoved kind) (request nested method params handler) := by
  refine within_of_unbegun fun world unbegun => ?_
  simp only [request, trySend, unavailable, ensures_bind, ensures_getSession, unbegun.server]
  cases handler with
  | none => exact refl_of (Unmoved kind) world
  | some handler =>
      exact Ensures.bind (complete_unmoved performs (other handler rfl) _ world) fun _ _ moved => moved

theorem requestSync_unmoved (method : Text) (params : Json) (timeout : Option Duration) :
    Within (Unmoved kind) (requestSync nested method params timeout) := by
  refine Within.bind within_get fun world => ?_
  refine Within.bind (fun world => unmoved_of_parts rfl rfl rfl) fun _ => ?_
  refine Within.bind (request_unmoved performs _ _ ?_) fun _ => ?_
  · rintro _ ⟨⟩
    simp
  · refine Within.bind (collectMail_within _ _) fun found => ?_
    split
    · exact within_pure _
    · refine Within.bind (within_ofExcept _) fun tenths => ?_
      exact Within.bind (within_record _) fun _ => within_pure _

omit performs

theorem stop_unmoved (expected : Option Nat) : Within (Unmoved kind) (stop nested expected) := by
  refine within_of_unbegun fun world unbegun => ?_
  simp only [stop, ensures_bind, ensures_getSession, unbegun.server]
  exact refl_of (Unmoved kind) world

theorem start_unmoved {command : Text} {arguments : List Text} {root : Option Text}
    (starts : kind (.start command arguments root)) :
    Within (Unmoved kind) (start nested command arguments root) := by
  refine within_of_unbegun fun world unbegun => ?_
  obtain ⟨error, refused⟩ := unbegun.refused command arguments root starts
  simp only [start, stop, awaitEnding, ensures_bind, ensures_getSession, unbegun.server,
    ensures_pure, ensures_get, refused, ensures_ofExcept]
  exact refl_of (Unmoved kind) world

theorem receive_unmoved (server : Nat) (data : Bytes) :
    Within (Unmoved kind) (receive nested server data) := by
  refine within_of_unbegun fun world unbegun => ?_
  rw [ensures_receive_dropped (by simp [unbegun.server])]
  exact unmoved_of_parts rfl rfl rfl

theorem receiveError_unmoved (server : Nat) (text : Text) :
    Within (Unmoved kind) (receiveError nested server text) := by
  refine within_of_unbegun fun world unbegun => ?_
  simp only [receiveError, ensures_bind, ensures_getSession, unbegun.server]
  exact refl_of (Unmoved kind) world

theorem serverEnded_unmoved (server : Nat) (code : Option Int) :
    Within (Unmoved kind) (serverEnded nested server code) := by
  refine within_of_unbegun fun world unbegun => ?_
  simp only [serverEnded, ensures_bind, ensures_getSession, unbegun.server]
  exact refl_of (Unmoved kind) world

theorem ready_unmoved {action : Session → Act World Unit} : Within (Unmoved kind) (do
    let session ← getThe Session
    if session.ready then action session) := by
  refine within_of_unbegun fun world unbegun => ?_
  rw [ensures_bind, ensures_getSession]
  simp only [unbegun.ready]
  exact refl_of (Unmoved kind) world

/-! ## Steps -/

include performs

theorem performWith_unmoved (hereditary : Hereditary kind) {step : Step} (of_kind : kind step) :
    Within (Unmoved kind) (performWith nested step) := by
  have adds {callback : Callback Step} (inner : ∀ step ∈ callback.script, kind step) :
      Within (Unmoved kind) (addCallback callback) := by
    intro world unbegun
    exact ⟨⟨unbegun.server, unbegun.ready, unbegun.scripted.adding inner, unbegun.refused⟩, rfl⟩
  cases step with
  | start command arguments root =>
      exact Within.bind (start_unmoved of_kind) fun _ => within_pure _
  | stop => exact Within.bind (stop_unmoved none) fun _ => within_pure _
  | waitReady timeout => exact Within.bind (waitReady_within timeout) fun _ => within_pure _
  | version uri => exact Within.bind within_getSession fun _ => within_pure _
  | request method params handler =>
      cases handler with
      | none =>
          exact Within.bind (request_unmoved performs _ _ (by simp)) fun _ => within_pure _
      | some callback =>
          refine Within.bind (adds (hereditary _ of_kind callback rfl)) fun who => ?_
          refine Within.bind (request_unmoved performs _ _ ?_) fun id => ?_
          · rintro _ ⟨⟩
            simp
          · exact Within.bind (fun world => unmoved_of_parts rfl rfl rfl) fun _ => within_pure _
  | requestSync method params timeout =>
      exact Within.bind (requestSync_unmoved performs _ _ _) fun _ => within_pure _
  | didOpen uri language text => exact Within.bind ready_unmoved fun _ => within_pure _
  | didChange uri text => exact Within.bind ready_unmoved fun _ => within_pure _
  | didClose uri => exact Within.bind ready_unmoved fun _ => within_pure _
  | subscribe channel listener =>
      refine Within.bind (adds (hereditary _ of_kind listener rfl)) fun who => ?_
      refine Within.bind ?_ fun _ => within_pure _
      exact Within.bind (fun world => unmoved_of_parts rfl rfl rfl) fun _ world =>
        unmoved_of_parts rfl rfl rfl
  | unsubscribe name =>
      refine Within.bind (Within.bind within_get fun world => ?_) fun _ => within_pure _
      split
      · exact within_pure _
      · exact fun world => unmoved_of_parts rfl rfl rfl
  | send server message =>
      refine Within.bind (within_ofExcept _) fun data => ?_
      refine Within.bind (withServer_within fun server => ?_) fun _ => within_pure _
      exact receive_unmoved server data
  | raw server data =>
      refine Within.bind (withServer_within fun server => ?_) fun _ => within_pure _
      exact receive_unmoved server data
  | stderr server text =>
      refine Within.bind (withServer_within fun server => ?_) fun _ => within_pure _
      exact receiveError_unmoved server text
  | exit server code =>
      refine Within.bind (withServer_within fun server => ?_) fun _ => within_pure _
      refine Within.bind (fun world => unmoved_of_parts rfl rfl rfl) fun _ => ?_
      exact serverEnded_unmoved server code
  | onExit server code =>
      refine Within.bind (withServer_within fun server => ?_) fun _ => within_pure _
      exact serverEnded_unmoved server code
  | set server running change =>
      refine Within.bind (withServer_within fun server => ?_) fun _ => within_pure _
      exact fun world => unmoved_of_parts rfl rfl rfl
  | setFactory change =>
      exact Within.bind (fun world => unmoved_of_parts rfl rfl rfl) fun _ => within_pure _

omit performs

theorem nestedCalls_unmoved (hereditary : Hereditary kind) (depth : Nat) (step : Step)
    (of_kind : kind step) : Within (Unmoved kind) ((nestedCalls depth).perform step) := by
  induction depth generalizing step with
  | zero => exact within_throw _
  | succ depth ih => exact performWith_unmoved ih hereditary of_kind

end

end Client

end LanguageSession
