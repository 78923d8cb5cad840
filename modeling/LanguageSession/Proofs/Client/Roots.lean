import Mathlib
import LanguageSession.Proofs.Client.Calls
import LanguageSession.Proofs.Client.Conversation
import LanguageSession.Proofs.Client.Streams
import LanguageSession.Proofs.Json.Surrogates

/-!
# The root of a session

A session begins with a message that tells the server its root.  A root that cannot be
encoded ends the session at once, and later the root stays what it is as long as the session
has its server: so the root of a session at rest can always be sent.
-/

namespace LanguageSession

namespace Client

open Act

/-! ## Keeping the root -/

def Stays (world world' : World) : Prop :=
  Passive world → Passive world' ∧ (world'.session.server = none ∨
    world'.session.server = world.session.server ∧ world'.session.root = world.session.root)

section

variable {world world' : World}

theorem Left.stays (left : Leaves world world') : Stays world world' := by
  intro passive
  have left := left passive
  exact ⟨left.passive, .inr ⟨by rw [left.session], by rw [left.session]⟩⟩

instance : Tolerant Stays where
  refl world passive := ⟨passive, .inr ⟨rfl, rfl⟩⟩
  trans first second third before after passive := by
    obtain ⟨passive, kept⟩ := before passive
    obtain ⟨passive, kept'⟩ := after passive
    refine ⟨passive, ?_⟩
    rcases kept' with ended | ⟨server', root'⟩
    · exact .inl ended
    · rcases kept with ended | ⟨server, root⟩
      · exact .inl (server'.trans ended)
      · exact .inr ⟨server'.trans server, root'.trans root⟩
  noting world entry neutral := Left.stays (Tolerant.noting world entry neutral)
  modifying world server change weakens := Left.stays (Tolerant.modifying world server change weakens)

variable {α : Type} {action : Act World α} {nested : Nested}

theorem stays_of_leaves (leaves : Within Leaves action) : Within Stays action :=
  fun world => (leaves world).mono fun _ _ left => Left.stays left

theorem stays_of_attempts (attempts : Attempts action) : Within Stays action := by
  intro world passive
  obtain ⟨-, passive, attempted⟩ := attempts world passive
  refine ⟨passive, .inr ⟨attempted.server, ?_⟩⟩
  rcases attempted with same | ⟨-, same⟩ <;> rw [same]

/-- What holds after an action in every passive world. -/
theorem within_stays (stays : ∀ world, Passive world →
      Ensures action world fun _ world' => Passive world' ∧ (world'.session.server = none ∨
        world'.session.server = world.session.server ∧ world'.session.root = world.session.root)) :
    Within Stays action := stays

theorem stays_modifySession {change : Session → Session}
    (server : ∀ session, (change session).server = session.server)
    (root : ∀ session, (change session).root = session.root) :
    Within Stays (modifyThe Session change : Act World Unit) :=
  fun world passive => ⟨passive.kept,
    .inr ⟨server world.session, root world.session⟩⟩

theorem setReady_stays (ready : Bool) : Within Stays (setReady nested ready) := by
  refine within_stays fun world passive => (setReady_passive ready passive).mono ?_
  rintro _ world' ⟨-, passive, same⟩
  refine ⟨passive, .inr ?_⟩
  rw [same]
  split <;> exact ⟨rfl, rfl⟩

theorem sendRequest_stays (method : Text) (params : Json) (handler : Option Handler) :
    Within Stays (sendRequest nested method params handler) := by
  refine within_stays fun world passive => (sendRequest_passive method params handler passive).mono ?_
  rintro (fault | (error | id)) world' ⟨passive, told⟩
  · exact told.elim
  · exact ⟨passive, .inr ⟨by rw [told], by rw [told]⟩⟩
  · obtain ⟨-, attempted⟩ := told
    refine ⟨passive, .inr ⟨attempted.server, ?_⟩⟩
    rcases attempted with same | ⟨-, same⟩ <;> rw [same] <;> rfl

theorem stop_stays (expected : Option Nat) : Within Stays (stop nested expected) := by
  refine Within.bind (stays_of_leaves within_getSession) fun session => ?_
  split
  · exact within_pure _
  · split
    · exact within_pure _
    · refine within_stays fun world passive => (endSession_passive _ passive).mono ?_
      exact fun _ _ ended => ⟨ended.1.passive, .inl ended.1.server⟩

theorem stopIfAborted_stays : Within Stays (stopIfAborted nested) := by
  refine Within.bind (stays_of_leaves within_getSession) fun session => ?_
  split
  · split
    · exact within_pure _
    · exact stop_stays _
  · exact within_pure _

/-! ## Output of a server -/

theorem complete_stays (handler : Handler) (completion : Completion) :
    Within Stays (complete nested handler completion) := by
  by_cases other : handler = .handshake
  · subst other
    refine Within.bind (stays_modifySession (fun _ => rfl) fun _ => rfl) fun _ => ?_
    split
    · refine Within.bind (stays_of_attempts (sendNotification_passive _ _)) fun _ => ?_
      exact setReady_stays true
    · refine Within.bind (stays_of_leaves (emitLog_leaves _)) fun _ => ?_
      exact stays_modifySession (fun _ => rfl) fun _ => rfl
  · exact stays_of_leaves (complete_leaves other completion)

theorem resolve_stays (message : Json) :
    Within Stays (Registry.resolve (complete nested) message) := by
  refine Within.bind (fun world => refl_of Stays world) fun registry => ?_
  refine Within.bind (within_ofExcept _) fun ⟨found, rest⟩ => ?_
  cases found with
  | none => exact Within.bind (within_record _) fun _ => within_pure _
  | some handler =>
      refine Within.bind (fun world passive => ?_) fun _ => Within.bind ?_ fun _ => within_pure _
      · exact ⟨passive.kept, .inr ⟨rfl, rfl⟩⟩
      · exact Within.tryCatch (complete_stays _ _) fun _ => within_record _

theorem answerRequest_stays (message : Json) : Within Stays (answerRequest nested message) := by
  have sends (envelope : Json) : Within Stays (sendReply nested message envelope) := by
    unfold sendReply
    split
    · exact within_record _
    · exact stays_of_attempts (writeMessage_passive _ _)
  refine Within.bind (stays_of_leaves within_getSession) fun session => ?_
  refine Within.bind (within_ofExcept _) fun reply => ?_
  dsimp only
  split
  · exact Within.bind (within_record _) fun _ => sends _
  · exact sends _

theorem handleMessage_stays (message : Json) : Within Stays (handleMessage nested message) := by
  refine Within.bind (within_record _) fun _ => ?_
  split
  · exact Within.bind (resolve_stays message) fun _ => within_pure _
  · exact answerRequest_stays message
  · split
    · exact stays_of_leaves (emit_leaves _)
    · exact within_pure _
  · exact within_record _

theorem handleMessages_stays (server : Nat) (messages : List Json) :
    Within Stays (handleMessages nested server messages) := by
  refine fun world => ensures_messages (fun message middle stays _ _ => ?_) (refl_of Stays world)
  have noted : Stays middle (middle.noting (.handling server message)) :=
    fun passive => ⟨passive.kept, .inr ⟨rfl, rfl⟩⟩
  exact (handleMessage_stays message).later (trans_of Stays stays noted)

theorem receive_stays (server : Nat) (data : Bytes) : Within Stays (receive nested server data) := by
  have handles (messages : List Json) : Within Stays (do
      handleMessages nested server messages
      stopIfAborted nested : Act World Unit) :=
    Within.bind (handleMessages_stays _ _) fun _ => stopIfAborted_stays
  refine fun world => ensures_arrival (fun passive => ⟨passive.kept, .inr ⟨rfl, rfl⟩⟩) fun _ _ => ?_
  refine ensures_fed (fun _ => id) (fun note _ _ stays => (within_record note).later stays)
    (fun _ _ stays => (stays_of_leaves (emitLog_leaves _)).later stays)
    (fun _ stays => (handles _).later stays) ?_
  exact fun passive => ⟨passive.kept, .inr ⟨rfl, rfl⟩⟩

theorem serverEnded_stays (server : Nat) (code : Option Int) :
    Within Stays (serverEnded nested server code) := by
  refine Within.bind (stays_of_leaves within_getSession) fun session => ?_
  split
  · refine Within.bind (within_record _) fun _ => ?_
    exact Within.bind (stays_of_leaves (emitLog_leaves _)) fun _ => stop_stays _
  · exact within_pure _

/-! ## Calls of the user -/

theorem request_stays (method : Text) (params : Json) (handler : Option Handler) :
    Within Stays (request nested method params handler) := by
  have tries : Within Stays (trySend nested method params handler) := by
    refine Within.bind unavailable_within fun refusal => ?_
    split
    · exact within_pure _
    · refine Within.bind (sendRequest_stays _ _ _) fun sent => ?_
      split
      · exact within_pure _
      · exact Within.bind (within_record _) fun _ => within_pure _
  refine Within.bind tries fun sent => ?_
  split
  · dsimp only
    split
    · exact Within.bind (complete_stays _ _) fun _ => within_pure _
    · exact within_pure _
  · exact Within.bind stopIfAborted_stays fun _ => within_pure _

theorem requestSync_stays (method : Text) (params : Json) (timeout : Option Duration) :
    Within Stays (requestSync nested method params timeout) := by
  refine Within.bind within_get fun world => ?_
  refine Within.bind (fun world passive => ?_) fun _ =>
    Within.bind (request_stays _ _ _) fun _ => Within.bind (collectMail_within _ _) fun found => ?_
  · exact ⟨passive.kept, .inr ⟨rfl, rfl⟩⟩
  · split
    · exact within_pure _
    · refine Within.bind (within_ofExcept _) fun tenths => ?_
      exact Within.bind (within_record _) fun _ => within_pure _

theorem giveNotice_stays (notice : Notice) : Within Stays (giveNotice nested notice) := by
  refine Within.bind (stays_of_leaves within_getSession) fun session => ?_
  split
  · refine Within.bind (stays_of_attempts (notify_passive _ _)) fun sent => ?_
    dsimp only
    split
    · refine Within.bind (stays_modifySession (fun _ => rfl) fun _ => rfl) fun _ => ?_
      exact stopIfAborted_stays
    · exact stopIfAborted_stays
  · exact within_pure _

/-! ## Greetings -/

/-- The root of a session that has a server can be sent. -/
def Rooted (world : World) : Prop :=
  world.session.server.isSome → world.session.root.hasSurrogate = false

theorem Stays.rooted (stays : Stays world world') (passive : Passive world)
    (rooted : Rooted world) : Rooted world' := by
  rcases (stays passive).2 with ended | ⟨server, root⟩
  · intro served
    simp [ended] at served
  · intro served
    rw [root]
    exact rooted (server ▸ served)

theorem Ended.rooted (ended : Ended world) : Rooted world := by
  intro served
  simp [ended.server] at served

theorem AtRest.rooted (rest : AtRest world) (stays : Within Stays action)
    (rooted : Rooted world) :
    Ensures action world fun _ => Rooted := by
  have stays : Ensures action world fun _ => Stays world := stays world
  exact stays.mono fun _ _ stays => stays.rooted rest.passive rooted

theorem sendRequest_encodes (method : Text) (params : Json) (handler : Option Handler) :
    Ensures (sendRequest nested method params handler) world fun ending _ =>
      ∀ id, ending = .ok (.ok id) → ∃ data, Frame.encode
        (Message.request (.nat world.session.nextId) (.string method) params) = .ok data := by
  unfold sendRequest
  rw [ensures_bind]
  simp only [ensures_getSession]
  split
  · simp
  · next data encoded => exact fun _ _ => ⟨data, encoded⟩

theorem hasSurrogate_greeting (root : Json) : (greeting root).hasSurrogate = root.hasSurrogate := by
  have same : greeting root = .object [("jsonrpc", .literal "2.0"), ("id", .nat 1),
      ("method", .literal "initialize"), ("params", Message.initializeParams root)] := rfl
  cases found : root.hasSurrogate <;>
    simp [same, Message.initializeParams, Json.literal, Json.nat, Json.hasSurrogate,
      Json.membersHaveSurrogate, found]

theorem rooted_of_encoded {root : Option Text} {data : Bytes}
    (encoded : Frame.encode (greeting ((root.map Json.string).getD .null)) = .ok data) :
    (root.getD []).hasSurrogate = false := by
  by_contra surrogate
  cases root with
  | none => exact surrogate rfl
  | some root =>
      have surrogate : (greeting (.string root)).hasSurrogate = true := by
        rw [hasSurrogate_greeting]
        simpa [Json.hasSurrogate] using surrogate
      obtain ⟨error, refused⟩ := Frame.encode_of_hasSurrogate surrogate
      cases encoded.symm.trans refused

theorem beginHandshake_rooted (root : Option Text) {server : Nat} (passive : Passive world)
    (same : world.session = launched (root.getD []) server) :
    Ensures (beginHandshake nested root) world fun _ world' =>
      Failing world'.session ∨ Rooted world' := by
  unfold beginHandshake
  dsimp only
  rw [ensures_bind]
  refine ((sendRequest_passive "initialize" _ (some .handshake) passive).and
    (sendRequest_encodes "initialize" _ (some .handshake))).mono ?_
  rintro (fault | (error | id)) sent ⟨⟨passive, told⟩, encodes⟩
  · exact told.elim
  · refine leaves_bind (emitLog_succeeds _) (emitLog_leaves _) passive fun _ _ passive left => ?_
    have same := (left.trans told).trans same
    simp only [requestAbort, ensures_modifySession, same]
    exact .inl ⟨rfl, rfl, rfl⟩
  · obtain ⟨-, attempted⟩ := told
    obtain ⟨data, encoded⟩ := encodes id rfl
    rw [same] at encoded attempted
    right
    intro
    have kept : sent.session.root = root.getD [] := by
      rcases attempted with left | ⟨-, left⟩ <;> rw [left] <;> rfl
    exact kept ▸ rooted_of_encoded encoded

theorem bringUp_rooted (command : Text) (arguments : List Text) (root : Option Text) {server : Nat}
    (passive : Passive world) (same : world.session = launched (root.getD []) server) :
    Ensures (bringUp nested command arguments root server) world fun _ => Rooted := by
  unfold bringUp
  refine leaves_bind (record_succeeds _) (within_record _) passive fun _ _ passive left => ?_
  have same := left.trans same
  rw [ensures_bind]
  refine (spawn_passive _ passive).mono ?_
  rintro _ spawned ⟨⟨failure, rfl⟩, passive, left, -⟩
  have same := left.trans same
  dsimp only
  split
  · refine leaves_bind (emitLog_succeeds _) (emitLog_leaves _) passive fun _ _ passive left => ?_
    have same := left.trans same
    rw [ensures_bind]
    refine (stop_passive passive (by simp) (by rw [same]; rfl) (by simp [same, launched])).mono ?_
    rintro (fault | _) _ ended <;> exact ended.rooted
  · rw [ensures_bind]
    refine ((beginHandshake_passive root passive same).and
      (beginHandshake_rooted root passive same)).mono ?_
    rintro _ greeted ⟨after, rooted⟩
    obtain ⟨_, rfl⟩ := after.ends
    dsimp only
    rw [ensures_bind]
    rcases rooted with failing | rooted
    · refine (failing.ended after.passive).mono ?_
      rintro (fault | _) _ ended <;> exact ended.1.rooted
    · have stays : Ensures (stopIfAborted nested) greeted fun _ => Stays greeted :=
        stopIfAborted_stays greeted
      refine stays.mono ?_
      rintro (fault | _) _ stays <;> exact stays.rooted after.passive rooted

theorem start_rooted (command : Text) (arguments : List Text) (root : Option Text)
    (rest : AtRest world) :
    Ensures (start nested command arguments root) world fun _ => Rooted := by
  refine ensures_start (fun _ => True) rest (ensures_true _ _) (fun _ _ _ => ensures_true _ _)
    (fun _ _ ended _ => ended.rooted) ?_
  exact fun begun prepared _ =>
    bringUp_rooted command arguments root (prepared.passive.adopting _) (prepared.adopted _)

/-! ## Steps and runs -/

/-- After every step the root of the session can be sent. -/
theorem performWith_rooted {step : Step} (passive : step.Passive) (rest : AtRest world)
    (rooted : Rooted world) :
    Ensures (performWith nested step) world fun _ => Rooted := by
  have to_server {server : Option Nat} {action : Nat → Act World Unit}
      (stays : ∀ server, Within Stays (action server)) :
      Ensures (withServer server action >>= fun _ => pure Json.null) world fun _ => Rooted :=
    rest.rooted (Within.bind (withServer_within stays) fun _ => within_pure _) rooted
  cases step with
  | start command arguments root =>
      exact Ensures.bind
        (start_rooted command arguments root rest) fun _ _ rooted => rooted
  | stop => exact rest.rooted (Within.bind (stop_stays _) fun _ => within_pure _) rooted
  | waitReady timeout =>
      exact rest.rooted (Within.bind (waitReady_within timeout) fun _ => within_pure _) rooted
  | version uri => exact rooted
  | request method params handler =>
      cases handler with
      | none => exact rest.rooted (Within.bind (request_stays _ _ _) fun _ => within_pure _) rooted
      | some callback =>
          have registered : AtRest (world.adding { callback with kind := "handler" }) :=
            rest.adding (passive callback rfl)
          rw [performWith, ensures_bind, ensures_addCallback]
          exact Ensures.bind
            (registered.rooted (request_stays _ _ _) rooted) fun _ _ rooted => rooted
  | requestSync method params timeout =>
      exact rest.rooted (Within.bind (requestSync_stays _ _ _) fun _ => within_pure _) rooted
  | didOpen uri language text =>
      exact rest.rooted (Within.bind (giveNotice_stays (.opened uri language text)) fun _ =>
        within_pure _) rooted
  | didChange uri text =>
      exact rest.rooted (Within.bind (giveNotice_stays (.changed uri text)) fun _ =>
        within_pure _) rooted
  | didClose uri =>
      exact rest.rooted (Within.bind (giveNotice_stays (.closed uri)) fun _ => within_pure _) rooted
  | subscribe channel listener => exact rooted
  | unsubscribe name =>
      refine rest.rooted (Within.bind (Within.bind within_get fun world => ?_) fun _ =>
        within_pure _) rooted
      split
      · exact within_pure _
      · exact fun world passive =>
          ⟨passive.kept, .inr ⟨rfl, rfl⟩⟩
  | send server message =>
      refine rest.rooted (Within.bind (within_ofExcept _) fun data => ?_) rooted
      exact Within.bind (withServer_within fun _ => receive_stays _ data) fun _ => within_pure _
  | raw server data => exact to_server fun _ => receive_stays _ data
  | stderr server text =>
      refine to_server fun _ => Within.bind within_getSession fun session => ?_
      split
      · exact stays_of_leaves (emitLog_leaves _)
      · exact within_pure _
  | exit server code =>
      refine to_server fun _ => Within.bind (fun world passive => ?_) fun _ => serverEnded_stays _ _
      exact ⟨passive.modifying _ fun _ => id, .inr ⟨rfl, rfl⟩⟩
  | onExit server code => exact to_server fun _ => serverEnded_stays _ code
  | set server running change =>
      refine to_server fun _ world' passive' => ?_
      exact ⟨passive'.modifying _ fun process => passive process.conduct, .inr ⟨rfl, rfl⟩⟩
  | setFactory change => exact rooted

end

/-- A run of a fresh client leads to this world, in which nobody calls the client from inside. -/
def ReachedPassively (world : World) : Prop :=
  ∃ settings factory depth script,
    let fresh : World := { settings := settings, factory := factory }
    Silent factory ∧ (∀ step ∈ script, step.Passive) ∧
      world = leftBy fresh (turns (performWith (nestedCalls depth)) fresh script)

theorem ReachedPassively.reached {world : World} (reached : ReachedPassively world) :
    Reached world := by
  obtain ⟨settings, factory, depth, script, -, -, same⟩ := reached
  exact ⟨settings, factory, depth, script, same⟩

theorem ReachedPassively.settled {world : World} (reached : ReachedPassively world) :
    AtRest world ∧ Rooted world := by
  obtain ⟨settings, factory, depth, script, silent, passive, rfl⟩ := reached
  have each : ∀ step ∈ script, ∀ world, AtRest world ∧ Rooted world →
      Ensures (performWith (nestedCalls depth) step) world fun _ world' =>
        AtRest world' ∧ Rooted world' := fun step member world settled =>
    (performWith_passive (passive step member) settled.1).and
      (performWith_rooted (passive step member) settled.1 settled.2)
  exact leftBy_turns each ⟨atRest_fresh settings silent, by rintro ⟨⟩⟩

theorem ReachedPassively.atRest {world : World} (reached : ReachedPassively world) : AtRest world :=
  reached.settled.1

theorem ReachedPassively.rooted {world : World} (reached : ReachedPassively world) : Rooted world :=
  reached.settled.2

end Client

end LanguageSession
