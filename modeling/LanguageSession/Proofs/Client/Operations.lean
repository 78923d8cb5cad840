import Mathlib
import LanguageSession.Proofs.Client.Output
import LanguageSession.Proofs.Registry

/-!
# Every operation settles

Whatever is called while an operation runs, the journal and the session agree again when it
ends.  The operations are taken in the order in which they are defined, each from the ones
it is made of; the depth of nested calls is the induction at the end.
-/

namespace LanguageSession

namespace Client

open Act

/-! ## Callbacks and events -/

theorem settles_hosts : Hosts Settles where
  marking world entry marks := by
    refine settles_idle ?_
    cases entry <;> trivial
  spending _ _ := settles_of_core rfl rfl rfl rfl

section

variable {perform : Step → Act World Json} (performs : ∀ step, Within Settles (perform step))

include performs

theorem proceed_settles (who : Nat) (callback : Callback Step) (arguments : List Json) :
    Within Settles (proceed Step.operation perform who callback arguments) :=
  settles_hosts.proceed who arguments fun step _ => performs step

variable {world : World} {who : Nat} {callback : Callback Step} {arguments : List Json}

theorem invoke_settles (known : world.cast.callbacks[who]? = some callback)
    (called : Settles world (world.noting (.called who callback.kind callback.name arguments))) :
    Ensures (invoke Step.operation perform who arguments) world fun _ => Settles world := by
  rw [ensures_invoke known]
  refine (proceed_settles performs who callback arguments _).mono ?_
  intro _ _ later
  exact trans_of Settles called later

end

section

variable {nested : Nested} (performs : ∀ step, Within Settles (nested.perform step))

include performs

/-- Does the cast have this listener? -/
def Listens (world : World) : Listener → Prop
  | .callback who => ∃ callback, world.cast.callbacks[who]? = some callback ∧
      callback.kind ≠ ("handler" : Text)
  | _ => True

omit performs in
theorem Listens.grows {world world' : World} {listener : Listener} (listens : Listens world listener)
    (grows : Grows world world') : Listens world' listener := by
  cases listener with
  | callback who =>
      obtain ⟨callback, known, kind⟩ := listens
      obtain ⟨later, grown⟩ := grows.callbacks
      refine ⟨callback, ?_, kind⟩
      rw [← grown, List.getElem?_append_left (lt_of_known known)]
      exact known
  | _ => trivial

omit performs in
theorem Sound.listens {world : World} (sound : Sound world) {channel : Channel}
    {listener : Listener} (subscribed : listener ∈ world.subscriptions.on channel) :
    Listens world listener := by
  cases listener with
  | callback who => exact sound.listeners channel who subscribed
  | _ => trivial

theorem tell_settles {world : World} {listener : Listener} (listens : Listens world listener)
    (event : Event) : Ensures (tell nested listener event) world fun _ => Settles world := by
  cases listener with
  | callback who =>
      obtain ⟨callback, known, kind⟩ := listens
      exact invoke_settles performs known (settles_called known kind)
  | echo =>
      cases event with
      | log text => exact settles_idle trivial
      | _ => exact refl_of Settles world
  | collect =>
      cases event with
      | diagnostics uri items => exact settles_of_core rfl rfl rfl rfl
      | _ => exact refl_of Settles world

theorem emit_settles (event : Event) : Within Settles (emit nested event) := by
  refine within_of_sound fun world sound => ?_
  refine ensures_emit Settles fun listener subscribed world' moved => ?_
  exact tell_settles performs ((sound.listens subscribed).grows (moved sound).2.1) event

theorem emitLog_settles (text : Text) : Within Settles (emitLog nested text) :=
  Within.bind (within_record _) fun _ => emit_settles performs _

/-! ## State -/

omit performs in
theorem setPhase_settles (phase : Phase) : Within Settles (setPhase phase) := by
  unfold setPhase
  refine Within.bind within_getSession fun session => ?_
  split
  · exact within_pure _
  · refine Within.bind (within_record _) fun _ => ?_
    intro world
    exact settles_of_core rfl rfl rfl rfl

theorem setReady_settles (ready : Bool) : Within Settles (setReady nested ready) := by
  unfold setReady
  refine Within.bind within_getSession fun session => ?_
  split
  · exact within_pure _
  · refine Within.bind (fun world => settles_of_core rfl rfl rfl rfl) fun _ => ?_
    dsimp only
    split
    · exact Within.bind (setPhase_settles _) fun _ => emit_settles performs _
    · exact emit_settles performs _

end

/-! ## Writing -/

/-- Nested calls settle, and output that arrives is noted first. -/
structure Orderly (nested : Nested) : Prop where
  perform : ∀ step, Within Settles (nested.perform step)
  receive : ∀ server data, Within Settles (nested.receive server data)
  arrives : ∀ server data world, Sound world →
    Ensures (nested.receive server data) world fun _ world' =>
      world.journal.entries ++ [.arrived server data] <+: world'.journal.entries

section

variable {nested : Nested} (orderly : Orderly nested)

include orderly

theorem deliver_settles (server : Nat) (message : Json) (data : Bytes) {world : World}
    (sound : Sound world) :
    Ensures (deliver nested server message data) world fun ending world' =>
      Settles world world' ∧ ∀ reason, ending = .ok (some reason) → Disturbed world world' := by
  simp only [deliver, ensures_bind, ensures_get]
  cases world.server? server with
  | none => exact ⟨refl_of Settles world, by rintro _ ⟨⟩⟩
  | some process =>
      simp only [ensures_bind, ensures_modify]
      have moved := modifyServer_settles server
        (fun process => { process with writes := process.writes + 1 }) world
      cases process.conduct.refusesWrite process.writes with
      | some reason =>
          have refused : Idle (.writeRefused server message) := trivial
          refine ⟨trans_of Settles moved (settles_idle refused), fun _ _ => ?_⟩
          refine Meets.before ?_ (moved sound).2.1
          exact disturbed_of_entry rfl (show Disturbs (.writeRefused server message) from trivial)
      | none =>
          have written : Within Settles (do
              write (.wrote server message data)
              modifyThe World (World.modifyServer server fun process => process.accept message)
              (process.conduct.replies message).forM (nested.receive server) : Act World Unit) := by
            refine Within.bind (fun _ => settles_idle trivial) fun _ => ?_
            refine Within.bind (modifyServer_settles _ _) fun _ => ?_
            exact Within.forM fun reply _ => orderly.receive server reply
          have ends := written.later moved
          simp only [ensures_bind, ensures_write, ensures_modify] at ends ⊢
          refine ends.mono ?_
          intro ending answered settled
          cases ending with
          | ok _ => exact ⟨settled, by rintro _ ⟨⟩⟩
          | error fault => exact ⟨settled, by rintro _ ⟨⟩⟩

omit orderly in
theorem requestAbort_keeps : Within Keeps requestAbort := fun _ => keeps_of_core rfl

/-- A write that fails asks for the end of the session; it has disturbed it then. -/
theorem writeMessage_settles (message : Json) (data : Bytes) :
    Within Settles (writeMessage nested message data) := by
  refine within_of_sound fun world sound => ?_
  simp only [writeMessage, ensures_bind, ensures_getSession]
  cases world.session.server with
  | none => exact refl_of Settles world
  | some server =>
      refine Ensures.bind (look_within server world) fun running looked moved => ?_
      split
      · rw [ensures_bind]
        refine (deliver_settles orderly server message data (moved sound).1).mono ?_
        rintro (fault | (_ | reason)) delivered ⟨later, refused⟩
        all_goals have settled := trans_of Settles moved later
        · exact settled
        · exact (within_record _).later settled
        · have disturbed := (refused reason rfl).before (moved sound).2.1
          have aborted : Within Keeps (do
              emitLog nested ("LSP process I/O error: " ++ reason)
              requestAbort : Act World Unit) :=
            Within.bind (within_keeps (emitLog_settles orderly.perform _)) fun _ =>
              requestAbort_keeps
          exact settles_after_disturbance aborted settled.keeps disturbed
      · exact moved

end

/-! ## Promises -/

theorem Numbered.fresh {nextId : Nat} {entries : List (Json × Handler)}
    (numbered : Numbered nextId entries) :
    ∀ entry ∈ entries, entry.1.sameKey (Json.nat nextId) = false := by
  obtain ⟨ids, same, -, below⟩ := numbered
  intro entry member
  have key : entry.1 ∈ ids.map Json.nat := same ▸ List.mem_map_of_mem member
  obtain ⟨id, given, key⟩ := List.mem_map.mp key
  have := below id given
  rw [← key, sameKey_nat]
  simp only [decide_eq_false_iff_not]
  omega

theorem Numbered.snoc {nextId : Nat} {entries : List (Json × Handler)}
    (numbered : Numbered nextId entries) (handler : Handler) :
    Numbered (nextId + 1) (entries ++ [(Json.nat nextId, handler)]) := by
  obtain ⟨ids, same, sorted, below⟩ := numbered
  refine ⟨ids ++ [nextId], by simp [same], ?_, ?_⟩
  · rw [List.pairwise_append]
    refine ⟨sorted, List.pairwise_singleton _ _, ?_⟩
    intro id member last equal
    obtain rfl : last = nextId := by simpa using equal
    exact below id member
  · intro id member
    rcases List.mem_append.mp member with member | member
    · have := below id member
      omega
    · obtain rfl : id = nextId := by simpa using member
      omega

/-- The world after the next id was given out to someone. -/
def World.promising (world : World) (handler : Handler) : World :=
  { world with
    session := { world.session with
      nextId := world.session.nextId + 1
      pending := ⟨world.session.pending.entries ++ [(Json.nat world.session.nextId, handler)]⟩ } }

theorem callbacksIn_append (first second : List (Json × Handler)) :
    callbacksIn (first ++ second) = callbacksIn first ++ callbacksIn second := by
  simp [callbacksIn]

theorem Sound.promising {world : World} {handler : Handler} (sound : Sound world)
    (other : ∀ who, handler ≠ .callback who) : Sound (world.promising handler) := by
  have unseen : callbacksIn [(Json.nat world.session.nextId, handler)] = [] := by
    cases handler with
    | callback who => exact (other who rfl).elim
    | _ => rfl
  refine { sound with waiting := ?_, numbered := sound.numbered.snoc handler, .. }
  · simpa [World.promising, callbacksIn_append, unseen] using sound.waiting

/-- May the handler be registered now? -/
def Admissible (world : World) : Handler → Prop
  | .handshake => False
  | .mailbox _ => True
  | .callback who => Untouched world.journal.entries who ∧
      (∃ callback, world.cast.callbacks[who]? = some callback ∧
        callback.kind = ("handler" : Text)) ∧ world.session.server.isSome

/-- A callback waits, and the journal says so. -/
theorem Sound.awaiting {world : World} {who : Nat} (sound : Sound world)
    (admissible : Admissible world (.callback who)) :
    Sound ((world.promising (.callback who)).noting
      (.awaiting who world.session.nextId world.session.server)) := by
  obtain ⟨untouched, known, served⟩ := admissible
  constructor
  · exact sound.coherent.snoc ⟨untouched, served, sound.server.symm⟩
  · simpa [Standing.advance, World.promising] using sound.server
  · have promised : callbacksIn [(Json.nat world.session.nextId, .callback who)] =
        [(Json.nat world.session.nextId, who)] := rfl
    simp [Standing.advance, World.promising, callbacksIn_append, promised, sound.waiting]
  · exact sound.numbered.snoc _
  · intro request waits
    have waits : request ∈ (standing world.journal.entries).waiting ∨
        request = ⟨who, world.session.nextId, world.session.server⟩ := by
      simpa [Standing.advance, World.promising] using waits
    rcases waits with waits | rfl
    · exact sound.handlers request waits
    · exact known
  · exact sound.listeners
  · intro other unknown
    refine untouched_snoc.mpr ⟨sound.untouched other unknown, ?_⟩
    rintro rfl
    obtain ⟨callback, found, -⟩ := known
    exact absurd (lt_of_known found) (Nat.not_lt.mpr unknown)
  · intro server member
    exact sound.servers server (by simpa [World.promising] using member)

/-- The world after a handler was registered under the next id. -/
def World.registering (world : World) (handler : Handler) : World :=
  match handler with
  | .callback who => (world.promising handler).noting
      (.awaiting who world.session.nextId world.session.server)
  | _ => world.promising handler

theorem awaited_next {world : World} (sound : Sound world) (handler : Handler) :
    World.awaited { world with
        session := { world.session with nextId := world.session.nextId + 1 } }
      world.session.nextId handler = world.registering handler := by
  have fresh : Registry.insert (Json.nat world.session.nextId) handler
      world.session.pending.entries = _ := Registry.insert_eq_append sound.numbered.fresh
  cases handler <;> simp only [World.awaited, World.registering, World.promising, fresh]

theorem Established.promising {world : World} {handler : Handler} (established : Established world)
    (other : handler ≠ .handshake) : Established (world.promising handler) := by
  have absent : Handler.handshake ∉ (world.session.pending.entries ++
      [(Json.nat world.session.nextId, handler)]).map Prod.snd := by
    rw [List.map_append, List.mem_append]
    rintro (earlier | last)
    · exact established earlier
    · exact other (List.mem_singleton.mp last).symm
  exact absent

theorem registering_settles {world : World} {handler : Handler}
    (admissible : Admissible world handler) : Settles world (world.registering handler) := by
  intro sound
  cases handler with
  | handshake => exact admissible.elim
  | mailbox slot =>
      refine ⟨sound.promising (by simp), ⟨List.prefix_rfl, List.prefix_rfl, rfl⟩, fun _ _ _ => ?_⟩
      exact ⟨fun established => established.promising (by simp), rfl, rfl, rfl, List.prefix_rfl⟩
  | callback who =>
      refine ⟨sound.awaiting admissible, ⟨List.prefix_append _ _, List.prefix_rfl, rfl⟩,
        fun _ _ _ => ?_⟩
      refine ⟨fun established => established.promising (by simp), rfl, rfl, rfl, ?_⟩
      have noted : (world.registering (.callback who)).journal.entries = world.journal.entries ++
          [.awaiting who world.session.nextId world.session.server] := rfl
      rw [noted, standing_snoc]
      exact List.prefix_append _ _

theorem handshake_keeps {world : World} : Keeps world (world.registering .handshake) :=
  fun sound => ⟨sound.promising (by simp), ⟨List.prefix_rfl, List.prefix_rfl, rfl⟩⟩

section

variable {nested : Nested} (orderly : Orderly nested)

include orderly

def Noted (handler : Option Handler) (id : Nat) (world : World) : Prop :=
  ∀ who, handler = some (.callback who) → ∃ server, .awaiting who id server ∈ world.journal.entries

omit orderly in
theorem Noted.grows {handler : Option Handler} {id : Nat} {world world' : World}
    (noted : Noted handler id world) (grows : Grows world world') : Noted handler id world' := by
  intro who same
  obtain ⟨server, member⟩ := noted who same
  exact ⟨server, grows.journal.subset member⟩

omit orderly in
theorem noted_registering {world : World} {handler : Handler} :
    Noted (some handler) world.session.nextId (world.registering handler) := by
  rintro who ⟨⟩
  exact ⟨world.session.server, by simp [World.registering]⟩

omit orderly in
theorem nextId_settles (world : World) :
    Settles world { world with
      session := { world.session with nextId := world.session.nextId + 1 } } := by
  intro sound
  obtain ⟨ids, same, sorted, below⟩ := sound.numbered
  have numbered : Numbered (world.session.nextId + 1) world.session.pending.entries :=
    ⟨ids, same, sorted, fun id given => Nat.lt_succ_of_lt (below id given)⟩
  refine ⟨{ sound with numbered := numbered, .. }, ⟨List.prefix_rfl, List.prefix_rfl, rfl⟩, ?_⟩
  exact fun _ _ _ => ⟨id, rfl, rfl, rfl, List.prefix_rfl⟩

/-- Whatever registering the handler keeps, sending the request keeps. -/
theorem sendRequest_moves {relation : World → World → Prop} [IsPreorder World relation]
    (settles : ∀ {world world'}, Settles world world' → relation world world')
    (keeps : ∀ {world world'}, relation world world' → Keeps world world')
    (method : Text) (params : Json) {handler : Option Handler} {world : World} (sound : Sound world)
    (registers : ∀ waiting ∈ handler, relation world (world.registering waiting)) :
    Ensures (sendRequest nested method params handler) world fun ending world' =>
      relation world world' ∧ match ending with
        | .ok (.ok id) => Noted handler id world'
        | .ok (.error _) => world' = world
        | .error _ => True := by
  simp only [sendRequest, ensures_bind, ensures_getSession]
  split
  · exact ⟨refl_of relation world, rfl⟩
  · next data encoded =>
    -- what the write brings about may not undo that the handler was noted
    have written : ∀ start, relation world start → Noted handler world.session.nextId start →
        Ensures (writeMessage nested (Message.request (.nat world.session.nextId)
          (.string method) params) data) start fun ending world' =>
          relation world world' ∧ (ending = .ok () → Noted handler world.session.nextId world') := by
      intro start moved noted
      refine (writeMessage_settles orderly _ data start).mono ?_
      intro ending world' later
      refine ⟨trans_of relation moved (settles later), fun _ => ?_⟩
      exact noted.grows (later (keeps moved sound).1).2.1
    simp only [ensures_bind, ensures_modifySession]
    cases handler with
    | none =>
        simp only [ensures_bind]
        refine (written _ (settles (nextId_settles world)) (by rintro who ⟨⟩)).mono ?_
        rintro (fault | _) world' ⟨moved, noted⟩
        · exact ⟨moved, trivial⟩
        · exact ⟨moved, noted rfl⟩
    | some handler =>
        simp only [ensures_bind]
        rw [ensures_await, awaited_next sound]
        refine (written _ (registers handler rfl) noted_registering).mono ?_
        rintro (fault | _) world' ⟨moved, noted⟩
        · exact ⟨moved, trivial⟩
        · exact ⟨moved, noted rfl⟩

theorem sendRequest_settles (method : Text) (params : Json) {handler : Option Handler}
    {world : World} (sound : Sound world)
    (admissible : ∀ waiting ∈ handler, Admissible world waiting) :
    Ensures (sendRequest nested method params handler) world fun ending world' =>
      Settles world world' ∧ match ending with
        | .ok (.ok id) => Noted handler id world'
        | .ok (.error _) => world' = world
        | .error _ => True :=
  sendRequest_moves orderly id Settles.keeps method params sound
    fun waiting member => registering_settles (admissible waiting member)

theorem sendNotification_settles (method : Text) (params : Json) :
    Within Settles (sendNotification nested method params) := by
  unfold sendNotification
  dsimp only
  split
  · exact within_pure _
  · exact Within.bind (writeMessage_settles orderly _ _) fun _ => within_pure _

theorem notify_settles (method : Text) (params : Json) :
    Within Settles (notify nested method params) := by
  refine Within.bind (sendNotification_settles orderly method params) fun sent => ?_
  split
  · exact Within.bind (within_record _) fun _ => within_pure _
  · exact within_pure _

/-! ## Stopping -/

omit orderly in
/-- Those who wait may be dropped. -/
theorem dropped_keeps {world world' : World}
    (journal : world'.journal.entries = world.journal.entries ++ [.dropped])
    (server : world'.session.server = world.session.server)
    (pending : world'.session.pending.entries = [])
    (subscriptions : world'.subscriptions = world.subscriptions) (cast : world'.cast = world.cast)
    (servers : world'.servers = world.servers) (settings : world'.settings = world.settings) :
    Keeps world world' := by
  intro sound
  refine ⟨?_, ⟨by simp [journal], by simp [cast], settings⟩⟩
  have empty : standing world'.journal.entries =
      { standing world.journal.entries with waiting := [] } := by
    rw [journal, standing_snoc]
    rfl
  constructor
  · rw [journal]
    exact sound.coherent.snoc trivial
  · rw [empty, server]
    exact sound.server
  · rw [empty, pending]
    rfl
  · rw [pending]
    exact ⟨[], rfl, List.Pairwise.nil, by simp⟩
  · simp [empty]
  · rw [subscriptions, cast]
    exact sound.listeners
  · rw [journal, cast]
    intro who unknown
    exact untouched_snoc.mpr ⟨sound.untouched who unknown, id⟩
  · rw [journal, servers]
    intro server member
    exact sound.servers server (by simpa using member)

omit orderly in
/-- The session may go on with another server, or without one. -/
theorem serving_keeps {world world' : World} {server : Option Nat}
    (lawful : Lawful world.journal.entries (.serving server))
    (journal : world'.journal.entries = world.journal.entries ++ [.serving server])
    (current : world'.session.server = server)
    (pending : world'.session.pending = world.session.pending)
    (nextId : world'.session.nextId = world.session.nextId)
    (subscriptions : world'.subscriptions = world.subscriptions) (cast : world'.cast = world.cast)
    (more : world.servers.length ≤ world'.servers.length)
    (made : ∀ number, server = some number → number < world'.servers.length)
    (settings : world'.settings = world.settings) : Keeps world world' := by
  intro sound
  refine ⟨?_, ⟨by simp [journal], by simp [cast], settings⟩⟩
  have served : standing world'.journal.entries =
      { standing world.journal.entries with server := server } := by
    rw [journal, standing_snoc]
    rfl
  constructor
  · rw [journal]
    exact sound.coherent.snoc lawful
  · rw [served, current]
  · rw [served, pending]
    exact sound.waiting
  · rw [nextId, pending]
    exact sound.numbered
  · rw [served, cast]
    exact sound.handlers
  · rw [subscriptions, cast]
    exact sound.listeners
  · rw [journal, cast]
    intro who unknown
    exact untouched_snoc.mpr ⟨sound.untouched who unknown, id⟩
  · rw [journal]
    intro number member
    rcases List.mem_append.mp member with earlier | last
    · exact Nat.lt_of_lt_of_le (sound.servers number earlier) more
    · exact made number (by simpa using (List.mem_singleton.mp last).symm)

theorem forget_keeps (server : Nat) : Within Keeps (forget nested server) := by
  have settled : Within Keeps (do
      setReady nested false
      setPhase .stopped
      modifyThe Session fun session => { session with stopping := false } : Act World Unit) := by
    refine Within.bind (within_keeps (setReady_settles orderly.perform false)) fun _ => ?_
    refine Within.bind (within_keeps (setPhase_settles .stopped)) fun _ => ?_
    intro world
    exact keeps_of_core rfl
  unfold forget
  refine Within.bind (within_keeps within_get) fun before => ?_
  refine Within.bind (within_keeps (within_record _)) fun _ => ?_
  intro world
  rw [ensures_bind]
  simp only [ensures_modifySession]
  rw [ensures_bind]
  simp only [ensures_write, add_eq_noting]
  rw [ensures_bind]
  simp only [ensures_write, add_eq_noting]
  have dropped : Keeps world
      (World.noting { world with session := { world.session with pending := {} } } .dropped) :=
    dropped_keeps rfl rfl rfl rfl rfl rfl rfl
  refine settled.later (trans_of Keeps dropped ?_)
  exact serving_keeps (by simp [Lawful]) rfl rfl rfl rfl rfl rfl le_rfl (by simp) rfl

theorem askToEnd_settles (server : Nat) : Within Settles (askToEnd nested server) := by
  have request (method : Text) : Within Settles (sendRequest nested method .null none) := by
    refine within_of_sound fun world sound => ?_
    refine (sendRequest_settles orderly method .null sound (by simp)).mono ?_
    exact fun _ _ sent => sent.1
  exact askToEnd_within (look_within server) (setPhase_settles _) (request _)
    (sendNotification_settles orderly _ _)

theorem endSession_settles (server : Nat) : Within Settles (endSession nested server) := by
  have rest : Within Keeps (do
      let graceful ← askToEnd nested server
      try
        dismiss server graceful
      catch fault =>
        forget nested server
        throw fault
      forget nested server : Act World Unit) := by
    refine Within.bind (within_keeps (askToEnd_settles orderly server)) fun graceful => ?_
    refine Within.bind ?_ fun _ => forget_keeps orderly server
    have dismissed : Within Settles (dismiss server graceful) :=
      dismiss_within server graceful (fun _ => settles_idle trivial) fun _ => settles_idle trivial
    refine Within.tryCatch (within_keeps dismissed) fun fault => ?_
    exact Within.bind (forget_keeps orderly server) fun _ => within_throw fault
  intro world
  unfold endSession
  rw [ensures_bind]
  simp only [ensures_modifySession]
  rw [ensures_bind]
  simp only [ensures_write, add_eq_noting]
  have stopping : Keeps world { world with session := { world.session with stopping := true } } :=
    keeps_of_core rfl
  have begun (world : World) : Settles world (world.noting (.ending server)) := settles_idle trivial
  refine settles_after_disturbance rest (trans_of Keeps stopping (begun _).keeps) ?_
  exact disturbed_of_entry rfl (show Disturbs (.ending server) from trivial)

theorem stop_settles (expected : Option Nat) : Within Settles (stop nested expected) := by
  refine Within.bind within_getSession fun session => ?_
  split
  · exact within_pure _
  · split
    · exact within_pure _
    · exact endSession_settles orderly _

theorem stopIfAborted_settles : Within Settles (stopIfAborted nested) := by
  refine Within.bind within_getSession fun session => ?_
  split
  · split
    · exact within_pure _
    · exact stop_settles orderly _
  · exact within_pure _

/-! ## Output of a server -/

theorem finishHandshake_keeps (completion : Completion) :
    Within Keeps (finishHandshake nested completion) := by
  unfold finishHandshake
  refine Within.bind (fun world => keeps_of_core rfl) fun _ => ?_
  split
  · refine Within.bind (within_keeps (sendNotification_settles orderly _ _)) fun _ => ?_
    exact within_keeps (setReady_settles orderly.perform true)
  · refine Within.bind (within_keeps (emitLog_settles orderly.perform _)) fun _ => ?_
    exact requestAbort_keeps

theorem answerRequest_settles (message : Json) : Within Settles (answerRequest nested message) := by
  have sent (envelope : Json) : Within Settles (sendReply nested message envelope) := by
    unfold sendReply
    split
    · exact within_record _
    · exact writeMessage_settles orderly _ _
  unfold answerRequest
  refine Within.bind within_getSession fun session => ?_
  refine Within.bind (within_ofExcept _) fun reply => ?_
  dsimp only
  split
  · exact Within.bind (within_record _) fun _ => sent reply.envelope
  · exact sent reply.envelope

end

/-! ## Responses -/

theorem Numbered.sublist {nextId : Nat} {entries fewer : List (Json × Handler)}
    (numbered : Numbered nextId entries) (sublist : fewer.Sublist entries) :
    Numbered nextId fewer := by
  obtain ⟨ids, same, sorted, below⟩ := numbered
  have keys : (fewer.map Prod.fst).Sublist (ids.map Json.nat) := same ▸ sublist.map _
  obtain ⟨fewerIds, given, same⟩ := List.sublist_map_iff.mp keys
  exact ⟨fewerIds, same, sorted.sublist given, fun id member => below id (given.subset member)⟩

def World.taking (world : World) (rest : List (Json × Handler)) : World :=
  { world with session := { world.session with pending := ⟨rest⟩ } }

theorem Established.taking {world : World} {rest : List (Json × Handler)}
    (established : Established world) (fewer : rest.Sublist world.session.pending.entries) :
    Established (world.taking rest) :=
  fun member => established ((fewer.map Prod.snd).subset member)

section

variable {world : World} {before after : List (Json × Handler)}

theorem Sound.taking {id : Json} {handler : Handler} (sound : Sound world)
    (split : world.session.pending.entries = before ++ (id, handler) :: after)
    (other : ∀ who, handler ≠ .callback who) : Sound (world.taking (before ++ after)) := by
  have unseen : callbacksIn [(id, handler)] = [] := by
    cases handler with
    | callback who => exact (other who rfl).elim
    | _ => rfl
  have fewer := Registry.sublist_of_split split
  refine { sound with waiting := ?_, numbered := sound.numbered.sublist fewer, .. }
  have same := sound.waiting
  rw [split, List.append_cons, callbacksIn_append, callbacksIn_append, unseen, List.append_nil,
    ← callbacksIn_append] at same
  exact same

theorem filter_ne_of_nodup {pairs later : List (Json × Nat)} {id : Json} {who : Nat}
    (nodup : ((pairs ++ (id, who) :: later).map Prod.snd).Nodup) :
    (pairs ++ (id, who) :: later).filter (fun pair => pair.2 ≠ who) = pairs ++ later := by
  have apart : ∀ pair ∈ pairs ++ later, pair.2 ≠ who := by
    rw [List.map_append, List.map_cons, List.nodup_middle, List.nodup_cons, ← List.map_append]
      at nodup
    intro pair member same
    exact nodup.1 (List.mem_map.mpr ⟨pair, member, same⟩)
  rw [List.filter_append, List.filter_cons_of_neg (by simp), ← List.filter_append,
    List.filter_eq_self]
  simpa using apart

theorem Sound.waits {id who : Nat} (sound : Sound world)
    (registered : (Json.nat id, .callback who) ∈ world.session.pending.entries) :
    ∃ request ∈ (standing world.journal.entries).waiting,
      request.id = id ∧ request.callback = who := by
  have seen : (Json.nat id, who) ∈ callbacksIn world.session.pending.entries :=
    List.mem_filterMap.mpr ⟨_, registered, rfl⟩
  rw [sound.waiting, List.mem_map] at seen
  obtain ⟨request, waits, same⟩ := seen
  simp only [Json.nat, Prod.mk.injEq, Json.integer.injEq, Int.natCast_inj] at same
  exact ⟨request, waits, same⟩

theorem Sound.registered {key : Json} {who : Nat} (sound : Sound world)
    (registered : (key, .callback who) ∈ world.session.pending.entries) :
    ∃ id callback, key = .nat id ∧ world.cast.callbacks[who]? = some callback ∧
      callback.kind = ("handler" : Text) := by
  obtain ⟨ids, same, -⟩ := sound.numbered
  obtain ⟨id, -, rfl⟩ : ∃ id ∈ ids, Json.nat id = key := by
    rw [← List.mem_map, ← same]
    exact List.mem_map_of_mem registered
  obtain ⟨request, waits, -, rfl⟩ := sound.waits registered
  obtain ⟨callback, known, kind⟩ := sound.handlers request waits
  exact ⟨id, callback, rfl, known, kind⟩

/-- A callback may be called with the response to its request. -/
theorem Sound.answering {id who server : Nat} {callback : Callback Step} {message : Json}
    {earlier : List Entry} (sound : Sound world)
    (split : world.session.pending.entries = before ++ (Json.nat id, .callback who) :: after)
    (delivered : world.journal.entries =
      earlier ++ [.handling server message, .logged (Log.messageIn message)])
    (current : world.session.server = some server)
    (response : Message.classify message = .response)
    (matches_id : (Json.nat id).sameKey (message.member "id"))
    (known : world.cast.callbacks[who]? = some callback) :
    Sound ((world.taking (before ++ after)).noting
      (.called who callback.kind callback.name (Completion.ofResponse message).arguments)) := by
  have waiting : callbacksIn before ++ (Json.nat id, who) :: callbacksIn after =
      (standing world.journal.entries).waiting.map fun request =>
        (Json.nat request.id, request.callback) := by
    rw [← sound.waiting, split, callbacksIn_append]
    rfl
  obtain ⟨request, waits, same_id, same⟩ := @Sound.waits _ id who sound (by simp [split])
  have answered : request.answeredBy message := by
    rw [Waiting.answeredBy, response, same_id, matches_id]
    rfl
  -- no callback waits twice, so taking the entry and dropping the callback agree
  have remaining : callbacksIn (before ++ after) =
      ((standing world.journal.entries).waiting.filter fun request => request.callback ≠ who).map
        fun request => (Json.nat request.id, request.callback) := by
    have nodup := sound.coherent.waiting_nodup
    rw [show (standing world.journal.entries).waiting.map Waiting.callback =
      ((standing world.journal.entries).waiting.map fun request =>
        (Json.nat request.id, request.callback)).map Prod.snd by simp, ← waiting] at nodup
    rw [callbacksIn_append, ← filter_ne_of_nodup nodup, waiting, List.filter_map]
    rfl
  have fewer := Registry.sublist_of_split split
  constructor
  · refine sound.coherent.snoc fun _ => .inr ⟨request, earlier, server, message, ?_, ?_⟩
    · exact same
    · exact ⟨delivered, by rw [← current]; exact sound.server, waits, answered, rfl⟩
  · rw [noting_entries, standing_snoc]
    exact sound.server
  · rw [noting_entries, standing_snoc]
    exact remaining
  · exact sound.numbered.sublist fewer
  · rw [noting_entries, standing_snoc]
    intro other waits
    exact sound.handlers other (List.mem_of_mem_filter waits)
  · exact sound.listeners
  · intro other unknown
    refine untouched_snoc.mpr ⟨sound.untouched other unknown, ?_⟩
    -- a callback that is known has a number that was given out
    rintro rfl
    exact absurd (lt_of_known known) (Nat.not_lt.mpr unknown)
  · intro server member
    rcases List.mem_append.mp member with earlier | last
    · exact sound.servers server earlier
    · simp at last

end

/-! ## Messages -/

section

variable {nested : Nested} (orderly : Orderly nested)

include orderly

theorem complete_keeps {handler : Handler} (other : ∀ who, handler ≠ .callback who)
    (completion : Completion) : Within Keeps (complete nested handler completion) := by
  cases handler with
  | handshake => exact finishHandshake_keeps orderly completion
  | mailbox slot => exact fun world => keeps_of_core rfl
  | callback who => exact (other who rfl).elim

theorem completed_keeps {world : World} {key : Json} {handler : Handler}
    {before after : List (Json × Handler)} {server : Nat} {message : Json} {earlier : List Entry}
    (sound : Sound world)
    (split : world.session.pending.entries = before ++ (key, handler) :: after)
    (delivered : world.journal.entries =
      earlier ++ [.handling server message, .logged (Log.messageIn message)])
    (current : world.session.server = some server)
    (response : Message.classify message = .response)
    (matches_id : key.sameKey (message.member "id")) :
    Ensures (complete nested handler (Completion.ofResponse message))
      (world.taking (before ++ after)) fun _ => Keeps world := by
  by_cases other : ∀ who, handler ≠ .callback who
  · refine (complete_keeps orderly other _).later fun _ => ?_
    exact ⟨sound.taking split other, List.prefix_rfl, List.prefix_rfl, rfl⟩
  · push Not at other
    obtain ⟨who, rfl⟩ := other
    have middle : (key, .callback who) ∈ world.session.pending.entries := by simp [split]
    obtain ⟨id, callback, rfl, known, -⟩ := sound.registered middle
    have known' : (world.taking (before ++ after)).cast.callbacks[who]? = some callback := known
    rw [complete, ensures_invoke known']
    refine (within_keeps (proceed_settles orderly.perform _ _ _)).later fun _ => ?_
    refine ⟨sound.answering split delivered current response matches_id known, ?_⟩
    exact ⟨List.prefix_append _ _, List.prefix_rfl, rfl⟩

theorem resolve_keeps {world : World} {server : Nat} {message : Json} {earlier : List Entry}
    (sound : Sound world)
    (delivered : world.journal.entries =
      earlier ++ [.handling server message, .logged (Log.messageIn message)])
    (current : world.session.server = some server)
    (response : Message.classify message = .response) :
    Ensures (Registry.resolve (complete nested) message) world fun _ => Keeps world := by
  simp only [Registry.resolve, ensures_bind, ensures_getPending, ensures_ofExcept]
  rcases Registry.take_cases world.session.pending (message.member "id") with
    ⟨fault, -, refused⟩ | missed | ⟨before, after, key, handler, split, same, taken⟩
  · rw [refused]
    exact refl_of Keeps world
  · rw [missed]
    exact within_keeps (Within.bind (within_record _) fun _ => within_pure _) world
  · have completed := completed_keeps orderly sound split delivered current response same
    rw [taken]
    simp only [ensures_bind, ensures_setPending, contain, ensures_tryCatch]
    refine completed.mono ?_
    intro ending told kept
    cases ending with
    | ok _ => exact kept
    | error fault => exact (within_keeps (within_record _)).later kept

theorem handleMessage_keeps {world : World} {server : Nat} {message : Json} {earlier : List Entry}
    (sound : Sound world)
    (delivered : world.journal.entries = earlier ++ [.handling server message])
    (current : world.session.server = some server) :
    Ensures (handleMessage nested message) world fun _ => Keeps world := by
  have recorded : Settles world (world.noting (.logged (Log.messageIn message))) :=
    settles_idle trivial
  have rest (action : Act World Unit) (settles : Within Settles action) :
      Ensures action (world.noting (.logged (Log.messageIn message))) fun _ => Keeps world :=
    (settles.later recorded).mono fun _ _ moved => moved.keeps
  unfold handleMessage
  rw [ensures_bind]
  simp only [record, ensures_write, add_eq_noting]
  cases kind : Message.classify message with
  | response =>
      have noted : (world.noting (.logged (Log.messageIn message))).journal.entries =
          earlier ++ [.handling server message, .logged (Log.messageIn message)] := by
        simp [delivered]
      have resolved := resolve_keeps orderly (recorded sound).1 noted current kind
      dsimp only
      rw [ensures_bind]
      refine resolved.mono ?_
      intro ending world' kept
      have kept := trans_of Keeps recorded.keeps kept
      cases ending with
      | ok _ => exact kept
      | error fault => exact kept
  | request => exact rest _ (answerRequest_settles orderly message)
  | notification =>
      dsimp only
      split
      · exact rest _ (emit_settles orderly.perform _)
      · exact rest _ (within_pure _)
  | invalid => exact rest _ (within_record _)

theorem handleMessages_keeps (server : Nat) (messages : List Json) :
    Within Keeps (handleMessages nested server messages) := by
  refine within_keeps_of_sound fun world sound => ?_
  refine ensures_messages (fun message middle kept _ current => ?_) (refl_of Keeps world)
  have noted : Settles middle (middle.noting (.handling server message)) := settles_idle trivial
  refine (handleMessage_keeps orderly (noted (kept sound).1).1 rfl current).mono fun _ _ later => ?_
  exact trans_of Keeps kept (trans_of Keeps noted.keeps later)

theorem handleAll_keeps (server : Nat) (messages : List Json) : Within Keeps (do
    handleMessages nested server messages
    stopIfAborted nested : Act World Unit) :=
  Within.bind (handleMessages_keeps orderly server messages) fun _ =>
    within_keeps (stopIfAborted_settles orderly)

theorem handleRead_keeps (server : Nat) (fed : Frame.Feed) : Within Keeps (
    match fed.fault with
    | some fault => throw fault
    | none => do
      match fed.stray with
      | some text => emitLog nested text
      | none => pure ()
      handleMessages nested server fed.messages
      stopIfAborted nested : Act World Unit) := by
  split
  · exact within_throw _
  · dsimp only
    split
    · exact Within.bind (within_keeps (emitLog_settles orderly.perform _)) fun _ =>
        handleAll_keeps orderly server fed.messages
    · exact handleAll_keeps orderly server fed.messages

theorem handleFeed_keeps (server : Nat) (fed : Frame.Feed) :
    Within Keeps (handleFeed nested server fed) :=
  Within.bind (Within.forM fun note _ => within_keeps (within_record note)) fun _ =>
    handleRead_keeps orderly server fed

theorem received_keeps (server : Nat) (data : Bytes) : Within Keeps (do
    let session ← getThe Session
    if session.server = some server && !session.stopping then
      let fed := Frame.feed session.buffer data
      modifyThe Session fun session => { session with buffer := fed.buffer }
      handleFeed nested server fed : Act World Unit) := by
  refine Within.bind (within_keeps within_getSession) fun session => ?_
  split
  · refine Within.bind (fun world => keeps_of_core rfl) fun _ => ?_
    exact handleFeed_keeps orderly server _
  · exact within_pure _

theorem receive_settles (server : Nat) (data : Bytes) :
    Within Settles (receive nested server data) := by
  intro world
  rw [receive, ensures_bind]
  have arrived : Settles world (world.noting (.arrived server data)) := settles_idle trivial
  refine settles_after_disturbance (received_keeps orderly server data) arrived.keeps ?_
  exact disturbed_of_entry rfl (show Disturbs (.arrived server data) from trivial)

theorem receive_arrives (server : Nat) (data : Bytes) {world : World} (sound : Sound world) :
    Ensures (receive nested server data) world fun _ world' =>
      world.journal.entries ++ [.arrived server data] <+: world'.journal.entries := by
  rw [receive, ensures_bind]
  have arrived : Settles world (world.noting (.arrived server data)) := settles_idle trivial
  simp only [ensures_write, add_eq_noting]
  refine (received_keeps orderly server data _).mono fun _ _ kept => ?_
  exact (kept (arrived sound).1).2.journal

theorem receiveError_settles (server : Nat) (text : Text) :
    Within Settles (receiveError nested server text) := by
  refine Within.bind within_getSession fun session => ?_
  split
  · exact emitLog_settles orderly.perform _
  · exact within_pure _

theorem serverEnded_settles (server : Nat) (code : Option Int) :
    Within Settles (serverEnded nested server code) := by
  refine Within.bind within_getSession fun session => ?_
  split
  · refine Within.bind (within_record _) fun _ => ?_
    refine Within.bind (emitLog_settles orderly.perform _) fun _ => ?_
    exact stop_settles orderly _
  · exact within_pure _

/-! ## Calls of the user -/

omit orderly in
theorem adopting_keeps {world : World} (argv : List Text) : Keeps world (world.adopting argv) := by
  intro sound
  have lawful : Lawful world.journal.entries (.serving (some world.servers.length)) := sound.servers
  refine serving_keeps lawful rfl rfl rfl rfl rfl rfl ?_ ?_ rfl sound
  · simp [World.adopting, World.noting]
  · simp [World.adopting, World.noting]

theorem resetSession_keeps (root : Text) {world : World} (sound : Sound world) :
    Ensures (resetSession nested root) world fun _ world' =>
      Keeps world world' ∧ Disturbed world world' := by
  unfold resetSession
  rw [ensures_bind]
  simp only [ensures_modifySession]
  rw [ensures_bind]
  simp only [ensures_write, add_eq_noting]
  have dropped : Keeps world (World.noting { world with session := { world.session with
      root := root, buffer := [], pending := {}, documents := {}, nextId := 1
      handshakeId := none, abortRequested := false } } .dropped) :=
    dropped_keeps rfl rfl rfl rfl rfl rfl rfl
  refine (setReady_settles orderly.perform false _).mono ?_
  intro _ world' later
  refine ⟨trans_of Keeps dropped later.keeps, ?_⟩
  refine Meets.after ?_ (later (dropped sound).1).2.1
  exact disturbed_of_entry rfl (show Disturbs .dropped from trivial)

theorem beginHandshake_keeps (root : Option Text) : Within Keeps (beginHandshake nested root) := by
  have sent (params : Json) : Within Keeps
      (sendRequest nested "initialize" params (some .handshake)) := by
    refine within_keeps_of_sound fun world sound => ?_
    refine (sendRequest_moves orderly Settles.keeps id "initialize" params sound ?_).mono ?_
    · rintro _ ⟨⟩
      exact handshake_keeps
    · exact fun _ _ sent => sent.1
  refine Within.bind (sent _) fun result => ?_
  split
  · exact fun world => keeps_of_core rfl
  · refine Within.bind (within_keeps (emitLog_settles orderly.perform _)) fun _ => ?_
    exact requestAbort_keeps

theorem bringUp_keeps (command : Text) (arguments : List Text) (root : Option Text) (server : Nat) :
    Within Keeps (bringUp nested command arguments root server) := by
  refine Within.bind (within_keeps (within_record _)) fun _ => ?_
  refine Within.bind (within_keeps (spawn_within server ?_)) fun failure => ?_
  · exact modifyServer_settles server _
  split
  · refine Within.bind (within_keeps (emitLog_settles orderly.perform _)) fun _ => ?_
    exact Within.bind (within_keeps (stop_settles orderly none)) fun _ => within_pure _
  · refine Within.bind (beginHandshake_keeps orderly root) fun _ => ?_
    refine Within.bind (within_keeps (stopIfAborted_settles orderly)) fun _ => ?_
    exact Within.bind (within_keeps within_getSession) fun session => within_pure _

theorem prepare_settles (root : Text) : Within Settles (prepare nested root) := by
  refine Within.bind awaitEnding_within fun _ => within_of_sound fun world sound => ?_
  rw [ensures_bind]
  refine (resetSession_keeps orderly root sound).mono ?_
  rintro (fault | _) reset ⟨kept, disturbed⟩
  · exact kept.settles disturbed
  · exact settles_after_disturbance (within_keeps (setPhase_settles _)) kept disturbed

theorem start_settles (command : Text) (arguments : List Text) (root : Option Text) :
    Within Settles (start nested command arguments root) := by
  have begun : Within Keeps (do
      setPhase .starting
      let server ← adoptServer (command :: arguments)
      bringUp nested command arguments root server) := by
    refine Within.bind (within_keeps (setPhase_settles _)) fun _ => ?_
    refine Within.bind (fun world => adopting_keeps _) fun server => ?_
    exact bringUp_keeps orderly command arguments root server
  refine Within.bind (stop_settles orderly none) fun _ => ?_
  refine Within.bind awaitEnding_within fun _ => ?_
  refine within_of_sound fun world sound => ?_
  rw [ensures_bind]
  refine (resetSession_keeps orderly _ sound).mono ?_
  rintro (fault | _) reset ⟨kept, disturbed⟩
  · exact kept.settles disturbed
  · exact settles_after_disturbance begun kept disturbed

omit orderly in
theorem unavailable_settles (world : World) :
    Ensures unavailable world fun ending world' =>
      Settles world world' ∧
        (∀ who, Untouched world.journal.entries who → Untouched world'.journal.entries who) ∧
        world'.cast = world.cast ∧ world'.session = world.session ∧
        (ending = .ok none → world.session.server.isSome) := by
  simp only [unavailable, ensures_bind, ensures_getSession]
  cases world.session.server with
  | none => exact ⟨refl_of Settles world, fun _ => id, rfl, rfl, by rintro ⟨⟩⟩
  | some server =>
      dsimp only
      split
      · exact ⟨refl_of Settles world, fun _ => id, rfl, rfl, fun _ => rfl⟩
      · have looked : Ensures (look server) world fun _ => Settles world := look_within server world
        exact ⟨looked, fun _ untouched => untouched_snoc.mpr ⟨untouched, id⟩, rfl, rfl, fun _ => rfl⟩

/-- May the handler be passed to a request? -/
def Askable (world : World) : Handler → Prop
  | .handshake => False
  | .mailbox _ => True
  | .callback who => Untouched world.journal.entries who ∧
      ∃ callback, world.cast.callbacks[who]? = some callback ∧ callback.kind = ("handler" : Text)

omit orderly in
theorem Askable.noting {world : World} {handler : Handler} {note : Log.Record}
    (askable : Askable world handler) : Askable (world.noting (.logged note)) handler := by
  cases handler with
  | callback who => exact ⟨untouched_snoc.mpr ⟨askable.1, id⟩, askable.2⟩
  | _ => exact askable

/-- Either the request was noted, or its handler is still to be told. -/
theorem trySend_settles (method : Text) (params : Json) {handler : Option Handler} {world : World}
    (sound : Sound world) (askable : ∀ waiting ∈ handler, Askable world waiting) :
    Ensures (trySend nested method params handler) world fun ending world' =>
      Settles world world' ∧ match ending with
        | .ok (.ok id) => Noted handler id world'
        | .ok (.error _) => ∀ waiting ∈ handler, Askable world' waiting
        | .error _ => True := by
  rw [trySend, ensures_bind]
  refine (unavailable_settles world).mono ?_
  rintro ending looked ⟨settled, untouched, cast, session, served⟩
  -- looking at the server calls nobody, so the handler may still be passed on
  have still : ∀ waiting ∈ handler, Askable looked waiting := by
    intro waiting member
    have := askable waiting member
    cases waiting with
    | callback who => exact ⟨untouched who this.1, by rw [cast]; exact this.2⟩
    | _ => exact this
  match ending with
  | .error fault => exact ⟨settled, trivial⟩
  | .ok (some error) => exact ⟨settled, still⟩
  | .ok none =>
      have admissible : ∀ waiting ∈ handler, Admissible looked waiting := by
        intro waiting member
        have := still waiting member
        cases waiting with
        | handshake => exact this
        | mailbox slot => trivial
        | callback who => exact ⟨this.1, this.2, by rw [session]; exact served rfl⟩
      dsimp only
      rw [ensures_bind]
      refine (sendRequest_settles orderly method params (settled sound).1 admissible).mono ?_
      rintro ending sent ⟨later, told⟩
      have moved := trans_of Settles settled later
      match ending with
      | .error fault => exact ⟨moved, trivial⟩
      | .ok (.ok id) => exact ⟨moved, told⟩
      | .ok (.error error) =>
          obtain rfl : sent = looked := told
          dsimp only
          rw [ensures_bind]
          simp only [record, ensures_write, add_eq_noting]
          -- a request that cannot be encoded leaves the world as it is, but for the log
          have noted (note : Log.Record) : Settles sent (sent.noting (.logged note)) :=
            settles_idle trivial
          refine ⟨trans_of Settles moved (noted _), fun waiting member => ?_⟩
          exact (still waiting member).noting

/-- The callback was told that its request was refused, and was never registered. -/
def Told (handler : Option Handler) (world : World) : Prop :=
  ∀ who, handler = some (.callback who) →
    (∀ id server, .awaiting who id server ∉ world.journal.entries) ∧
      ∃ name error, .called who "handler" name (Completion.failure error).arguments ∈
        world.journal.entries

/-- The handler of a refused request is told so. -/
theorem refuse_settles {handler : Handler} {world : World} (sound : Sound world)
    (askable : Askable world handler) (error : Json) :
    Ensures (complete nested handler (Completion.failure error)) world fun _ world' =>
      Settles world world' ∧ Told (some handler) world' := by
  cases handler with
  | handshake => exact askable.elim
  | mailbox slot => exact ⟨settles_of_core rfl rfl rfl rfl, by rintro who ⟨⟩⟩
  | callback who =>
      obtain ⟨untouched, callback, known, kind⟩ := askable
      have called : Settles world (world.noting (.called who callback.kind callback.name
          (Completion.failure error).arguments)) := settles_refused (lt_of_known known) untouched
      rw [complete, ensures_invoke known]
      refine (proceed_settles orderly.perform _ _ _ _).mono ?_
      intro _ ended later
      obtain ⟨sound, grows, -⟩ := later (called sound).1
      refine ⟨trans_of Settles called later, ?_⟩
      rintro _ ⟨⟩
      obtain ⟨after, grown⟩ := grows.journal
      have split : ended.journal.entries = world.journal.entries ++
          .called who callback.kind callback.name (Completion.failure error).arguments :: after := by
        rw [← grown]
        simp
      rw [split]
      refine ⟨(split ▸ sound.coherent).not_awaiting_of_refused untouched, ?_⟩
      exact ⟨callback.name, error, by simp [kind]⟩

theorem request_settles (method : Text) (params : Json) {handler : Option Handler} {world : World}
    (sound : Sound world) (askable : ∀ waiting ∈ handler, Askable world waiting) :
    Ensures (request nested method params handler) world fun ending world' =>
      Settles world world' ∧ match ending with
        | .ok (some id) => Noted handler id world'
        | .ok none => Told handler world'
        | .error _ => True := by
  rw [request, ensures_bind]
  refine (trySend_settles orderly method params sound askable).mono ?_
  rintro ending sent ⟨settled, told⟩
  match ending with
  | .error fault => exact ⟨settled, trivial⟩
  | .ok (.ok id) =>
      dsimp only
      rw [ensures_bind]
      refine (stopIfAborted_settles orderly sent).mono ?_
      intro ending stopped later
      have moved := trans_of Settles settled later
      cases ending with
      | error fault => exact ⟨moved, trivial⟩
      | ok _ => exact ⟨moved, Noted.grows told (later (settled sound).1).2.1⟩
  | .ok (.error error) =>
      cases handler with
      | none => exact ⟨settled, by rintro _ ⟨⟩⟩
      | some handler =>
          dsimp only
          rw [ensures_bind]
          refine (refuse_settles orderly (settled sound).1 (told handler rfl) error).mono ?_
          rintro ending ended ⟨later, told⟩
          cases ending with
          | error fault => exact ⟨trans_of Settles settled later, trivial⟩
          | ok _ => exact ⟨trans_of Settles settled later, told⟩

theorem requestSync_settles (method : Text) (params : Json) (timeout : Option Duration) :
    Within Settles (requestSync nested method params timeout) := by
  have asked (slot : Nat) : Within Settles
      (request nested method params (some (.mailbox slot))) := by
    refine within_of_sound fun world sound => ?_
    refine (request_settles orderly method params sound ?_).mono fun _ _ sent => sent.1
    rintro _ ⟨⟩
    trivial
  refine Within.bind within_get fun world => ?_
  refine Within.bind (fun world => settles_of_core rfl rfl rfl rfl) fun _ => ?_
  refine Within.bind (asked _) fun id => ?_
  refine Within.bind (collectMail_within _ _) fun found => ?_
  split
  · exact within_pure _
  · refine Within.bind (within_ofExcept _) fun tenths => ?_
    exact Within.bind (within_record _) fun _ => within_pure _

theorem giveNotice_settles (notice : Notice) : Within Settles (giveNotice nested notice) := by
  refine Within.bind within_getSession fun session => ?_
  split
  · refine Within.bind (notify_settles orderly _ _) fun sent => ?_
    dsimp only
    split
    · refine Within.bind (fun world => settles_of_core rfl rfl rfl rfl) fun _ => ?_
      exact stopIfAborted_settles orderly
    · exact stopIfAborted_settles orderly
  · exact within_pure _

end

/-! ## Listeners -/

theorem known_adding {world : World} {who : Nat} {callback other : Callback Step}
    (known : world.cast.callbacks[who]? = some callback) :
    (world.adding other).cast.callbacks[who]? = some callback := by
  rw [World.adding, List.getElem?_append_left (lt_of_known known)]
  exact known

theorem adding_settles {world : World} (callback : Callback Step) :
    Settles world (world.adding callback) := by
  intro sound
  refine ⟨{ sound with handlers := ?_, listeners := ?_, untouched := ?_, .. },
    ⟨List.prefix_rfl, List.prefix_append _ _, rfl⟩, ?_⟩
  · intro request waits
    obtain ⟨handler, known, kind⟩ := sound.handlers request waits
    exact ⟨handler, known_adding known, kind⟩
  · intro channel who subscribed
    obtain ⟨listener, known, kind⟩ := sound.listeners channel who subscribed
    exact ⟨listener, known_adding known, kind⟩
  · intro who unknown
    have longer : (world.adding callback).cast.callbacks.length =
        world.cast.callbacks.length + 1 := by simp [World.adding]
    exact sound.untouched who (by omega)
  · exact fun _ _ _ => ⟨id, rfl, rfl, rfl, List.prefix_rfl⟩

theorem channelName_ne_handler (channel : Channel) : channel.name ≠ ("handler" : Text) := by
  cases channel <;> simp [Channel.name, Text.ofString, CodePoint.ofChar]

theorem mem_subscribe {subscriptions : Subscriptions Listener} {channel other : Channel}
    {listener another : Listener}
    (member : another ∈ (subscriptions.subscribe channel listener).on other) :
    another ∈ subscriptions.on other ∨ another = listener := by
  cases channel <;> cases other <;> first
    | exact .inl member
    | simpa [Subscriptions.subscribe, Subscriptions.modify, Subscriptions.on] using member

theorem mem_unsubscribe {subscriptions : Subscriptions Listener} {channel other : Channel}
    {listener another : Listener}
    (member : another ∈ (subscriptions.unsubscribe channel listener).on other) :
    another ∈ subscriptions.on other := by
  cases channel <;> cases other <;>
    first | exact member | exact List.mem_of_mem_erase member

theorem subscribe_settles {world : World} {channel : Channel} {name : Text} {who : Nat}
    {callback : Callback Step} (known : world.cast.callbacks[who]? = some callback)
    (kind : callback.kind ≠ ("handler" : Text)) :
    Ensures (subscribe channel name (.callback who)) world fun _ => Settles world := by
  simp only [subscribe, ensures_bind, ensures_modifySubscriptions, ensures_modify]
  intro sound
  refine ⟨{ sound with listeners := ?_, .. }, ⟨List.prefix_rfl, List.prefix_rfl, rfl⟩, ?_⟩
  · intro other another subscribed
    rcases mem_subscribe subscribed with earlier | same
    · exact sound.listeners other another earlier
    · obtain rfl : another = who := by simpa using same
      exact ⟨callback, known, kind⟩
  · exact fun _ _ _ => ⟨id, rfl, rfl, rfl, List.prefix_rfl⟩

theorem unsubscribe_settles (name : Text) : Within Settles (unsubscribe name) := by
  refine Within.bind within_get fun world => ?_
  split
  · exact within_pure _
  · intro world sound
    refine ⟨{ sound with listeners := ?_, .. }, ⟨List.prefix_rfl, List.prefix_rfl, rfl⟩, ?_⟩
    · intro other another subscribed
      exact sound.listeners other another (mem_unsubscribe subscribed)
    · exact fun _ _ _ => ⟨id, rfl, rfl, rfl, List.prefix_rfl⟩

/-! ## Steps -/

theorem settles_requested {world : World} {who : Nat} {id : Option Nat}
    (known : who < world.cast.callbacks.length)
    (told : match id with
      | some id => Noted (some (.callback who)) id world
      | none => Told (some (.callback who)) world) :
    Settles world (world.noting (.requested who id)) := by
  refine settles_noting fun sound => ⟨sound.noting ?_ rfl ?_ ?_, rfl⟩
  · cases id with
    | none => exact told who rfl
    | some id => exact told who rfl
  · rintro _ rfl
    exact known
  · simp

section

variable {nested : Nested} (orderly : Orderly nested)

include orderly

theorem performRequest_settles (method : Text) (params : Json) (callback : Callback Step) :
    Within Settles (performWith nested (.request method params (some callback))) := by
  refine within_of_sound fun world sound => ?_
  rw [performWith, ensures_bind, ensures_addCallback]
  dsimp only
  rw [ensures_bind]
  have added := @adding_settles world { callback with kind := "handler" }
  have untouched := sound.untouched world.cast.callbacks.length le_rfl
  have known : (world.adding { callback with kind := "handler" }).cast.callbacks[
      world.cast.callbacks.length]? = some { callback with kind := "handler" } := by
    simp [World.adding]
  have askable : ∀ waiting ∈ some (Handler.callback world.cast.callbacks.length),
      Askable (world.adding { callback with kind := "handler" }) waiting := by
    rintro _ ⟨⟩
    exact ⟨untouched, _, known, rfl⟩
  refine (request_settles orderly method params (added sound).1 askable).mono ?_
  rintro ending sent ⟨settled, told⟩
  have moved := trans_of Settles added settled
  cases ending with
  | error fault => exact moved
  | ok id =>
      simp only [ensures_bind, ensures_write, add_eq_noting]
      have longer := (settled (added sound).1).2.1.callbacks.length_le
      refine trans_of Settles moved (settles_requested ?_ ?_)
      · exact Nat.lt_of_lt_of_le (lt_of_known known) longer
      · cases id with
        | none => exact told
        | some id => exact told

omit orderly in
theorem performSubscribe_settles (channel : Channel) (listener : Callback Step) :
    Within Settles (performWith nested (.subscribe channel listener)) := by
  intro world
  rw [performWith, ensures_bind, ensures_addCallback]
  have added := @adding_settles world { listener with kind := channel.name }
  have known : (world.adding { listener with kind := channel.name }).cast.callbacks[
      world.cast.callbacks.length]? = some { listener with kind := channel.name } := by
    simp [World.adding]
  have subscribed := @subscribe_settles _ channel listener.name _ _ known
    (channelName_ne_handler channel)
  refine Ensures.bind (subscribed.mono fun _ _ later => trans_of Settles added later) ?_
  exact fun _ _ moved => moved

theorem performWith_settles (step : Step) : Within Settles (performWith nested step) := by
  cases step with
  | start command arguments root =>
      exact Within.bind (start_settles orderly command arguments root) fun _ => within_pure _
  | stop => exact Within.bind (stop_settles orderly none) fun _ => within_pure _
  | waitReady timeout => exact Within.bind (waitReady_within timeout) fun _ => within_pure _
  | version uri => exact Within.bind within_getSession fun _ => within_pure _
  | request method params handler =>
      cases handler with
      | none =>
          refine Within.bind ?_ fun _ => within_pure _
          refine within_of_sound fun world sound => ?_
          exact (request_settles orderly method params sound (by simp)).mono fun _ _ sent => sent.1
      | some callback => exact performRequest_settles orderly method params callback
  | requestSync method params timeout =>
      exact Within.bind (requestSync_settles orderly method params timeout) fun _ => within_pure _
  | didOpen uri language text =>
      exact Within.bind (giveNotice_settles orderly (.opened uri language text)) fun _ => within_pure _
  | didChange uri text =>
      exact Within.bind (giveNotice_settles orderly (.changed uri text)) fun _ => within_pure _
  | didClose uri =>
      exact Within.bind (giveNotice_settles orderly (.closed uri)) fun _ => within_pure _
  | subscribe channel listener => exact performSubscribe_settles channel listener
  | unsubscribe name => exact Within.bind (unsubscribe_settles name) fun _ => within_pure _
  | send server message =>
      refine Within.bind (within_ofExcept _) fun data => ?_
      refine Within.bind (withServer_within fun server => ?_) fun _ => within_pure _
      exact receive_settles orderly server data
  | raw server data =>
      refine Within.bind (withServer_within fun server => ?_) fun _ => within_pure _
      exact receive_settles orderly server data
  | stderr server text =>
      refine Within.bind (withServer_within fun server => ?_) fun _ => within_pure _
      exact receiveError_settles orderly server text
  | exit server code =>
      refine Within.bind (withServer_within fun server => ?_) fun _ => within_pure _
      exact Within.bind (modifyServer_settles server _) fun _ => serverEnded_settles orderly server code
  | onExit server code =>
      refine Within.bind (withServer_within fun server => ?_) fun _ => within_pure _
      exact serverEnded_settles orderly server code
  | set server running change =>
      refine Within.bind (withServer_within fun server => ?_) fun _ => within_pure _
      exact modifyServer_settles server _
  | setFactory change =>
      exact Within.bind (fun world => settles_of_core rfl rfl rfl rfl) fun _ => within_pure _

end

theorem receiveTooDeep_within {relation : World → World → Prop} [IsPreorder World relation]
    (arrives : ∀ (world : World) server data, relation world (world.noting (.arrived server data)))
    (server : Nat) (data : Bytes) : Within relation (receiveTooDeep server data) := by
  refine Within.bind (fun world => arrives world server data) fun _ => ?_
  refine Within.bind (fun world => refl_of relation world) fun session => ?_
  split
  · exact within_throw _
  · exact within_pure _

theorem receiveTooDeep_arrives (server : Nat) (data : Bytes) (world : World) :
    Ensures (receiveTooDeep server data) world fun _ world' =>
      world' = world.noting (.arrived server data) := by
  rw [receiveTooDeep, ensures_bind]
  simp only [ensures_write, add_eq_noting]
  rw [ensures_bind]
  simp only [ensures_getSession]
  split
  · rfl
  · rfl

theorem nestedCalls_orderly (depth : Nat) : Orderly (nestedCalls depth) := by
  induction depth with
  | zero =>
      refine ⟨fun step => within_throw _, fun server data => ?_, fun server data world _ => ?_⟩
      · exact receiveTooDeep_within (fun _ _ _ => settles_idle trivial) server data
      · refine (receiveTooDeep_arrives server data world).mono ?_
        rintro _ _ rfl
        exact List.prefix_rfl
  | succ depth ih => 
      refine ⟨performWith_settles ih, receive_settles ih, fun server data world sound => ?_⟩
      exact receive_arrives ih server data sound

end Client

end LanguageSession
