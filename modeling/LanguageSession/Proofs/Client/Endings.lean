import Mathlib
import LanguageSession.Proofs.Client.Alike

/-!
# How a session ends, whatever its process does

While a session ends, what its process writes is dropped, so a process may reply inside a
write as it likes.  When no listener and no handler calls the client, a session that is
stopped has ended, and nothing but the closing of its process can fail.
-/

namespace LanguageSession

namespace Client

open Act

/-! ## Callbacks that do not call -/

def Scriptless (world : World) : Prop := ∀ callback ∈ world.cast.callbacks, callback.script = []

instance (world : World) : Decidable (Scriptless world) :=
  inferInstanceAs (Decidable (∀ callback ∈ world.cast.callbacks, callback.script = []))

def SameConduct (world world' : World) : Prop :=
  ∀ server, (world'.server? server).map Server.conduct = (world.server? server).map Server.conduct

theorem sameConduct_modifying (world : World) (server : Nat) {change : Server → Server}
    (alike : ∀ process, (change process).conduct = process.conduct) :
    SameConduct world (world.modifyServer server change) := by
  intro other
  simp only [World.server?, World.modifyServer, List.getElem?_modify]
  cases world.servers[other]? with
  | none => rfl
  | some process =>
      by_cases same : server = other
      · simp [same, alike]
      · simp [same]

instance : Tolerant SameConduct where
  refl _ _ := rfl
  trans _ _ _ before after server := (after server).trans (before server)
  noting _ _ _ _ := rfl
  modifying world server _ weakens :=
    sameConduct_modifying world server fun process => (weakens process).1

/-- The session is left as it is, and so are the scripts and the conduct of the processes. -/
structure Muted (world world' : World) : Prop where
  scriptless : Scriptless world'
  session : world'.session = world.session
  conduct : SameConduct world world'

def Mutes (world world' : World) : Prop := Scriptless world → Muted world world'

theorem mutes_noting (world : World) (entry : Entry) : Mutes world (world.noting entry) :=
  fun scriptless => ⟨scriptless, rfl, fun _ => rfl⟩

instance : Tolerant Mutes where
  refl world scriptless := ⟨scriptless, rfl, refl_of SameConduct world⟩
  trans first second third before after scriptless := by
    obtain ⟨scriptless, same, conduct⟩ := before scriptless
    obtain ⟨scriptless, later, conduct'⟩ := after scriptless
    exact ⟨scriptless, later.trans same, trans_of SameConduct conduct conduct'⟩
  noting world entry _ := mutes_noting world entry
  modifying world server change weakens scriptless :=
    ⟨scriptless, rfl, Tolerant.modifying world server change weakens⟩

section

variable {nested : Nested}

theorem invoke_mutes (perform : Step → Act World Json) (who : Nat) (arguments : List Json) :
    Within Mutes (invoke Step.operation perform who arguments) := by
  intro world
  cases known : world.cast.callbacks[who]? with
  | none =>
      simp only [invoke, ensures_bind, ensures_getCast, known]
      exact refl_of Mutes world
  | some callback =>
      intro scriptless
      have idle := scriptless callback (List.mem_of_getElem? known)
      obtain ⟨-, same⟩ : Ensures (invoke Step.operation perform who arguments) world _ :=
        invoke_idle arguments known (.inl idle)
      rw [same]
      exact ⟨scriptless, rfl, fun _ => rfl⟩

theorem tell_mutes (listener : Listener) (event : Event) :
    Within Mutes (tell nested listener event) := by
  cases listener with
  | callback who => exact invoke_mutes _ who _
  | echo =>
      cases event with
      | log text => exact within_write trivial
      | _ => exact within_pure _
  | collect =>
      cases event with
      | diagnostics uri items => exact fun world scriptless => ⟨scriptless, rfl, fun _ => rfl⟩
      | _ => exact within_pure _

theorem emit_mutes (event : Event) : Within Mutes (emit nested event) := fun _ =>
  ensures_emit Mutes fun listener _ world' _ => tell_mutes listener event world'

theorem emitLog_mutes (text : Text) : Within Mutes (emitLog nested text) :=
  Within.bind (within_record _) fun _ => emit_mutes _

/-! ## A session that is ending -/

structure Fading (world : World) : Prop where
  scriptless : Scriptless world
  stopping : world.session.stopping = true

/-- The action ends well, and the session is still ending. -/
def Fades {α : Type} (action : Act World α) : Prop :=
  ∀ world, Fading world → Ensures action world fun ending world' =>
    (∃ value, ending = .ok value) ∧ Fading world' ∧ SameConduct world world'

theorem Fades.bind {α β : Type} {action : Act World α} {next : α → Act World β}
    (first : Fades action) (second : ∀ value, Fades (next value)) : Fades (action >>= next) := by
  intro world fading
  rw [ensures_bind]
  refine (first world fading).mono ?_
  rintro _ middle ⟨⟨value, rfl⟩, fading, conduct⟩
  refine (second value middle fading).mono ?_
  rintro ending world' ⟨ends, fading, conduct'⟩
  exact ⟨ends, fading, trans_of SameConduct conduct conduct'⟩

theorem fades_of_mutes {α : Type} {action : Act World α} (succeeds : Succeeds action)
    (mutes : Within Mutes action) : Fades action := by
  intro world fading
  obtain ⟨scriptless, same, conduct⟩ := mutes world fading.scriptless
  exact ⟨succeeds world, ⟨scriptless, same ▸ fading.stopping⟩, conduct⟩

theorem fades_pure {α : Type} (value : α) : Fades (pure value : Act World α) :=
  fades_of_mutes (succeeds_pure value) (within_pure value)

theorem fades_getSession {α : Type} {next : Session → Act World α}
    (each : ∀ session, Fades (next session)) : Fades (getThe Session >>= next) :=
  Fades.bind (fades_of_mutes getSession_succeeds within_getSession) each

theorem fades_record (note : Log.Record) : Fades (record note : Act World Unit) :=
  fades_of_mutes (record_succeeds note) (within_record note)

theorem fades_modifyServer (server : Nat) {change : Server → Server} (weakens : Weakens change) :
    Fades (modifyThe World (World.modifyServer server change) : Act World Unit) :=
  fades_of_mutes (succeeds_modify _) (within_modifyServer server weakens)

theorem fades_write (entry : Entry) : Fades (write entry : Act World Unit) :=
  fades_of_mutes (succeeds_write entry) fun world => mutes_noting world entry

theorem fades_modifySession {change : Session → Session}
    (stopping : ∀ session, (change session).stopping = session.stopping) :
    Fades (modifyThe Session change : Act World Unit) :=
  fun _ fading => ⟨⟨(), rfl⟩, ⟨fading.scriptless, (stopping _).trans fading.stopping⟩,
    fun _ => rfl⟩

theorem setPhase_fades (phase : Phase) : Fades (setPhase phase) := by
  refine fades_getSession fun session => ?_
  split
  · exact fades_pure _
  · exact Fades.bind (fades_record _) fun _ => fades_modifySession fun _ => rfl

theorem receive_fades (server : Nat) (data : Bytes) : Fades (receive nested server data) := by
  intro world fading
  rw [ensures_receive_dropped (by simp [fading.stopping])]
  exact ⟨⟨(), rfl⟩, ⟨fading.scriptless, fading.stopping⟩, fun _ => rfl⟩

variable (deaf : ∀ server data, Fades (nested.receive server data))

include deaf

theorem deliver_fades (server : Nat) (message : Json) (data : Bytes) :
    Fades (deliver nested server message data) := by
  have replies (list : List Bytes) : Fades (list.forM (nested.receive server)) := by
    induction list with
    | nil => exact fades_pure _
    | cons data list ih => exact Fades.bind (deaf server data) fun _ => ih
  refine Fades.bind (fades_of_mutes succeeds_get within_get) fun world => ?_
  split
  · exact fades_pure _
  · refine Fades.bind (fades_modifyServer server fun _ => ⟨rfl, id⟩) fun _ => ?_
    split
    · exact Fades.bind (fades_write _) fun _ => fades_pure _
    · refine Fades.bind (fades_write _) fun _ => ?_
      refine Fades.bind (fades_modifyServer server (accept_weakens message)) fun _ => ?_
      exact Fades.bind (replies _) fun _ => fades_pure _

theorem writeMessage_fades (message : Json) (data : Bytes) :
    Fades (writeMessage nested message data) := by
  refine fades_getSession fun session => ?_
  split
  · exact fades_pure _
  · next server _ =>
    refine Fades.bind (fades_of_mutes (look_succeeds server) (look_within server)) fun running => ?_
    split
    · refine Fades.bind (deliver_fades deaf server message data) fun failure => ?_
      cases failure with
      | none => exact fades_record _
      | some reason =>
          refine Fades.bind (fades_of_mutes (emitLog_succeeds _) (emitLog_mutes _)) fun _ => ?_
          exact fades_modifySession fun _ => rfl
    · exact fades_pure _

theorem sendNotification_fades (method : Text) (params : Json) :
    Fades (sendNotification nested method params) := by
  unfold sendNotification
  dsimp only
  split
  · exact fades_pure _
  · exact Fades.bind (writeMessage_fades deaf _ _) fun _ => fades_pure _

theorem sendRequest_fades (method : Text) (params : Json) :
    Fades (sendRequest nested method params none) := by
  refine fades_getSession fun session => ?_
  dsimp only
  split
  · exact fades_pure _
  · refine Fades.bind (fades_modifySession fun _ => rfl) fun _ => ?_
    exact Fades.bind (writeMessage_fades deaf _ _) fun _ => fades_pure _

theorem askToEnd_fades (server : Nat) : Fades (askToEnd nested server) := by
  have asks (session : Session) (running : Bool) : Fades (if (running && !session.abortRequested) =
      true then do
        setPhase .shuttingDown
        let _ ← sendRequest nested "shutdown" .null none
        let _ ← sendNotification nested "exit" .null
        return true
      else return false) := by
    split
    · refine Fades.bind (setPhase_fades _) fun _ => ?_
      refine Fades.bind (sendRequest_fades deaf _ _) fun _ => ?_
      exact Fades.bind (sendNotification_fades deaf _ _) fun _ => fades_pure _
    · exact fades_pure _
  refine fades_getSession fun session => ?_
  split
  · exact Fades.bind (fades_of_mutes (look_succeeds server) (look_within server)) (asks session)
  · exact Fades.bind (fades_pure false) (asks session)

omit deaf

/-! ## A session that has ended -/

theorem SameConduct.count {world world' : World} (same : SameConduct world world') :
    world'.servers.length = world.servers.length := by
  have unmade (server : Nat) :
      world'.servers.length ≤ server ↔ world.servers.length ≤ server := by
    have alike : (world'.servers[server]?).map Server.conduct =
        (world.servers[server]?).map Server.conduct := same server
    rw [← List.getElem?_eq_none_iff, ← Option.map_eq_none_iff, alike, Option.map_eq_none_iff,
      List.getElem?_eq_none_iff]
  exact le_antisymm ((unmade _).mpr le_rfl) ((unmade _).mp le_rfl)

def Closable (server : Nat) (world : World) : Prop :=
  ∀ process ∈ world.server? server, process.conduct.refusesClose = none

instance (server : Nat) (world : World) : Decidable (Closable server world) :=
  inferInstanceAs (Decidable (∀ process ∈ world.server? server, _))

theorem SameConduct.closable {world world' : World} {server : Nat}
    (same : SameConduct world world') (closable : Closable server world) :
    Closable server world' := by
  intro process known
  have behaves : some process.conduct = (world.server? server).map Server.conduct := by
    rw [← same server, Option.mem_def.mp known, Option.map_some]
  obtain ⟨before, found, conduct⟩ := Option.map_eq_some_iff.mp behaves.symm
  exact conduct ▸ closable before found

theorem Closable.refuses {server : Nat} {world : World} (closable : Closable server world) :
    ((world.server? server).bind fun process => process.conduct.refusesClose) = none := by
  rw [Option.bind_eq_none_iff]
  exact closable

/-- Nothing but the closing of a process can fail. -/
theorem dismiss_ends {world : World} {server : Nat} (graceful : Bool)
    (closable : Closable server world) :
    Ensures (dismiss server graceful) world fun ending _ => ending = .ok () := by
  have closes (world : World) (closable : Closable server world) :
      Ensures (close server) world fun ending _ => ending = .ok () := by
    have refuses : ((world.noting (.closed server)).server? server).bind _ = none :=
      closable.refuses
    simp only [close, ensures_bind, ensures_write, add_eq_noting, ensures_get, refuses]
    rfl
  have waits (timeout : Duration) : Succeeds (wait server timeout) :=
    Succeeds.bind (succeeds_write _) fun _ => succeeds_modify _
  have kills : Within SameConduct (kill server) :=
    Within.bind (fun _ _ => rfl) fun _ => within_modifyServer _ kill_weakens
  have kept {α : Type} {action : Act World α} (within : Within SameConduct action) (world : World)
      (closable : Closable server world) : Ensures action world fun _ => Closable server :=
    (within world).mono fun _ _ same => same.closable closable
  have forced (world : World) (closable : Closable server world) (grace : Duration) :
      Ensures (look server >>= fun running =>
        if running = true then do
          kill server
          wait server grace
          close server
        else close server) world fun ending _ => ending = .ok () := by
    refine (look_succeeds server).ensures_bind (kept (look_within server) world closable) ?_
    intro running looked closable
    split
    · refine Succeeds.ensures_bind ?_ (kept kills looked closable) fun _ killed closable => ?_
      · exact Succeeds.bind (succeeds_write _) fun _ => succeeds_modify _
      · refine (waits grace).ensures_bind (kept (wait_within _ _) killed closable) ?_
        exact fun _ => closes
    · exact closes looked closable
  unfold dismiss
  rw [ensures_bind, ensures_get]
  dsimp only
  split
  · refine (waits _).ensures_bind (kept (wait_within _ _) world closable) ?_
    exact fun _ waited closable => forced waited closable _
  · exact forced world closable _

theorem dismiss_mutes (server : Nat) (graceful : Bool) :
    Within Mutes (dismiss server graceful) :=
  dismiss_within server graceful (fun world => mutes_noting world _)
    fun world => mutes_noting world _

/-- A session without a server, of which nothing is under way. -/
structure Cleared (session : Session) : Prop where
  server : session.server = none
  ready : session.ready = false
  stopping : session.stopping = false
  pending : session.pending.entries = []

theorem Rest.cleared {session : Session} (rest : Rest session) (unserved : session.server = none) :
    Cleared session :=
  ⟨unserved, (rest.vacant unserved).ready, rest.stopping, (rest.vacant unserved).pending⟩

/-- After an action that ended well, the session has ended. -/
structure Over (world : World) (ending : Except Fault Unit) (world' : World) : Prop where
  ends : ending = .ok ()
  cleared : Cleared world'.session
  conduct : SameConduct world world'

variable {world : World}

theorem unready_mutes (scriptless : Scriptless world) :
    Ensures (setReady nested false) world fun ending world' => ending = .ok () ∧
      SameConduct world world' ∧ world'.session = { world.session with ready := false } := by
  unfold setReady
  rw [ensures_bind, ensures_getSession]
  dsimp only
  split
  · next unready =>
    have same : world.session = { world.session with ready := false } := by rw [← unready]
    exact ⟨rfl, refl_of SameConduct world, same⟩
  · rw [ensures_bind, ensures_modifySession]
    have succeeds : Succeeds (emit nested (.ready false)) := emit_succeeds _
    let marked : World := { world with session := { world.session with ready := false } }
    have muted : Ensures (emit nested (.ready false)) marked fun _ => Muted marked :=
      emit_mutes (.ready false) marked scriptless
    obtain ⟨_, ends⟩ := succeeds marked
    exact ⟨ends, muted.conduct, muted.session⟩

theorem forget_clears (server : Nat) (scriptless : Scriptless world) :
    Ensures (forget nested server) world (Over world) := by
  have settled (start : World) (scriptless : Scriptless start)
      (unserved : start.session.server = none) (unawaited : start.session.pending.entries = []) :
      Ensures (do
        setReady nested false
        setPhase .stopped
        modifyThe Session fun session => { session with stopping := false } : Act World Unit) start
        (Over start) := by
    rw [ensures_bind]
    refine (unready_mutes scriptless).mono ?_
    rintro _ unready ⟨rfl, conduct, same⟩
    have left : unready.session.server = none ∧ unready.session.ready = false ∧
        unready.session.pending.entries = [] := by
      rw [same]
      exact ⟨unserved, rfl, unawaited⟩
    simp only [setPhase, ensures_bind, ensures_getSession]
    split
    · exact ⟨rfl, ⟨left.1, left.2.1, rfl, left.2.2⟩, conduct⟩
    · exact ⟨rfl, ⟨left.1, left.2.1, rfl, left.2.2⟩, conduct⟩
  unfold forget
  rw [ensures_bind]
  simp only [ensures_get]
  rw [ensures_bind]
  simp only [record, ensures_write, add_eq_noting]
  rw [ensures_bind]
  simp only [ensures_modifySession]
  rw [ensures_bind]
  simp only [ensures_write, add_eq_noting]
  rw [ensures_bind]
  simp only [ensures_write, add_eq_noting]
  refine (settled _ ?_ ?_ ?_).mono ?_
  · exact scriptless
  · rfl
  · rfl
  · exact fun _ _ ended => ⟨ended.ends, ended.cleared, ended.conduct⟩

/-- When a session at rest is stopped, it ends well if its process can be closed. -/
theorem stop_clears (deaf : ∀ server data, Fades (nested.receive server data))
    (scriptless : Scriptless world) (rest : Rest world.session)
    (closable : ∀ server ∈ world.session.server, Closable server world) :
    Ensures (stop nested none) world (Over world) := by
  unfold stop
  rw [ensures_bind, ensures_getSession]
  cases served : world.session.server with
  | none =>
      simp only [served]
      exact ⟨rfl, rest.cleared served, refl_of SameConduct world⟩
  | some server =>
      simp only [served, rest.stopping, Option.any_none, Bool.or_self, Bool.false_eq_true, if_false]
      simp only [endSession, ensures_bind, ensures_modifySession, ensures_write, add_eq_noting]
      refine (askToEnd_fades deaf server _ ?_).mono ?_
      · exact ⟨scriptless, rfl⟩
      · rintro _ asked ⟨⟨graceful, rfl⟩, fading, conduct⟩
        dsimp only
        have closable : Closable server asked := conduct.closable (closable server served)
        rw [ensures_tryCatch]
        refine ((dismiss_ends graceful closable).and
          (dismiss_mutes server graceful asked)).mono ?_
        rintro _ dismissed ⟨rfl, mutes⟩
        have muted := mutes fading.scriptless
        have still := trans_of SameConduct conduct muted.conduct
        refine (forget_clears server muted.scriptless).mono ?_
        exact fun _ _ ended =>
          ⟨ended.ends, ended.cleared, trans_of SameConduct still ended.conduct⟩

end

end Client

end LanguageSession
