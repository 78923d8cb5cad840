import Mathlib
import LanguageSession.Proofs.Client.Passages

/-!
# Every operation goes onward

The operations are taken in the order in which they are defined, each from the ones it is
made of.  What they assume of nested calls they give back, so that the depth of nested calls
is the induction at the end.
-/

namespace LanguageSession

namespace Client

open Act

/-! ## Handing over -/

section

variable {law : View → Prop} {started : Prop} {base world after : World} {message : Json}
  {ending : Except Fault Unit}

/-- The call goes onward, and does not fail while the session is ending. -/
def Assured (law : View → Prop) (base : World) {α : Type} (ending : Except Fault α)
    (world : World) : Prop :=
  Onward law False base world ∧ (base.session.stopping = true → ∃ value, ending = .ok value)

theorem Handed.unreturned {server : Option Nat} {added : List Entry}
    (handed : Handed server message added) (result : Json) : .did "stop" result ∉ added := by
  cases handed <;> simp

theorem Handed.silent {server : Option Nat} {added : List Entry}
    (handed : Handed server message added) (nobody : server = none) :
    ∀ entry ∈ added, ¬ HandsOver entry := by
  cases handed with
  | unserved nobody => simp
  | ended number served => simp [HandsOver]
  | taken number data note served =>
      rw [nobody] at served
      cases served

variable [Upheld law]

theorem Wrote.onward (wrote : Wrote law world message ending after) (governed : Governed law world)
    (other : documentMethod? message = none) : Onward law False world after := by
  cases wrote with
  | calm after added view handed =>
      have move : Move law world.view after.view := view ▸ .told message added other handed
      exact governed.onward.move move
        (passage_of_noting view handed.steadfast handed.unreturned handed.silent)
  | interrupted ending after server added served onward since interrupted ends aborts =>
      exact onward

omit [Upheld law] in
theorem Wrote.ends (wrote : Wrote law world message ending after)
    (stopping : world.session.stopping = true) : ending = .ok () := by
  cases wrote with
  | calm after added view handed => rfl
  | interrupted ending after server added served onward since interrupted ends aborts =>
      exact ends stopping

end

section

variable {law : View → Prop} [Upheld law] {started : Prop} {base world : World}
  {nested nested' : Nested} (paired : Paired law nested nested')

include paired

theorem told_mirrors {message : Json} (governed : Governed law world) (data : Bytes)
    (other : documentMethod? message = none) :
    Mirrors (writeMessage nested message data) (writeMessage nested' message data) world
      (Assured law world) := by
  refine (writeMessage_mirrors paired governed data (due_of_other other)).mono
    fun ending after wrote => ?_
  exact ⟨wrote.onward governed other, fun stopping => ⟨(), wrote.ends stopping⟩⟩

omit paired [Upheld law] in
theorem Assured.later {α : Type} {middle after : World} {ending : Except Fault α}
    (assured : Assured law middle ending after) (onward : Onward law False world middle) :
    Assured law world ending after :=
  ⟨onward.trans assured.1, fun stopping => assured.2 (onward.stopping.trans stopping)⟩

omit paired in
/-- Only with a server does anyone begin to wait. -/
theorem await_mirrors (onward : Onward law started base world) (id : Nat) (handler : Handler)
    (served : world.session.server ≠ none) :
    Mirrors (await id handler) (await id handler) world fun ending after =>
      Onward law started base after ∧ ending = .ok () := by
  refine .same ((ensures_await id handler _).mpr ⟨?_, rfl⟩)
  cases handler with
  | callback who =>
      refine @Onward.aside _ _ _ _ _ _ [.awaiting who id world.session.server] onward rfl
        (fun nobody => (served nobody).elim) ?_ ?_ rfl rfl rfl
      · simp [Minor]
      · simp
  | handshake =>
      exact onward.aside rfl (fun nobody => (served nobody).elim) (by simp) (by simp)
        (List.append_nil _).symm rfl rfl
  | mailbox slot =>
      exact onward.aside rfl (fun nobody => (served nobody).elim) (by simp) (by simp)
        (List.append_nil _).symm rfl rfl

theorem sendRequest_mirrors (governed : Governed law world) (method : Text) (params : Json)
    {handler : Option Handler} (served : handler ≠ none → world.session.server ≠ none) :
    Mirrors (sendRequest nested method params handler) (sendRequest nested' method params handler)
      world (Assured law world) := by
  unfold sendRequest
  rw [mirrors_getSession]
  dsimp only
  split
  · exact .same ⟨governed.onward, fun _ => ⟨_, rfl⟩⟩
  · next data encoded =>
    rw [mirrors_modifySession]
    have onward : Onward law False world
        { world with session := { world.session with nextId := world.session.nextId + 1 } } :=
      governed.onward.aside rfl (fun _ => ⟨List.Subset.refl _, rfl⟩) (by simp) (by simp)
        (List.append_nil _).symm rfl rfl
    have written : ∀ middle, Onward law False world middle → Mirrors
        (do
          writeMessage nested
            (Message.request (.nat world.session.nextId) (.string method) params) data
          return .ok world.session.nextId)
        (do
          writeMessage nested'
            (Message.request (.nat world.session.nextId) (.string method) params) data
          return .ok world.session.nextId)
        middle (Assured law world : Except Fault (Except EncodeError Nat) → World → Prop) := by
      intro middle onward
      refine (told_mirrors paired onward.toGoverned data (documentMethod?_request _ _ _)).bind ?_ ?_
      · intro fault after assured
        refine ⟨(assured.later onward).1, fun stopping => ?_⟩
        obtain ⟨_, ⟨⟩⟩ := (assured.later onward).2 stopping
      · intro _ after assured
        exact .same ⟨(assured.later onward).1, fun _ => ⟨_, rfl⟩⟩
    cases handler with
    | none => exact written _ onward
    | some handler =>
        refine (await_mirrors onward world.session.nextId handler (served (by simp))).bind ?_ ?_
        · rintro fault after ⟨-, ⟨⟩⟩
        · rintro _ after ⟨onward, -⟩
          exact written after onward

/-- How a notification ends. -/
inductive Notified (law : View → Prop) (world : World) (message : Json) :
    Except Fault (Except EncodeError Unit) → World → Prop
  | unencodable (error : EncodeError) : Notified law world message (.ok (.error error)) world
  | written (ending : Except Fault Unit) (sent : Except Fault (Except EncodeError Unit))
      (after : World) (same : sent = ending.map .ok)
      (wrote : Wrote law world message ending after) : Notified law world message sent after

theorem sendNotification_mirrors (governed : Governed law world) (method : Text) (params : Json)
    (due : Due world.session (Message.notification method params)) :
    Mirrors (sendNotification nested method params) (sendNotification nested' method params) world
      (Notified law world (Message.notification method params)) := by
  unfold sendNotification
  dsimp only
  split
  · next error encoded => exact .same (.unencodable error)
  · next data encoded =>
    refine (writeMessage_mirrors paired governed data due).bind ?_ ?_
    · intro fault after wrote
      exact .written (.error fault) _ after rfl wrote
    · intro _ after wrote
      exact .same (.written (.ok ()) _ after rfl wrote)

theorem announce_mirrors (governed : Governed law world) (method : Text) (params : Json)
    (other : documentMethod? (Message.notification method params) = none) :
    Mirrors (sendNotification nested method params) (sendNotification nested' method params) world
      (Assured law world) := by
  refine (sendNotification_mirrors paired governed method params (due_of_other other)).mono ?_
  intro ending after notified
  cases notified with
  | unencodable error => exact ⟨governed.onward, fun _ => ⟨_, rfl⟩⟩
  | written ending sent after same wrote =>
      refine ⟨wrote.onward governed other, fun stopping => ?_⟩
      rw [same, wrote.ends stopping]
      exact ⟨_, rfl⟩

/-- A notification that cannot be encoded is dropped, and that is noted. -/
theorem notify_mirrors (governed : Governed law world) (method : Text) (params : Json)
    (due : Due world.session (Message.notification method params)) :
    Mirrors (notify nested method params) (notify nested' method params) world fun ending after =>
      (ending = .ok false ∧ ∃ note, after = world.noting (.logged note)) ∨
      ∃ written, ending = written.map (fun _ => true) ∧
        Wrote law world (Message.notification method params) written after := by
  unfold notify
  refine (sendNotification_mirrors paired governed method params due).bind ?_ ?_
  · intro fault after notified
    cases notified with
    | written ending sent after same wrote =>
      cases ending with
      | ok value => cases same
      | error fault' =>
          cases same
          exact .inr ⟨.error fault, rfl, wrote⟩
  · intro sent after notified
    cases notified with
    | unencodable error => exact .same (.inl ⟨rfl, _, rfl⟩)
    | written ending sent after same wrote =>
      cases ending with
      | error fault => cases same
      | ok value =>
          cases same
          exact .same (.inr ⟨.ok (), rfl, wrote⟩)

end

/-! ## Stopping -/

section

variable {world : World}

theorem setPhase_views (phase : Phase) (world : World) :
    Ensures (setPhase phase) world fun ending after => ending = .ok () ∧
      ∃ notes : List Log.Record, after.view = { world.view with
        session := { world.session with phase := phase }
        entries := world.journal.entries ++ notes.map .logged } := by
  simp only [setPhase, ensures_bind, ensures_getSession]
  split
  · next same =>
    subst same
    refine ⟨rfl, [], ?_⟩
    change world.view = _
    simp [World.view]
  · exact ⟨rfl, [_], rfl⟩

theorem ensures_wait (server : Nat) (timeout : Duration)
    (post : Except Fault Unit → World → Prop) : Ensures (wait server timeout) world post ↔
      post (.ok ()) ((world.noting (.waited server timeout)).modifyServer server Server.settle) :=
  Iff.rfl

theorem ensures_kill (server : Nat) (post : Except Fault Unit → World → Prop) :
    Ensures (kill server) world post ↔
      post (.ok ()) ((world.noting (.killed server)).modifyServer server Server.kill) := Iff.rfl

/-- Whether or not it can be closed, the server is dismissed. -/
theorem dismiss_views (server : Nat) (graceful : Bool) (world : World) :
    Ensures (dismiss server graceful) world fun _ after =>
      ∃ running, after.view = world.view.noting
        (dismissal world.settings server graceful running) := by
  have closes (middle : World) : Ensures (close server) middle fun _ after =>
      after.view = middle.view.noting [.closed server] := by
    simp only [close, ensures_bind, ensures_write, ensures_get]
    split
    · rfl
    · rfl
  have forced (middle : World) : Ensures (look server >>= fun running =>
      if running = true then do
        kill server
        wait server world.settings.killGrace
        close server
      else close server) middle fun _ after => ∃ running, after.view =
        middle.view.noting (dismissal world.settings server false running) := by
    rw [ensures_bind, ensures_look]
    dsimp only
    have looked := view_looking middle server
    generalize (middle.looking server).isRunning server = running at looked
    cases running with
    | true =>
        simp only [if_true, ensures_bind, ensures_kill, ensures_wait]
        refine (closes _).mono fun _ after closed => ⟨true, ?_⟩
        rw [closed, view_modifyServer, view_noting, view_modifyServer, view_noting, looked]
        simp [dismissal]
    | false =>
        refine (closes _).mono fun _ after closed => ⟨false, ?_⟩
        rw [closed, looked]
        simp [dismissal]
  simp only [dismiss, ensures_bind, ensures_get]
  cases graceful with
  | false => exact forced world
  | true =>
      rw [if_pos rfl, ensures_bind, ensures_wait]
      refine (forced _).mono fun _ after ended => ?_
      obtain ⟨running, ended⟩ := ended
      refine ⟨running, ?_⟩
      rw [ended, view_modifyServer]
      simp [dismissal, View.noting]

end

/-- The session was left, and what was noted since tells whether it has a server again. -/
structure Departed (law : View → Prop) (base world : World) : Prop extends Governed law world where
  going : world.session.stopping = false
  unready : world.session.ready = false
  settings : world.settings = base.settings
  made : base.servers.length ≤ world.servers.length
  since : ∃ added, world.journal.entries = base.journal.entries ++ added ∧
    (∀ server, .serving (some server) ∈ added → .doing "start" ∈ added) ∧
    ((∀ server, .serving (some server) ∉ added) → world.session.server = none ∧
      ∀ before result after, added = before ++ .did "stop" result :: after →
        underway (base.journal.entries ++ before) = false → ∀ entry ∈ after, ¬ HandsOver entry)

def World.unready (world : World) : World :=
  { world with session := { world.session with ready := false } }

/-- The view after its server was dismissed and forgotten. -/
def View.departed (view : View) (server : Nat) (graceful running : Bool) (note : Log.Record) :
    View :=
  { view with
    session := view.session.left
    entries := view.entries ++ departure view.settings server graceful running note }

theorem not_serving_departure (settings : Settings) (server : Nat) (graceful running : Bool)
    (note : Log.Record) (other : Nat) :
    .serving (some other) ∉ departure settings server graceful running note := by
  intro member
  simp only [departure, List.mem_append, List.mem_cons, List.not_mem_nil, or_false,
    Entry.serving.injEq, reduceCtorEq] at member
  rcases mem_dismissal member with ⟨_, ⟨⟩⟩ | ⟨⟨⟩⟩ | ⟨⟨⟩, -⟩ | ⟨⟨⟩⟩

theorem not_returned_departure (settings : Settings) (server : Nat) (graceful running : Bool)
    (note : Log.Record) (operation : Text) (result : Json) :
    .did operation result ∉ departure settings server graceful running note := by
  intro member
  simp only [departure, List.mem_append, List.mem_cons, List.not_mem_nil, or_false,
    reduceCtorEq] at member
  rcases mem_dismissal member with ⟨_, ⟨⟩⟩ | ⟨⟨⟩⟩ | ⟨⟨⟩, -⟩ | ⟨⟨⟩⟩

theorem mem_of_mem_after {early late before after : List Entry} {entry other : Entry}
    (split : early ++ late = before ++ entry :: after) (absent : entry ∉ early)
    (member : other ∈ after) : other ∈ late := by
  rcases List.append_eq_append_iff.mp split with ⟨middle, -, ends⟩ | ⟨middle, begins, ends⟩
  · rw [ends]
    exact List.mem_append_right _ (List.mem_cons_of_mem _ member)
  · rcases List.append_eq_cons_iff.mp ends.symm with ⟨-, ends⟩ | ⟨rest, rfl, -⟩
    · exact ends ▸ List.mem_cons_of_mem _ member
    · exact (absent (by simp [begins])).elim

section

variable {law : View → Prop} [Upheld law] {started : Prop} {base world : World}
  {nested nested' : Nested}

omit [Upheld law] in
theorem Departed.after (left : Departed law world base) {earlier : World} {added : List Entry}
    (entries : world.journal.entries = earlier.journal.entries ++ added)
    (settings : world.settings = earlier.settings)
    (made : earlier.servers.length ≤ world.servers.length)
    (taken : ∀ server, .serving (some server) ∈ added → .doing "start" ∈ added)
    (ending : ∀ before result after, added = before ++ .did "stop" result :: after →
      underway (earlier.journal.entries ++ before) = true) :
    Departed law earlier base := by
  obtain ⟨later, grown, taken', untaken'⟩ := left.since
  refine ⟨left.toGoverned, left.going, left.unready, left.settings.trans settings,
    made.trans left.made, added ++ later, ?_, fun server member => ?_, fun untaken => ?_⟩
  · rw [grown, entries, List.append_assoc]
  · rcases List.mem_append.mp member with member | member
    · exact List.mem_append_left _ (taken server member)
    · exact List.mem_append_right _ (taken' server member)
  · obtain ⟨nobody, finished⟩ :=
      untaken' fun server member => untaken server (List.mem_append_right _ member)
    refine ⟨nobody, fun before result after split settled => ?_⟩
    rcases List.append_eq_append_iff.mp split with ⟨middle, begins, ends⟩ | ⟨middle, begins, ends⟩
    · refine finished middle result after ends ?_
      rwa [entries, List.append_assoc, ← begins]
    · rcases List.append_eq_cons_iff.mp ends.symm with ⟨rfl, ends⟩ | ⟨rest, rfl, rfl⟩
      · refine finished [] result after ends.symm ?_
        rw [entries, begins]
        simpa using settled
      · rw [ending before result rest begins] at settled
        cases settled

omit [Upheld law] in
/-- A session that was going on with a server has ended. -/
theorem Departed.onward (left : Departed law base world) (going : base.session.stopping = false)
    (served : base.session.server ≠ none) : Onward law started base world := by
  obtain ⟨added, grown, taken, untaken⟩ := left.since
  have never {conclusion : Prop} (stopping : base.session.stopping = true) : conclusion := by
    rw [going] at stopping
    cases stopping
  refine ⟨left.toGoverned, added, ?_⟩
  constructor
  · exact grown
  · exact left.settings
  · exact left.made
  · exact left.going.trans going.symm
  · exact fun stopping => never stopping
  · exact fun stopping => never stopping
  · exact fun stopping => never stopping
  · exact fun server member => .inr (taken server member)
  · exact fun nobody => (served nobody).elim
  · exact fun _ _ _ untaken' => (untaken untaken').1
  · exact fun nobody => (served nobody).elim
  · exact fun _ before result after split finished untaken' =>
      (untaken untaken').2 before result after split finished

/-- The last part of forgetting a session: it counts as stopped. -/
theorem settle_leaves {before middle : World} {server : Nat} {graceful running : Bool}
    {note : Log.Record} (stopping : before.session.stopping = true)
    (departed : middle.view = before.view.departed server graceful running note)
    (onward : Onward law False middle world) :
    Ensures (do setPhase .stopped; modifyThe Session fun session => { session with stopping := false }
      : Act World Unit) world fun ending after => ending = .ok () ∧ Departed law before after := by
  obtain ⟨added, passage⟩ := onward.passage
  rw [departed] at passage
  have ends : (before.view.departed server graceful running note).session.stopping = true := stopping
  have unready : world.session.ready = false := passage.unready ends rfl
  have entries : world.journal.entries = before.journal.entries ++
      (departure before.settings server graceful running note ++ added) :=
    passage.entries.trans (List.append_assoc ..)
  -- the end has left its server, and nothing since has begun another
  have finished : underway world.journal.entries = false := by
    have departs := passage.entries
    simp only [View.departed, departure, ← List.append_assoc] at departs
    exact (congrArg underway departs).trans
      ((underway_append (passage.inside ends)).trans (underway_left _))
  rw [ensures_bind]
  refine (setPhase_views .stopped world).mono ?_
  rintro _ phased ⟨rfl, notes, view⟩
  have target : World.view { phased with session := { phased.session with stopping := false } } =
      { world.view with
        session := { world.session with phase := .stopped, stopping := false }
        entries := world.journal.entries ++ notes.map .logged } := by
    change ({ phased.view with session := { phased.view.session with stopping := false } } : View) = _
    rw [view]
  have move : Move law world.view
      (World.view { phased with session := { phased.session with stopping := false } }) := by
    rw [target]
    exact .stopped notes (passage.stopping.trans stopping) unready finished
  refine ⟨rfl, onward.toGoverned.move move, rfl, ?_, ?_, ?_, ?_⟩
  · exact (congrArg (fun view => view.session.ready) view).trans unready
  · exact (congrArg View.settings view).trans passage.settings
  · exact passage.made.trans (congrArg View.made view).ge
  · refine ⟨departure before.settings server graceful running note ++ added ++ notes.map .logged,
      ?_, fun other member => ?_, fun untaken => ?_⟩
    · rw [← List.append_assoc, ← entries]
      exact congrArg View.entries view
    · have taken : .serving (some other) ∈ added := by
        simpa [not_serving_departure] using member
      have begun := (passage.taken other taken).resolve_left id
      exact List.mem_append_left _ (List.mem_append_right _ begun)
    · have untaken_since (other : Nat) : .serving (some other) ∉ added := fun member =>
        untaken other (List.mem_append_left _ (List.mem_append_right _ member))
      have nobody := passage.unserved rfl untaken_since
      refine ⟨(congrArg (fun view => view.session.server) view).trans nobody, ?_⟩
      intro before result after split _ entry member
      rw [List.append_assoc] at split
      -- no stop returns while the server departs, so the last part decides
      have late := mem_of_mem_after split (not_returned_departure _ _ _ _ _ _ _) member
      rcases List.mem_append.mp late with since | noted
      · exact passage.silent rfl untaken_since entry since
      · exact (minor_logged entry noted).not_handsOver

variable (paired : Paired law nested nested')

include paired

/-- The session is not ready any more, which is told if it was. -/
theorem unready_mirrors {target : View} (sane : Sane target) (lawful : law target)
    (lowered : world.unready.view = target) :
    Mirrors (setReady nested false) (setReady nested' false) world fun ending after =>
      ending = .ok () ∧ ∃ middle, middle.view = target ∧ Onward law False middle after ∧
        (world.session.ready = false → after = middle) := by
  unfold setReady
  rw [mirrors_getSession]
  dsimp only
  split
  · next unready =>
    have same : world.unready = world := by
      rw [World.unready, ← unready]
    rw [same] at lowered
    have here := (governed_of_view lowered sane lawful).here
    exact .same ⟨rfl, world, lowered, here, fun _ => rfl⟩
  · next ready =>
    rw [mirrors_modifySession]
    simp only [Bool.false_eq_true, if_false]
    have here := (governed_of_view lowered sane lawful).here
    refine ((emit_mirrors paired here (.ready false)).succeeding (emit_succeeds _)).mono ?_
    rintro ending after ⟨onward, _, rfl⟩
    exact ⟨rfl, world.unready, lowered, onward, fun unready => (ready unready).elim⟩

/-- What belonged to the session is forgotten after its server was dismissed. -/
theorem forget_mirrors {before : World} {server : Nat} {graceful running : Bool}
    (governed : Governed law before) (stopping : before.session.stopping = true)
    (dismissed : world.view =
      before.view.noting (dismissal before.settings server graceful running))
    (move : ∀ note, Move law before.view (before.view.departed server graceful running note)) :
    Mirrors (forget nested server) (forget nested' server) world fun ending after =>
      ending = .ok () ∧ Departed law before after := by
  unfold forget
  rw [mirrors_get]
  dsimp only
  rw [mirrors_record, mirrors_modifySession, mirrors_write, mirrors_write]
  generalize Log.exited _ _ = note
  have departs := move note
  refine (unready_mirrors paired (governed.sane.move departs)
    (Upheld.move governed.sane governed.lawful departs) ?_).bind ?_ ?_
  · change ({ world.view with
      session := world.view.session.left
      entries := ((world.view.entries ++ [.logged note]) ++ [.dropped]) ++ [.serving none] } : View) = _
    rw [dismissed]
    simp [View.noting, View.departed, departure]
  · rintro fault after ⟨⟨⟩, -⟩
  · rintro _ after ⟨-, middle, departed, onward, -⟩
    exact .same (settle_leaves stopping departed onward)

/-- A ready server is asked to shut down; if it is not asked it is looked at, at most. -/
theorem askToEnd_mirrors (governed : Governed law world) (server : Nat)
    (stopping : world.session.stopping = true) :
    Mirrors (askToEnd nested server) (askToEnd nested' server) world fun ending after =>
      Onward law False world after ∧ ∃ graceful, ending = .ok graceful ∧ (graceful = false →
        ∃ added, after.journal.entries = world.journal.entries ++ added ∧
          ∀ entry ∈ added, ∃ running, entry = .looked server running) := by
  unfold askToEnd
  rw [mirrors_getSession]
  dsimp only
  split
  · next ready =>
    rw [mirrors_look]
    have glides : Glides law world (world.looking server) := looking_within world server
    have looked := glides governed
    split
    · refine Mirrors.bind (.same (setPhase_views .shuttingDown _)) ?_ ?_
      · rintro fault after ⟨⟨⟩, -⟩
      rintro _ shutting ⟨-, notes, view⟩
      have move : Move law (world.looking server).view shutting.view :=
        view ▸ .shutting notes ready stopping
      have passage : Passage False (world.looking server).view (notes.map .logged) shutting.view :=
        view ▸ passage_of_essence rfl rfl rfl rfl (steadfast_of_minor minor_logged) (by simp)
          (by simp [HandsOver])
      have onward : Onward law False world shutting := looked.move move passage
      have ends : shutting.session.stopping = true := onward.stopping.trans stopping
      refine (sendRequest_mirrors paired onward.toGoverned "shutdown" .null (by simp)).bind ?_ ?_
      · rintro fault after ⟨-, succeeds⟩
        obtain ⟨_, ⟨⟩⟩ := succeeds ends
      rintro _ requested ⟨later, -⟩
      have onward := onward.trans later
      have ends : requested.session.stopping = true := later.stopping.trans ends
      refine (announce_mirrors paired onward.toGoverned "exit" .null documentMethod?_parting).bind ?_ ?_
      · rintro fault after ⟨-, succeeds⟩
        obtain ⟨_, ⟨⟩⟩ := succeeds ends
      rintro _ after ⟨later, -⟩
      exact .same ⟨onward.trans later, true, rfl, (by simp)⟩
    · have noted := congrArg View.entries (view_looking world server)
      exact .same ((ensures_pure false).mpr ⟨looked, false, rfl, fun _ => ⟨_, noted, by simp⟩⟩)
  · have silent := (List.append_nil world.journal.entries).symm
    simp only [pure_bind, Bool.false_and, Bool.false_eq_true, if_false]
    exact .same ((ensures_pure false).mpr
      ⟨governed.onward, false, rfl, fun _ => ⟨[], silent, by simp⟩⟩)

omit paired in
theorem Passage.kept {view view' : View} {added : List Entry}
    (passage : Passage False view added view') (sane : Sane view) (sane' : Sane view')
    (stopping : view.session.stopping = true) :
    view'.session.server = view.session.server ∨ .doing "start" ∈ added := by
  by_cases begun : .doing "start" ∈ added
  · exact .inr begun
  · have unserved : ∀ server, .serving server ∉ added := by
      rintro (_ | server) member
      · exact passage.inside stopping _ member rfl
      · exact begun ((passage.taken server member).resolve_left id)
    left
    rw [← sane'.served, passage.entries, standing_server_of_unserved unserved, sane.served]

/-- A server that was asked to end is dismissed, or what failed on the way has left the session. -/
def Parted (law : View → Prop) (world asked : World) (server : Nat) (graceful : Bool) :
    Except Fault Unit → World → Prop
  | .ok _, after => ∃ running, after.view =
      asked.view.noting (dismissal asked.settings server graceful running)
  | .error _, after => Departed law world after

theorem endSession_mirrors (governed : Governed law world) {server : Nat}
    (served : world.session.server = some server) (going : world.session.stopping = false) :
    Mirrors (endSession nested server) (endSession nested' server) world
      fun _ => Departed law world := by
  unfold endSession
  rw [mirrors_modifySession, mirrors_write]
  generalize began : World.noting { world with
    session := { world.session with stopping := true } } (.ending server) = begun
  have view : begun.view = { world.view with
      session := { world.session with stopping := true }
      entries := world.journal.entries ++ [.ending server] } := by rw [← began]; rfl
  have governed' : Governed law begun :=
    governed.move (view ▸ .begun server served going)
  have stopping : begun.session.stopping = true := congrArg (fun view => view.session.stopping) view
  refine (askToEnd_mirrors paired governed' server stopping).bind ?_ ?_
  · rintro fault after ⟨-, _, ⟨⟩, -⟩
  rintro graceful asked ⟨onward, _, ⟨⟩, silent⟩
  obtain ⟨later, passage⟩ := onward.passage
  have grown : asked.journal.entries = world.journal.entries ++ [.ending server] ++ later := by
    have entries := passage.entries
    rw [view] at entries
    exact entries
  have since : asked.journal.entries = world.journal.entries ++ .ending server :: later := by
    rw [grown, List.append_assoc]
    rfl
  -- the server departs that was to be ended, or listeners have started another
  have move (running : Bool) (note : Log.Record) :
      Move law asked.view (asked.view.departed server graceful running note) := by
    refine .left server world.journal.entries later graceful running note
      (passage.stopping.trans stopping) since (passage.inside stopping) ?_ ?_
    · refine (passage.kept governed'.sane onward.sane stopping).imp_left fun same => ?_
      rw [same, view]
      exact served
    · intro hasty
      obtain ⟨added, entries, looks⟩ := silent hasty
      have same : later = added :=
        List.append_cancel_left (passage.entries.symm.trans entries)
      exact same ▸ looks
  have leaves : ∀ after, Departed law asked after → Departed law world after := by
    intro after left
    refine left.after since ?_ ?_ (fun other member => ?_) fun before result rest split => ?_
    · exact passage.settings.trans (congrArg View.settings view)
    · exact (congrArg View.made view).ge.trans passage.made
    · have taken : .serving (some other) ∈ later := by simpa using member
      exact List.mem_cons_of_mem _ ((passage.taken other taken).resolve_left id)
    · rcases List.cons_eq_append_iff.mp split with ⟨-, ⟨⟩⟩ | ⟨middle, rfl, begins⟩
      refine underway_of_ending fun entry member => passage.inside stopping entry ?_
      exact begins ▸ List.mem_append_left _ member
  have ends (running : Bool) (dismissed : World)
      (view : dismissed.view = asked.view.noting
        (dismissal asked.settings server graceful running)) :
      Mirrors (forget nested server) (forget nested' server) dismissed fun ending after =>
        ending = .ok () ∧ Departed law world after :=
    (forget_mirrors paired onward.toGoverned (passage.stopping.trans stopping) view
      (move running)).mono fun _ after left => ⟨left.1, leaves after left.2⟩
  -- a server that cannot be closed is forgotten before the failure is passed on
  have parted : Mirrors
      (tryCatch (dismiss server graceful) fun fault => do forget nested server; throw fault)
      (tryCatch (dismiss server graceful) fun fault => do forget nested' server; throw fault) asked
      (Parted law world asked server graceful) := by
    refine Mirrors.tryCatch (.same (dismiss_views server graceful asked)) ?_ ?_
    · exact fun _ after dismissed => dismissed
    · rintro fault after ⟨running, dismissed⟩
      refine (ends running after dismissed).bind ?_ ?_
      · rintro _ _ ⟨⟨⟩, -⟩
      · rintro _ final ⟨-, left⟩
        exact .same left
  refine parted.bind ?_ ?_
  · exact fun _ _ left => left
  · rintro _ after ⟨running, dismissed⟩
    exact (ends running after dismissed).mono fun _ _ left => left.2

/-- The session is left, unless there is nothing to be left or its end is under way. -/
theorem stop_mirrors (governed : Governed law world) (expected : Option Nat) :
    Mirrors (stop nested expected) (stop nested' expected) world fun _ after =>
      (after = world ∧ (world.session.server = none ∨ world.session.stopping = true ∨
        expected ≠ none)) ∨
      Departed law world after ∧ world.session.server ≠ none ∧ world.session.stopping = false := by
  unfold stop
  rw [mirrors_getSession]
  cases served : world.session.server with
  | none => exact .same (.inl ⟨rfl, .inl rfl⟩)
  | some server =>
      dsimp only
      split
      · next stays =>
        refine .same (.inl ⟨rfl, .inr ?_⟩)
        rcases (Bool.or_eq_true ..).mp stays with stopping | unexpected
        · exact .inl stopping
        · exact .inr (by rintro rfl; cases unexpected)
      · next goes =>
        have going : world.session.stopping = false := by
          cases stopping : world.session.stopping with
          | false => rfl
          | true => simp [stopping] at goes
        refine (endSession_mirrors paired governed served going).mono fun _ after left => ?_
        exact .inr ⟨left, Option.some_ne_none _, going⟩

theorem stop_onward (governed : Governed law world) (expected : Option Nat) :
    Mirrors (stop nested expected) (stop nested' expected) world
      fun _ => Onward law started world := by
  refine (stop_mirrors paired governed expected).mono ?_
  rintro _ after (⟨rfl, -⟩ | ⟨left, served, going⟩)
  · exact governed.onward
  · exact left.onward going served

theorem stopIfAborted_onward (governed : Governed law world) :
    Mirrors (stopIfAborted nested) (stopIfAborted nested') world
      fun _ => Onward law started world := by
  unfold stopIfAborted
  rw [mirrors_getSession]
  split
  · split
    · exact .same governed.onward
    · exact stop_onward paired governed _
  · exact .same governed.onward

end

/-! ## A session that is to be aborted -/

def World.tracking (world : World) (documents : Documents) : World :=
  { world with session := { world.session with documents := documents } }

def Tracks (world world' : World) : Prop := ∃ documents, world' = world.tracking documents

def objecting : Option Text → Act World Unit
  | some reason => throw (.raised reason)
  | none => return ()

theorem objecting_tracks (reason : Option Text) : Agrees Tracks (objecting reason) := by
  cases reason with
  | some reason => exact agrees_throw _
  | none => exact agrees_pure _

theorem close_tracks (server : Nat) : Agrees Tracks (close server) := by
  rintro world _ ⟨documents, rfl⟩
  have tracks : Tracks (world.noting (.closed server))
      ((world.tracking documents).noting (.closed server)) := ⟨documents, rfl⟩
  exact objecting_tracks ((world.server? server).bind fun process => process.conduct.refusesClose)
    _ _ tracks

theorem dismiss_tracks (server : Nat) (graceful : Bool) : Agrees Tracks (dismiss server graceful) := by
  have waits (timeout : Duration) : Agrees Tracks (wait server timeout) := by
    rintro world _ ⟨documents, rfl⟩
    exact ⟨rfl, documents, rfl⟩
  have looks : Agrees Tracks (look server) := by
    rintro world _ ⟨documents, rfl⟩
    exact ⟨rfl, documents, rfl⟩
  have kills : Agrees Tracks (kill server) := by
    rintro world _ ⟨documents, rfl⟩
    exact ⟨rfl, documents, rfl⟩
  have forced (settings : Settings) : Agrees Tracks (look server >>= fun running =>
      if running = true then do
        kill server
        wait server settings.killGrace
        close server
      else close server) := by
    refine Agrees.bind looks fun running => ?_
    split
    · exact Agrees.bind kills fun _ => Agrees.bind (waits _) fun _ => close_tracks server
    · exact close_tracks server
  rintro world _ ⟨documents, rfl⟩
  cases graceful with
  | true =>
      have patient := (waits world.settings.shutdownGrace).bind fun _ => forced world.settings
      exact patient world _ ⟨documents, rfl⟩
  | false => exact forced world.settings world _ ⟨documents, rfl⟩

theorem result_forget_tracking (nested : Nested) (server : Nat) (documents : Documents)
    (world : World) : result (forget nested server) (world.tracking documents) =
      result (forget nested server) world := rfl

theorem askToEnd_aborted (nested : Nested) (server : Nat) {world : World}
    (aborts : world.session.abortRequested = true) : result (askToEnd nested server) world =
      (.ok false, if world.session.ready then world.looking server else world) := by
  simp only [askToEnd, result_bind, result_getSession, aborts, Bool.not_true, Bool.and_false]
  split
  · rfl
  · rfl

/-- The world in which the server of a session that is to be aborted is dismissed. -/
def World.hastening (world : World) (server : Nat) : World :=
  let begun := World.noting { world with session := { world.session with stopping := true } }
    (.ending server)
  if world.session.ready then begun.looking server else begun

theorem result_endSession_aborted (nested : Nested) (server : Nat) {world : World}
    (aborts : world.session.abortRequested = true) :
    result (endSession nested server) world = result
      (do try dismiss server false
          catch fault => forget nested server; throw fault
          forget nested server)
      (world.hastening server) := by
  simp only [endSession, result_bind, result_modifySession, result_write]
  rw [askToEnd_aborted]
  · rfl
  · exact aborts

/-- A session that is to be aborted ends the same whatever its documents are. -/
theorem endSession_aborted (nested : Nested) (server : Nat) (documents : Documents) {world : World}
    (aborts : world.session.abortRequested = true) :
    result (endSession nested server) (world.tracking documents) =
      result (endSession nested server) world := by
  have tracks : Tracks (world.hastening server) ((world.tracking documents).hastening server) := by
    have ready : (world.tracking documents).session.ready = world.session.ready := rfl
    refine ⟨documents, ?_⟩
    simp only [World.hastening, ready]
    cases world.session.ready <;> rfl
  rw [result_endSession_aborted nested server aborts, result_endSession_aborted]
  · obtain ⟨same, versions, left⟩ := dismiss_tracks server false _ _ tracks
    simp only [result_bind, result_tryCatch]
    revert same left
    rcases result (dismiss server false) (world.hastening server) with ⟨ending, middle⟩
    rcases result (dismiss server false) ((world.tracking documents).hastening server) with
      ⟨ending', middle'⟩
    rintro (rfl : ending' = ending) (rfl : middle' = middle.tracking versions)
    cases ending' with
    | ok value => exact result_forget_tracking nested server versions middle
    | error fault =>
        dsimp only
        rw [result_forget_tracking]
  · exact aborts

/-! ## Notices about documents -/

section

variable {law : View → Prop} [Upheld law] {started : Prop} {base world : World}
  {nested nested' : Nested} {notice : Notice}

omit [Upheld law] in
theorem passage_tracking {added : List Entry} {after : World}
    (passage : Passage started world.view added after.view) (ready : world.session.ready = true)
    (documents : Documents) : Passage started world.view added (after.tracking documents).view :=
  { passage with
    untracked := fun _ unready => by rw [view_session, ready] at unready; cases unready
    unready := passage.unready
    stopping := passage.stopping
    unserved := passage.unserved
    stopped := passage.stopped
    silent := passage.silent
    finished := passage.finished }

theorem stopIfAborted_idle (nested : Nested) (idle : world.session.abortRequested = false ∨
      world.session.stopping = true ∨ world.session.server = none) :
    result (stopIfAborted nested) world = (.ok (), world) := by
  simp only [stopIfAborted, result_bind, result_getSession]
  rcases idle with calm | stopping | nobody
  · simp only [calm, Bool.false_and]
    rfl
  · simp only [stopping, Bool.not_true, Bool.and_false]
    rfl
  · simp only [nobody]
    split
    · rfl
    · rfl

/-- A session that is to be aborted ends the same whatever its documents are. -/
theorem stopIfAborted_tracking (nested : Nested) (documents : Documents) {server : Nat}
    (aborts : world.session.abortRequested = true) (going : world.session.stopping = false)
    (served : world.session.server = some server) :
    result (stopIfAborted nested) (world.tracking documents) =
      result (stopIfAborted nested) world := by
  have ends (world : World) (aborts : world.session.abortRequested = true)
      (going : world.session.stopping = false) (served : world.session.server = some server) :
      result (stopIfAborted nested) world = result (endSession nested server) world := by
    have stops : result (stop nested (some server)) world =
        result (endSession nested server) world := by
      simp only [stop, result_bind, result_getSession, served]
      simp [going]
    rw [← stops]
    simp only [stopIfAborted, result_bind, result_getSession, aborts, going, served]
    rfl
  rw [ends world aborts going served, ends (world.tracking documents) aborts going served]
  exact endSession_aborted nested server documents aborts

variable (paired : Paired law nested nested')

include paired

/-- The version of a notice is kept when it was handed over. -/
theorem synced_mirrors {after : World} {added : List Entry} (governed : Governed law world)
    (ready : world.session.ready = true) (view : after.view = world.view.noting added)
    (handed : Handed world.session.server (notice.message world.session.documents) added) :
    Mirrors (stopIfAborted nested) (stopIfAborted nested')
      (after.tracking (notice.apply after.session.documents)) fun _ => Onward law False world := by
  have session : after.session = world.session := congrArg View.session view
  have target : (after.tracking (notice.apply after.session.documents)).view =
      { world.view with
        session := { world.session with documents := notice.apply world.session.documents }
        entries := world.journal.entries ++ added } := by
    change ({ after.view with session := { after.view.session with
      documents := notice.apply after.session.documents } } : View) = _
    rw [view, session]
    rfl
  have move : Move law world.view
      (after.tracking (notice.apply after.session.documents)).view :=
    target ▸ .synced notice added ready handed
  have passage : Passage False world.view added
      (after.tracking (notice.apply after.session.documents)).view := by
    rw [target]
    refine passage_of_steadfast rfl rfl rfl rfl rfl ?_ handed.steadfast handed.unreturned
      handed.silent
    exact fun _ unready => by rw [view_session, ready] at unready; cases unready
  have synced : Onward law False world (after.tracking (notice.apply after.session.documents)) :=
    governed.onward.move move passage
  exact synced.later (stopIfAborted_onward paired synced.toGoverned)

/-- The version of a notice is kept whose write was interrupted. -/
theorem strayed_mirrors {after : World} {server : Nat} {added : List Entry}
    (governed : Governed law world) (ready : world.session.ready = true)
    (served : world.session.server = some server) (onward : Onward law False world after)
    (since : after.journal.entries = world.journal.entries ++ added)
    (interrupted : Interrupted server (notice.message world.session.documents) added)
    (aborts : ∀ rest, added = .looked server true ::
        .writeRefused server (notice.message world.session.documents) :: rest →
      after.session.abortRequested = true) :
    Mirrors (stopIfAborted nested) (stopIfAborted nested')
      (after.tracking (notice.apply after.session.documents)) fun _ => Onward law False world := by
  obtain ⟨added', passage⟩ := onward.passage
  have same : added = added' := List.append_cancel_left (since.symm.trans passage.entries)
  subst same
  have strays (lost : ∀ rest, added = .looked server true ::
        .writeRefused server (notice.message world.session.documents) :: rest →
      after.session.server = none ∨ after.session.stopping = true) :
      Onward law False world (after.tracking (notice.apply after.session.documents)) := by
    refine ⟨onward.toGoverned.move ?_, added, passage_tracking passage ready _⟩
    refine .strayed notice world.view server added governed.lawful governed.sane ready served
      since interrupted passage.stopping ?_ lost
    exact fun stopping => passage.inside (onward.stopping ▸ stopping)
  have idle (quiet : after.session.abortRequested = false ∨ after.session.stopping = true ∨
      after.session.server = none) (here : Onward law False world
        (after.tracking (notice.apply after.session.documents))) :
      Mirrors (stopIfAborted nested) (stopIfAborted nested')
        (after.tracking (notice.apply after.session.documents)) fun _ => Onward law False world := by
    have silent (nested : Nested) : result (stopIfAborted nested)
        (after.tracking (notice.apply after.session.documents)) =
          result (pure ()) (after.tracking (notice.apply after.session.documents)) :=
      stopIfAborted_idle nested quiet
    exact mirrors_of_results (silent nested) (silent nested') (.same here)
  cases stopping : after.session.stopping with
  | true => exact idle (.inr (.inl stopping)) (strays fun _ _ => .inr stopping)
  | false =>
      cases remains : after.session.server with
      | none => exact idle (.inr (.inr remains)) (strays fun _ _ => .inl remains)
      | some other =>
          cases abort : after.session.abortRequested with
          | false =>
              refine idle (.inl abort) (strays fun rest refused => ?_)
              rw [aborts rest refused] at abort
              cases abort
          | true =>
              have ends (nested : Nested) := stopIfAborted_tracking nested
                (notice.apply after.session.documents) abort stopping remains
              refine mirrors_of_results (ends nested) (ends nested') ?_
              exact onward.later (stopIfAborted_onward paired onward.toGoverned)

theorem giveNotice_mirrors (governed : Governed law world) (notice : Notice) :
    Mirrors (giveNotice nested notice) (giveNotice nested' notice) world
      fun _ => Onward law False world := by
  unfold giveNotice
  rw [mirrors_getSession]
  dsimp only
  split
  · next ready =>
    refine (notify_mirrors paired governed notice.method
      (notice.params world.session.documents) fun _ => ⟨ready, notice, rfl⟩).bind ?_ ?_
    · rintro fault after (⟨⟨⟩, -⟩ | ⟨written, same, wrote⟩)
      cases wrote with
      | calm after added view handed => cases same
      | interrupted ending after server added served onward since interrupted ends aborts =>
          exact onward
    · rintro sent after (⟨same, note, rfl⟩ | ⟨_ | _, same, wrote⟩)
      · cases same
        simp only [Bool.false_eq_true, if_false]
        have noted : Onward law False world (world.noting (.logged note)) :=
          governed.onward.noting trivial (by simp)
        exact noted.later (stopIfAborted_onward paired noted.toGoverned)
      · cases same
      · cases same
        simp only [if_true]
        rw [mirrors_modifySession]
        cases wrote with
        | calm _ added view handed =>
            exact synced_mirrors paired governed ready view handed
        | interrupted _ _ server added served onward since interrupted ends aborts =>
            exact strayed_mirrors paired governed ready served onward since interrupted aborts
  · exact .same governed.onward

end

end Client

end LanguageSession
