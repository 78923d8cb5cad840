import Mathlib
import LanguageSession.Proofs.Client.Moves

/-!
# Every call is made of moves

A law that every move upholds holds wherever an operation calls back, and two towers of nested
calls that agree where the law holds do the same.  What a whole call may bring about besides is
a passage: it leaves the session ending if it was ending, in which case it neither begins nor
completes an end, and it takes no server unless someone starts one.
-/

namespace LanguageSession

namespace Client

open Act

/-! ## Passages -/

/-- A message is handed to a server, which may refuse it. -/
def HandsOver : Entry → Prop
  | .wrote _ _ _ => True
  | .writeRefused _ _ => True
  | _ => False

theorem Minor.not_handsOver {entry : Entry} (minor : Minor entry) : ¬ HandsOver entry := by
  cases entry <;> simp_all [Minor, HandsOver]

/-- What a call brings about that adds these entries; `started` if it is itself a start. -/
structure Passage (started : Prop) (view : View) (added : List Entry) (view' : View) : Prop where
  entries : view'.entries = view.entries ++ added
  settings : view'.settings = view.settings
  made : view.made ≤ view'.made
  stopping : view'.session.stopping = view.session.stopping
  inside : view.session.stopping = true → ∀ entry ∈ added, ¬ Borders entry
  unready : view.session.stopping = true → view.session.ready = false → view'.session.ready = false
  untracked : view.session.stopping = true → view.session.ready = false →
    view.session.documents = {} → view'.session.documents = {}
  taken : ∀ server, .serving (some server) ∈ added → started ∨ .doing "start" ∈ added
  unserved : view.session.server = none → (∀ server, .serving (some server) ∉ added) →
    view'.session.server = none
  stopped : view.session.stopping = false → ∀ result, .did "stop" result ∈ added →
    (∀ server, .serving (some server) ∉ added) → view'.session.server = none
  silent : view.session.server = none → (∀ server, .serving (some server) ∉ added) →
    ∀ entry ∈ added, ¬ HandsOver entry
  finished : view.session.stopping = false → ∀ before result after,
    added = before ++ .did "stop" result :: after → underway (view.entries ++ before) = false →
    (∀ server, .serving (some server) ∉ added) → ∀ entry ∈ after, ¬ HandsOver entry

section

variable {started : Prop} {view view' view'' : View} {added later : List Entry}

theorem Passage.refl (view : View) : Passage started view [] view where
  entries := by simp
  settings := rfl
  made := le_rfl
  stopping := rfl
  inside := by simp
  unready _ := id
  untracked _ _ := id
  taken := by simp
  unserved nobody _ := nobody
  stopped := by simp
  silent := by simp
  finished := by simp

theorem Passage.trans (first : Passage started view added view')
    (second : Passage started view' later view'') : Passage started view (added ++ later) view'' where
  entries := by rw [second.entries, first.entries, List.append_assoc]
  settings := second.settings.trans first.settings
  made := first.made.trans second.made
  stopping := second.stopping.trans first.stopping
  inside ends := List.forall_mem_append.mpr
    ⟨first.inside ends, second.inside (first.stopping.trans ends)⟩
  unready ends unready :=
    second.unready (first.stopping.trans ends) (first.unready ends unready)
  untracked ends unready untracked :=
    second.untracked (first.stopping.trans ends) (first.unready ends unready)
      (first.untracked ends unready untracked)
  taken server member := by
    rcases List.mem_append.mp member with earlier | after
    · exact (first.taken server earlier).imp_right (List.mem_append_left _)
    · exact (second.taken server after).imp_right (List.mem_append_right _)
  unserved nobody untaken := by
    have earlier := first.unserved nobody fun server member =>
      untaken server (List.mem_append_left _ member)
    exact second.unserved earlier fun server member => untaken server (List.mem_append_right _ member)
  stopped going result member untaken := by
    have untaken_later (server : Nat) : .serving (some server) ∉ later :=
      fun member => untaken server (List.mem_append_right _ member)
    rcases List.mem_append.mp member with earlier | after
    · refine second.unserved (first.stopped going result earlier fun server member => ?_) untaken_later
      exact untaken server (List.mem_append_left _ member)
    · exact second.stopped (first.stopping.trans going) result after untaken_later
  silent nobody untaken := by
    have untaken_earlier (server : Nat) : .serving (some server) ∉ added :=
      fun member => untaken server (List.mem_append_left _ member)
    exact List.forall_mem_append.mpr ⟨first.silent nobody untaken_earlier,
      second.silent (first.unserved nobody untaken_earlier) fun server member =>
        untaken server (List.mem_append_right _ member)⟩
  finished going before result after split finished untaken := by
    have untaken_earlier (server : Nat) : .serving (some server) ∉ added :=
      fun member => untaken server (List.mem_append_left _ member)
    have untaken_later (server : Nat) : .serving (some server) ∉ later :=
      fun member => untaken server (List.mem_append_right _ member)
    -- the stop returned in the second part, at its very beginning, or in the first part
    rcases List.append_eq_append_iff.mp split with ⟨middle, begins, ends⟩ | ⟨middle, begins, ends⟩
    · refine second.finished (first.stopping.trans going) middle result after ends ?_ untaken_later
      rwa [first.entries, List.append_assoc, ← begins]
    · rcases List.append_eq_cons_iff.mp ends.symm with ⟨rfl, ends⟩ | ⟨rest, rfl, rfl⟩
      · refine second.finished (first.stopping.trans going) [] result after ends.symm ?_ untaken_later
        rw [first.entries, begins]
        simpa using finished
      · have nobody := first.stopped going result (by simp [begins]) untaken_earlier
        exact List.forall_mem_append.mpr
          ⟨first.finished going before result rest begins finished untaken_earlier,
            second.silent nobody untaken_later⟩

theorem Passage.mono (passage : Passage started view added view') {wider : Prop}
    (implies : started → wider) : Passage wider view added view' :=
  { passage with taken := fun server member => (passage.taken server member).imp_left implies }

/-- A step within a call: what it notes is neither a border nor the return of a stop. -/
theorem passage_of_steadfast (settings : view'.settings = view.settings)
    (made : view'.made = view.made) (entries : view'.entries = view.entries ++ added)
    (server : view'.session.server = view.session.server)
    (stopping : view'.session.stopping = view.session.stopping)
    (kept : view.session.stopping = true → view.session.ready = false →
      view'.session.ready = false ∧ (view.session.documents = {} → view'.session.documents = {}))
    (steadfast : Steadfast added) (unreturned : ∀ result, .did "stop" result ∉ added)
    (silent : view.session.server = none → ∀ entry ∈ added, ¬ HandsOver entry) :
    Passage started view added view' := by
  constructor
  · exact entries
  · exact settings
  · exact made.ge
  · exact stopping
  · exact fun _ => steadfast.2.1
  · exact fun ends unready => (kept ends unready).1
  · exact fun ends unready => (kept ends unready).2
  · exact fun server member => (steadfast.1 _ member).elim
  · exact fun nobody _ => server.trans nobody
  · exact fun _ result member => (unreturned result member).elim
  · exact fun nobody _ => silent nobody
  · exact fun _ _ result _ split => (unreturned result (by simp [split])).elim

theorem passage_of_essence (settings : view'.settings = view.settings) (made : view'.made = view.made)
    (entries : view'.entries = view.entries ++ added)
    (same : view'.session.essence.2 = view.session.essence.2) (steadfast : Steadfast added)
    (unreturned : ∀ result, .did "stop" result ∉ added)
    (silent : view.session.server = none → ∀ entry ∈ added, ¬ HandsOver entry) :
    Passage started view added view' := by
  simp only [Session.essence, Prod.mk.injEq] at same
  obtain ⟨ready, server, stopping, documents⟩ := same
  refine passage_of_steadfast settings made entries server stopping ?_ steadfast unreturned silent
  exact fun _ unready => ⟨ready.trans unready, documents.trans⟩

theorem passage_of_noting (noted : view' = view.noting added) (steadfast : Steadfast added)
    (unreturned : ∀ result, .did "stop" result ∉ added)
    (silent : view.session.server = none → ∀ entry ∈ added, ¬ HandsOver entry) :
    Passage started view added view' := by
  subst noted
  exact passage_of_essence rfl rfl rfl rfl steadfast unreturned silent

end

/-! ## Laws -/

class Upheld (law : View → Prop) : Prop where
  move : ∀ {view view'}, Sane view → law view → Move law view view' → law view'

structure Governed (law : View → Prop) (world : World) : Prop where
  sane : Sane world.view
  lawful : law world.view

structure Onward (law : View → Prop) (started : Prop) (base world : World) : Prop
    extends Governed law world where
  passage : ∃ added, Passage started base.view added world.view

section

variable {law : View → Prop} {started : Prop} {base world world' : World}

theorem Governed.onward (governed : Governed law world) : Onward law started world world :=
  ⟨governed, [], Passage.refl _⟩

theorem Governed.here (governed : Governed law world) : Onward law False world world :=
  governed.onward

theorem Onward.trans (first : Onward law started base world)
    (second : Onward law False world world') : Onward law started base world' := by
  obtain ⟨added, passage⟩ := first.passage
  obtain ⟨later, passage'⟩ := second.passage
  exact ⟨second.toGoverned, added ++ later, passage.trans (passage'.mono False.elim)⟩

theorem Onward.mono (onward : Onward law started base world) {wider : Prop}
    (implies : started → wider) : Onward law wider base world := by
  obtain ⟨added, passage⟩ := onward.passage
  exact ⟨onward.toGoverned, added, passage.mono implies⟩

theorem governed_of_view {target : View} (same : world.view = target) (sane : Sane target)
    (lawful : law target) : Governed law world := by
  subst same
  exact ⟨sane, lawful⟩

theorem Governed.of_view (governed : Governed law world) (same : world'.view = world.view) :
    Governed law world' := ⟨same ▸ governed.sane, same ▸ governed.lawful⟩

theorem Onward.of_view (onward : Onward law started base world) (same : world'.view = world.view) :
    Onward law started base world' := ⟨onward.toGoverned.of_view same, same ▸ onward.passage⟩

theorem Onward.later {α : Type} {first second : Act World α}
    (onward : Onward law started base world)
    (mirrors : Mirrors first second world fun _ => Onward law False world) :
    Mirrors first second world fun _ => Onward law started base :=
  mirrors.mono fun _ _ later => onward.trans later

variable [Upheld law]

theorem Governed.move (governed : Governed law world)
    (move : Move law world.view world'.view) : Governed law world' :=
  ⟨governed.sane.move move, Upheld.move governed.sane governed.lawful move⟩

theorem Onward.move {added : List Entry} (onward : Onward law started base world)
    (move : Move law world.view world'.view)
    (passage : Passage started world.view added world'.view) : Onward law started base world' := by
  obtain ⟨earlier, passed⟩ := onward.passage
  exact ⟨onward.toGoverned.move move, earlier ++ added, passed.trans passage⟩

theorem Onward.aside {added : List Entry} (onward : Onward law started base world)
    (same : world'.session.essence = world.session.essence)
    (idle : world.session.server = none →
      world'.session.pending.entries ⊆ world.session.pending.entries ∧
        world'.session.buffer = world.session.buffer)
    (minor : ∀ entry ∈ added, Minor entry) (unreturned : ∀ result, .did "stop" result ∉ added)
    (entries : world'.journal.entries = world.journal.entries ++ added)
    (settings : world'.settings = world.settings)
    (made : world'.servers.length = world.servers.length) : Onward law started base world' := by
  have target : world'.view = { world.view with
      session := world'.session, entries := world.view.entries ++ added } := by
    simp [World.view, entries, settings, made]
  have move : Move law world.view world'.view := by
    rw [target]
    exact .aside world'.session added same idle minor
  exact onward.move move
    (passage_of_essence settings made entries (congrArg Prod.snd same) (steadfast_of_minor minor)
      unreturned fun _ entry member => (minor entry member).not_handsOver)

theorem Onward.noting (onward : Onward law started base world) {entry : Entry}
    (minor : Minor entry) (unreturned : ∀ result, entry ≠ .did "stop" result) :
    Onward law started base (world.noting entry) := by
  have quiet : ∀ other ∈ [entry], Minor other := by simpa using minor
  have open_ended : ∀ result, .did "stop" result ∉ [entry] := by simpa [eq_comm] using unreturned
  exact onward.aside rfl (fun _ => ⟨List.Subset.refl _, rfl⟩) quiet open_ended rfl rfl rfl

theorem Governed.noting (governed : Governed law world) {entry : Entry} (minor : Minor entry) :
    Governed law (world.noting entry) :=
  governed.move (.aside world.session [entry] rfl (fun _ => ⟨List.Subset.refl _, rfl⟩)
    (by simpa using minor))

end

def Glides (law : View → Prop) (world world' : World) : Prop :=
  Governed law world → Onward law False world world'

instance (law : View → Prop) : IsPreorder World (Glides law) where
  refl _ governed := governed.onward
  trans _ _ _ first second governed := (first governed).trans (second (first governed).toGoverned)

instance (law : View → Prop) [Upheld law] : Tolerant (Glides law) where
  noting world entry neutral governed := by
    refine governed.onward.noting neutral.minor ?_
    rintro result rfl
    cases neutral
  modifying world server change _ governed :=
    governed.onward.of_view (by simp [World.view, World.modifyServer])

theorem Onward.within {law : View → Prop} {started : Prop} {base world : World} {α : Type}
    {action : Act World α} (onward : Onward law started base world)
    (within : Within (Glides law) action) :
    Mirrors action action world fun _ => Onward law started base :=
  .same ((within world).mono fun _ _ glides => onward.trans (glides onward.toGoverned))

/-! ## Nested calls -/

/-- A step of a script, between its two marks. -/
def scripted (nested : Nested) (step : Step) : Act World Unit := do
  write (.doing step.operation)
  let result ← nested.perform step
  write (.did step.operation result)

theorem runScript_eq (nested : Nested) (script : List Step) :
    runScript Step.operation nested.perform script = script.forM (scripted nested) := rfl

/-- Nested calls that do the same wherever the law holds, and leave it holding. -/
structure Paired (law : View → Prop) (nested nested' : Nested) : Prop where
  perform : ∀ step world, Governed law world →
    Mirrors (scripted nested step) (scripted nested' step) world fun _ => Onward law False world
  receive : ∀ server data world, Governed law (world.noting (.arrived server data)) →
    Mirrors (nested.receive server data) (nested'.receive server data) world fun ending after =>
      Onward law False (world.noting (.arrived server data)) after ∧
        (world.session.stopping = true → ending = .ok ())

section

variable {law : View → Prop} {started : Prop} {base world : World} {nested nested' : Nested}
  {α : Type}

/-! ## What comes first -/

section

variable {post : Except Fault α → World → Prop}

theorem mirrors_write (entry : Entry) {next next' : Unit → Act World α} :
    Mirrors (write entry >>= next) (write entry >>= next') world post ↔
      Mirrors (next ()) (next' ()) (world.noting entry) post := Iff.rfl

theorem mirrors_get {next next' : World → Act World α} :
    Mirrors (getThe World >>= next) (getThe World >>= next') world post ↔
      Mirrors (next world) (next' world) world post := Iff.rfl

theorem mirrors_modifyWorld (change : World → World) {next next' : Unit → Act World α} :
    Mirrors (modifyThe World change >>= next) (modifyThe World change >>= next') world post ↔
      Mirrors (next ()) (next' ()) (change world) post := Iff.rfl

theorem mirrors_getSession {next next' : Session → Act World α} :
    Mirrors (getThe Session >>= next) (getThe Session >>= next') world post ↔
      Mirrors (next world.session) (next' world.session) world post := Iff.rfl

theorem mirrors_record (note : Log.Record) {next next' : Unit → Act World α} :
    Mirrors (record note >>= next) (record note >>= next') world post ↔
      Mirrors (next ()) (next' ()) (world.noting (.logged note)) post := Iff.rfl

theorem mirrors_modifySession (change : Session → Session) {next next' : Unit → Act World α} :
    Mirrors (modifyThe Session change >>= next) (modifyThe Session change >>= next') world post ↔
      Mirrors (next ()) (next' ()) { world with session := change world.session } post := Iff.rfl

theorem mirrors_getPending {next next' : Registry Handler → Act World α} :
    Mirrors (getThe (Registry Handler) >>= next) (getThe (Registry Handler) >>= next') world post ↔
      Mirrors (next world.session.pending) (next' world.session.pending) world post := Iff.rfl

theorem mirrors_ofExcept {β : Type} (value : Except Fault β) {next next' : β → Act World α} :
    Mirrors (MonadExcept.ofExcept value >>= next) (MonadExcept.ofExcept value >>= next') world post ↔
      match value with
      | .ok value => Mirrors (next value) (next' value) world post
      | .error fault => post (.error fault) world := by
  cases value with
  | ok value => exact Iff.rfl
  | error fault => exact ⟨And.right, fun ends => ⟨rfl, ends⟩⟩

theorem mirrors_look (server : Nat) {next next' : Bool → Act World α} :
    Mirrors (look server >>= next) (look server >>= next') world post ↔
      Mirrors (next ((world.looking server).isRunning server))
        (next' ((world.looking server).isRunning server)) (world.looking server) post := Iff.rfl

end

variable [Upheld law] (paired : Paired law nested nested')

include paired

/-! ## Callbacks -/

omit [Upheld law] in
theorem runScript_mirrors (onward : Onward law started base world) (script : List Step) :
    Mirrors (runScript Step.operation nested.perform script)
      (runScript Step.operation nested'.perform script) world fun _ => Onward law started base := by
  rw [runScript_eq, runScript_eq]
  refine Mirrors.forM (fun step _ middle onward => ?_) onward
  exact onward.later (paired.perform step middle onward.toGoverned)

omit [Upheld law] in
theorem proceed_mirrors (onward : Onward law started base world) (who : Nat)
    (callback : Callback Step) (arguments : List Json) :
    Mirrors (proceed Step.operation nested.perform who callback arguments)
      (proceed Step.operation nested'.perform who callback arguments) world
      fun _ => Onward law started base := by
  have raise {middle : World} (onward : Onward law started base middle) : Mirrors
      (if callback.raises then throw (.raised "boom") else pure () : Act World Unit)
      (if callback.raises then throw (.raised "boom") else pure () : Act World Unit) middle
      fun _ => Onward law started base := by
    refine .same ?_
    split
    · exact onward
    · exact onward
  unfold proceed
  split
  · refine Mirrors.seq (onward.within within_getCast) fun cast middle onward => ?_
    dsimp only
    split
    · exact raise onward
    · refine Mirrors.seq (.same ?_) fun _ middle onward => ?_
      · exact onward.of_view rfl
      · exact Mirrors.seq (runScript_mirrors paired onward callback.script) fun _ _ onward =>
          raise onward
  · exact .same onward

theorem invoke_mirrors (onward : Onward law started base world) (who : Nat)
    (arguments : List Json) :
    Mirrors (invoke Step.operation nested.perform who arguments)
      (invoke Step.operation nested'.perform who arguments) world
      fun _ => Onward law started base := by
  unfold invoke
  refine Mirrors.seq (onward.within within_getCast) fun cast middle onward => ?_
  split
  · exact .same onward
  · next callback _ =>
    rw [mirrors_write]
    refine proceed_mirrors paired ?_ who callback arguments
    exact onward.noting trivial (by simp)

/-! ## Events -/

theorem tell_mirrors (onward : Onward law started base world) (listener : Listener) (event : Event) :
    Mirrors (tell nested listener event) (tell nested' listener event) world
      fun _ => Onward law started base := by
  cases listener with
  | callback who => exact invoke_mirrors paired onward who event.arguments
  | echo =>
      cases event with
      | log text => exact .same (onward.noting trivial (by simp))
      | _ => exact .same onward
  | collect =>
      cases event with
      | diagnostics uri items => exact .same (onward.of_view rfl)
      | _ => exact .same onward

theorem listeners_mirror (onward : Onward law started base world) (listeners : List Listener)
    (event : Event) :
    Mirrors
      (listeners.forM fun listener =>
        contain (tell nested listener event) do record (Log.listenerFailed (← listenerLabel listener)))
      (listeners.forM fun listener =>
        contain (tell nested' listener event) do
          record (Log.listenerFailed (← listenerLabel listener)))
      world fun _ => Onward law started base := by
  refine Mirrors.forM (fun listener _ middle onward => ?_) onward
  refine Mirrors.tryCatch (tell_mirrors paired onward listener event)
    (fun _ _ onward => onward) fun _ _ onward => ?_
  exact onward.within (reportListener_within listener)

theorem emit_mirrors (onward : Onward law started base world) (event : Event) :
    Mirrors (emit nested event) (emit nested' event) world fun _ => Onward law started base := by
  have noted : Onward law started base (world.noting (.emitted event)) :=
    onward.noting trivial (by simp)
  exact listeners_mirror paired noted (world.subscriptions.on event.channel) event

theorem emitLog_mirrors (onward : Onward law started base world) (text : Text) :
    Mirrors (emitLog nested text) (emitLog nested' text) world fun _ => Onward law started base := by
  have noted : Onward law started base (world.noting (.logged (Log.sessionEvent text))) :=
    onward.noting trivial (by simp)
  exact emit_mirrors paired noted (.log text)

end

/-! ## Writes -/

def complain (nested : Nested) (reason : Text) : Act World Unit := do
  emitLog nested ("LSP process I/O error: " ++ reason)
  requestAbort

/-- What follows a write that the server takes. -/
def hear (nested : Nested) (server : Nat) (replies : List Bytes) (message : Json) (data : Bytes) :
    Act World Unit := do
  replies.forM (nested.receive server)
  record (Log.messageOut message data.length)

def World.refusing (world : World) (server : Nat) (message : Json) : World :=
  World.noting ((world.looking server).modifyServer server fun process =>
    { process with writes := process.writes + 1 }) (.writeRefused server message)

/-- The world after a server took a message. -/
def World.accepting (world : World) (server : Nat) (message : Json) (data : Bytes) : World :=
  World.modifyServer server (fun process => process.accept message)
    (World.noting ((world.looking server).modifyServer server fun process =>
      { process with writes := process.writes + 1 }) (.wrote server message data))

/-- How a write to a running server goes. -/
inductive Course (world : World) (server : Nat) (message : Json) (data : Bytes) : Prop
  | refused (reason : Text) (goes : ∀ nested, result (writeMessage nested message data) world =
      result (complain nested reason) (world.refusing server message))
  | taken (replies : List Bytes) (goes : ∀ nested, result (writeMessage nested message data) world =
      result (hear nested server replies message data) (world.accepting server message data))

section

variable {world : World} {server : Nat} {message : Json} {data : Bytes}

theorem result_getWorld (world : World) : result (getThe World) world = (.ok world, world) := rfl

theorem result_getSession (world : World) :
    result (getThe Session : Act World Session) world = (.ok world.session, world) := rfl

theorem result_look (world : World) (server : Nat) : result (look server) world =
    (.ok ((world.looking server).isRunning server), world.looking server) := rfl

theorem result_write (world : World) (entry : Entry) :
    result (write entry : Act World Unit) world = (.ok (), world.noting entry) := rfl

theorem result_modifyWorld (world : World) (change : World → World) :
    result (modifyThe World change) world = (.ok (), change world) := rfl

theorem result_modifySession (world : World) (change : Session → Session) :
    result (modifyThe Session change : Act World Unit) world =
      (.ok (), { world with session := change world.session }) := rfl

theorem writeMessage_unserved (nested : Nested) (nobody : world.session.server = none) :
    result (writeMessage nested message data) world = (.ok (), world) := by
  simp only [writeMessage, result_bind, result_getSession, nobody]
  rfl

theorem writeMessage_ended (nested : Nested) (served : world.session.server = some server)
    (ended : (world.looking server).isRunning server = false) :
    result (writeMessage nested message data) world = (.ok (), world.looking server) := by
  simp only [writeMessage, result_bind, result_getSession, served, result_look, ended]
  rfl

theorem writeMessage_runs (served : world.session.server = some server)
    (runs : (world.looking server).isRunning server = true) :
    Course world server message data := by
  obtain ⟨process, known, -⟩ := (Option.any_eq_true _ _).mp runs
  have known : (world.looking server).server? server = some process := known
  cases refuses : process.conduct.refusesWrite process.writes with
  | some reason =>
      refine .refused reason fun nested => ?_
      simp only [writeMessage, deliver, result_bind, result_getSession, served, result_look, runs,
        if_true, result_getWorld, known, result_modifyWorld, refuses]
      rfl
  | none =>
      refine .taken (process.conduct.replies message) fun nested => ?_
      simp only [writeMessage, deliver, result_bind, result_getSession, served, result_look, runs,
        if_true, result_getWorld, known, result_modifyWorld, refuses, result_write, hear,
        World.accepting]
      generalize result ((process.conduct.replies message).forM (nested.receive server)) _ = heard
      rcases heard with ⟨_ | _, _⟩ <;> rfl

end

/-- How a message was handed over from this world. -/
inductive Wrote (law : View → Prop) (world : World) (message : Json) :
    Except Fault Unit → World → Prop
  | calm (after : World) (added : List Entry)
      (view : after.view = world.view.noting added)
      (handed : Handed world.session.server message added) :
      Wrote law world message (.ok ()) after
  | interrupted (ending : Except Fault Unit) (after : World) (server : Nat) (added : List Entry)
      (served : world.session.server = some server) (onward : Onward law False world after)
      (since : after.journal.entries = world.journal.entries ++ added)
      (interrupted : Interrupted server message added)
      (ends : world.session.stopping = true → ending = .ok ())
      (aborts : ∀ rest, added = .looked server true :: .writeRefused server message :: rest →
        after.session.abortRequested = true) :
      Wrote law world message ending after

theorem mirrors_of_results {α : Type} {first second first' second' : Act World α}
    {world world' : World} {post : Except Fault α → World → Prop}
    (goes : result first world = result first' world')
    (goes' : result second world = result second' world')
    (mirrors : Mirrors first' second' world' post) : Mirrors first second world post := by
  rw [Mirrors, Ensures, goes, goes']
  exact mirrors

theorem Onward.stopping {law : View → Prop} {started : Prop} {base world : World}
    (onward : Onward law started base world) :
    world.session.stopping = base.session.stopping := by
  obtain ⟨added, passage⟩ := onward.passage
  exact passage.stopping

theorem Onward.grown {law : View → Prop} {started : Prop} {base world : World}
    (onward : Onward law started base world) :
    ∃ added, world.journal.entries = base.journal.entries ++ added := by
  obtain ⟨added, passage⟩ := onward.passage
  exact ⟨added, passage.entries⟩

section

variable {law : View → Prop} [Upheld law] {started : Prop} {base world : World}
  {nested nested' : Nested} {message : Json}

theorem view_refusing {server : Nat} (runs : (world.looking server).isRunning server = true) :
    (world.refusing server message).view =
      world.view.noting [.looked server true, .writeRefused server message] := by
  rw [World.refusing, view_noting, view_modifyServer, view_looking, runs, View.noting_noting]
  rfl

theorem view_accepting {server : Nat} {data : Bytes}
    (runs : (world.looking server).isRunning server = true) :
    (world.accepting server message data).view =
      world.view.noting [.looked server true, .wrote server message data] := by
  rw [World.accepting, view_modifyServer, view_noting, view_modifyServer, view_looking, runs,
    View.noting_noting]
  rfl

variable (paired : Paired law nested nested')

include paired

theorem complain_mirrors (onward : Onward law started base world) (reason : Text) :
    Mirrors (complain nested reason) (complain nested' reason) world fun ending after =>
      Onward law started base after ∧ ending = .ok () ∧ after.session.abortRequested = true := by
  have told := (emitLog_mirrors paired onward ("LSP process I/O error: " ++ reason)).succeeding
    (emitLog_succeeds _)
  refine told.bind ?_ ?_
  · rintro fault after ⟨-, _, ⟨⟩⟩
  · rintro _ after ⟨onward, -⟩
    refine .same ⟨?_, rfl, rfl⟩
    exact onward.aside rfl (fun _ => ⟨List.Subset.refl _, rfl⟩) (by simp) (by simp)
      (List.append_nil _).symm rfl rfl

/-- Replies arrive one after the other. -/
theorem replies_mirror (onward : Onward law started base world) (server : Nat)
    (replies : List Bytes) :
    Mirrors (replies.forM (nested.receive server)) (replies.forM (nested'.receive server)) world
      fun ending after => Onward law started base after ∧
        (base.session.stopping = true → ending = .ok ()) := by
  induction replies generalizing world with
  | nil => exact .same ⟨onward, fun _ => rfl⟩
  | cons reply rest ih =>
      have arrived : Onward law started base (world.noting (.arrived server reply)) :=
        onward.noting trivial (by simp)
      refine (paired.receive server reply world arrived.toGoverned).bind ?_ ?_
      · rintro fault after ⟨later, ends⟩
        refine ⟨arrived.trans later, fun stopping => ?_⟩
        cases ends (onward.stopping.trans stopping)
      · rintro _ after ⟨later, -⟩
        exact ih (arrived.trans later)

/-- The server refuses the message, and that is complained about. -/
theorem refused_mirrors (governed : Governed law world) {server : Nat} (reason : Text)
    (served : world.session.server = some server)
    (runs : (world.looking server).isRunning server = true)
    (due : Due world.session message) :
    Mirrors (complain nested reason) (complain nested' reason) (world.refusing server message)
      (Wrote law world message) := by
  have view := @view_refusing world message server runs
  have move : Move law world.view (world.refusing server message).view :=
    view ▸ .refused server message served due
  have onward : Onward law False world (world.refusing server message) :=
    governed.onward.move move (passage_of_noting view
      ⟨by simp, by simp [Borders, border?], by simp [Names]⟩ (by simp) (by simp [served]))
  refine (complain_mirrors paired onward.toGoverned.here reason).mono ?_
  rintro _ after ⟨later, rfl, aborts⟩
  obtain ⟨added, grown⟩ := later.grown
  have entries : (world.refusing server message).journal.entries = world.journal.entries ++
      [.looked server true, .writeRefused server message] := congrArg View.entries view
  refine .interrupted _ after server (.looked server true :: .writeRefused server message :: added)
    served (onward.trans later) ?_ (.refused added) (fun _ => rfl) (fun _ _ => aborts)
  rw [grown, entries]
  simp

/-- The server takes the message, and may answer at once. -/
theorem taken_mirrors (governed : Governed law world) {server : Nat} (replies : List Bytes)
    (data : Bytes) (served : world.session.server = some server)
    (runs : (world.looking server).isRunning server = true)
    (due : Due world.session message) :
    Mirrors (hear nested server replies message data) (hear nested' server replies message data)
      (world.accepting server message data) (Wrote law world message) := by
  have view := @view_accepting world message server data runs
  cases replies with
  | nil =>
      refine .same (.calm _ _ ?_ (.taken server data (Log.messageOut message data.length) served))
      change ((world.accepting server message data).noting _).view = _
      rw [view_noting, view, View.noting_noting]
      rfl
  | cons reply rest =>
      have arrived : ((world.accepting server message data).noting (.arrived server reply)).view =
          world.view.noting
            [.looked server true, .wrote server message data, .arrived server reply] := by
        rw [view_noting, view, View.noting_noting]
        rfl
      have move : Move law world.view
          ((world.accepting server message data).noting (.arrived server reply)).view :=
        arrived ▸ .answered server message data reply served due
      have onward : Onward law False world
          ((world.accepting server message data).noting (.arrived server reply)) :=
        governed.onward.move move (passage_of_noting arrived
          ⟨by simp, by simp [Borders, border?], by simp [Names]⟩ (by simp) (by simp [served]))
      have entries : ((world.accepting server message data).noting
          (.arrived server reply)).journal.entries = world.journal.entries ++
            [.looked server true, .wrote server message data, .arrived server reply] :=
        congrArg View.entries arrived
      -- what has arrived while the server was written to interrupts the write
      have closes : ∀ ending after,
          Onward law False ((world.accepting server message data).noting (.arrived server reply))
            after → (world.session.stopping = true → ending = .ok ()) →
          Wrote law world message ending after := by
        intro ending after later ends
        obtain ⟨added, grown⟩ := later.grown
        refine .interrupted ending after server (.looked server true ::
          .wrote server message data :: .arrived server reply :: added) served
          (onward.trans later) ?_ (.answered data reply added) ends (by rintro _ ⟨⟩)
        rw [grown, entries]
        simp
      have stopping : (world.accepting server message data).session.stopping =
          world.session.stopping := congrArg (fun view => view.session.stopping) view
      refine Mirrors.bind (Mirrors.bind
        (paired.receive server reply _ onward.toGoverned) ?_ fun _ first first_onward =>
          replies_mirror paired first_onward.1 server rest) ?_ ?_
      · rintro fault after ⟨later, ends⟩
        exact ⟨later, fun ending => by cases ends ending⟩
      · rintro fault after ⟨later, ends⟩
        exact closes _ after later fun ending => by cases ends (stopping.trans ending)
      · rintro _ after ⟨later, -⟩
        refine .same (closes _ _ ?_ fun _ => rfl)
        exact later.noting trivial (by simp)

theorem writeMessage_mirrors (governed : Governed law world) (data : Bytes)
    (due : Due world.session message) :
    Mirrors (writeMessage nested message data) (writeMessage nested' message data) world
      (Wrote law world message) := by
  cases served : world.session.server with
  | none =>
      have silent (nested : Nested) : result (writeMessage nested message data) world =
          result (pure ()) world := writeMessage_unserved nested served
      refine mirrors_of_results (silent nested) (silent nested') (.same ?_)
      exact .calm world [] (by simp [View.noting, World.view]) (.unserved served)
  | some server =>
      cases runs : (world.looking server).isRunning server with
      | false =>
          have silent (nested : Nested) : result (writeMessage nested message data) world =
              result (pure ()) (world.looking server) := writeMessage_ended nested served runs
          refine mirrors_of_results (silent nested) (silent nested') (.same ?_)
          refine .calm (world.looking server) _ ?_ (.ended server served)
          rw [view_looking, runs]
      | true =>
          cases @writeMessage_runs world server message data served runs with
          | refused reason goes =>
              exact mirrors_of_results (goes nested) (goes nested')
                (refused_mirrors paired governed reason served runs due)
          | taken replies goes =>
              exact mirrors_of_results (goes nested) (goes nested')
                (taken_mirrors paired governed replies data served runs due)

end

end Client

end LanguageSession
