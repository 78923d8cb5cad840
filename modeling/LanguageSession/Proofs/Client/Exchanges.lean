import Mathlib
import LanguageSession.Proofs.Client.Operations
import LanguageSession.Proofs.Client.Undertakings

/-!
# What servers say and what users ask goes onward

Output of a server is handled only while its session goes on.  A user may call at any time, but
a start while a session is ending comes from inside another call.
-/

namespace LanguageSession

namespace Client

open Act

theorem mirrors_setPending {α : Type} {world : World} {post : Except Fault α → World → Prop}
    (pending : List (Json × Handler)) {next next' : PUnit → Act World α} :
    Mirrors (set (Registry.mk pending) >>= next) (set (Registry.mk pending) >>= next') world post ↔
      Mirrors (next ()) (next' ()) (world.taking pending) post := Iff.rfl

section

variable {law : View → Prop} [Upheld law] {started : Prop} {base world : World}
  {nested nested' : Nested} (paired : Paired law nested nested')

include paired

/-! ## Output of a server -/

theorem abort_mirrors (onward : Onward law started base world) (text : Text) :
    Mirrors (do emitLog nested text; requestAbort) (do emitLog nested' text; requestAbort) world
      fun _ => Onward law started base := by
  refine Mirrors.seq (emitLog_mirrors paired onward text) fun _ middle onward => .same ?_
  exact onward.aside rfl (fun _ => ⟨List.Subset.refl _, rfl⟩) (by simp) (by simp)
    (List.append_nil _).symm rfl rfl

/-- The session is announced as ready. -/
theorem ready_mirrors {middle : World} (onward : Onward law False base middle)
    (going : middle.session.stopping = false)
    (lost : middle.session.server = none → ∃ earlier server added, law earlier ∧
      middle.journal.entries = earlier.entries ++ added ∧ Interrupted server opening added) :
    Mirrors (setReady nested true) (setReady nested' true) middle
      fun _ => Onward law False base := by
  unfold setReady
  rw [mirrors_getSession]
  dsimp only
  split
  · exact .same onward
  · next unready =>
    rw [mirrors_modifySession]
    simp only [if_true]
    refine Mirrors.bind (.same (setPhase_views .ready _)) ?_ ?_
    · rintro fault after ⟨⟨⟩, -⟩
    · rintro _ phased ⟨-, notes, view⟩
      have target : (phased.noting (.emitted (.ready true))).view = { middle.view with
          session := { middle.session with ready := true, phase := .ready }
          entries := middle.journal.entries ++ (notes.map .logged ++ [.emitted (.ready true)]) } := by
        rw [view_noting, view]
        simp [View.noting]
      have move : Move law middle.view (phased.noting (.emitted (.ready true))).view :=
        target ▸ .opened notes (by simpa using unready) going lost
      have passage : Passage False middle.view (notes.map .logged ++ [.emitted (.ready true)])
          (phased.noting (.emitted (.ready true))).view := by
        rw [target]
        refine passage_of_steadfast rfl rfl rfl rfl rfl ?_ ?_ (by simp) fun _ => ?_
        · exact fun stopping => by rw [view_session, going] at stopping; cases stopping
        · exact steadfast_of_minor
            (List.forall_mem_append.mpr ⟨minor_logged, by simp [Minor]⟩)
        · exact List.forall_mem_append.mpr
            ⟨fun entry noted => (minor_logged entry noted).not_handsOver, by simp [HandsOver]⟩
      have announced : Onward law False base (phased.noting (.emitted (.ready true))) :=
        onward.move move passage
      exact listeners_mirror paired announced (phased.subscriptions.on .ready) (.ready true)

theorem finishHandshake_mirrors (governed : Governed law world)
    (served : world.session.server ≠ none) (going : world.session.stopping = false)
    (completion : Completion) :
    Mirrors (finishHandshake nested completion) (finishHandshake nested' completion) world
      fun _ => Onward law False world := by
  unfold finishHandshake
  rw [mirrors_modifySession]
  generalize known : ({ world with
    session := { world.session with handshakeId := none } } : World) = answered
  have onward : Onward law False world answered := by
    rw [← known]
    exact governed.onward.aside rfl (fun _ => ⟨List.Subset.refl _, rfl⟩) (by simp) (by simp)
      (List.append_nil _).symm rfl rfl
  have served : answered.session.server ≠ none := by
    rw [← known]
    exact served
  split
  · refine (sendNotification_mirrors paired onward.toGoverned "initialized" (.object [])
      (due_of_other documentMethod?_opening)).bind ?_ ?_
    · intro fault after notified
      cases notified with
      | written ending sent after same wrote =>
          exact onward.trans (wrote.onward onward.toGoverned documentMethod?_opening)
    · intro sent after notified
      cases notified with
      | unencodable error =>
          exact ready_mirrors paired onward (onward.stopping.trans going) fun nobody =>
            (served nobody).elim
      | written ending sent after same wrote =>
          have later := wrote.onward onward.toGoverned documentMethod?_opening
          have going : after.session.stopping = false :=
            later.stopping.trans (onward.stopping.trans going)
          -- without a server by now, the write was answered or refused in between
          refine ready_mirrors paired (onward.trans later) going fun nobody => ?_
          cases wrote with
          | calm after added view handed =>
              have session : after.session = answered.session := congrArg View.session view
              exact (served (session ▸ nobody)).elim
          | interrupted ending after server added _ _ since interrupted ends aborts =>
              exact ⟨answered.view, server, added, onward.lawful, since, interrupted⟩
  · exact abort_mirrors paired onward _

theorem complete_mirrors (governed : Governed law world) (handler : Handler)
    (current : handler = .handshake →
      world.session.server ≠ none ∧ world.session.stopping = false) (completion : Completion) :
    Mirrors (complete nested handler completion) (complete nested' handler completion) world
      fun _ => Onward law False world := by
  cases handler with
  | handshake =>
      obtain ⟨served, going⟩ := current rfl
      exact finishHandshake_mirrors paired governed served going completion
  | mailbox slot => exact .same (governed.onward.of_view rfl)
  | callback who => exact invoke_mirrors paired governed.onward who completion.arguments

/-- Who waits for the response is taken from the registry before being told. -/
theorem resolve_mirrors (governed : Governed law world) (served : world.session.server ≠ none)
    (going : world.session.stopping = false) (message : Json) :
    Mirrors (Registry.resolve (complete nested) message)
      (Registry.resolve (complete nested') message) world fun _ => Onward law False world := by
  unfold Registry.resolve
  dsimp only
  rw [mirrors_getPending, mirrors_ofExcept]
  rcases Registry.take_cases world.session.pending (message.member "id") with
    ⟨fault, -, refused⟩ | missed | ⟨before, after, key, handler, split, same, taken⟩
  · rw [refused]
    exact governed.onward
  · rw [missed]
    have noted : Onward law False world
        (world.noting (.logged (Log.untrackedResponse (message.member "id")))) :=
      governed.onward.noting trivial (by simp)
    exact .same noted
  · rw [taken]
    dsimp only
    rw [mirrors_setPending]
    have fewer : before ++ after ⊆ world.session.pending.entries :=
      (Registry.sublist_of_split split).subset
    have onward : Onward law False world (world.taking (before ++ after)) :=
      governed.onward.aside rfl (fun _ => ⟨fewer, rfl⟩) (by simp) (by simp)
        (List.append_nil _).symm rfl rfl
    have told := complete_mirrors paired onward.toGoverned handler (fun _ => ⟨served, going⟩)
      (Completion.ofResponse message)
    refine Mirrors.seq (Mirrors.tryCatch (onward.later told) (fun _ _ onward => onward) ?_) ?_
    · exact fun _ middle onward => onward.within (within_record _)
    · exact fun _ _ onward => .same onward

theorem answerRequest_mirrors (governed : Governed law world) {message : Json}
    (asks : Message.classify message = .request) :
    Mirrors (answerRequest nested message) (answerRequest nested' message) world
      fun _ => Onward law False world := by
  unfold answerRequest
  rw [mirrors_getSession, mirrors_ofExcept]
  cases replied : Answer.reply message world.session.root with
  | error fault => exact governed.onward
  | ok reply =>
      have other : documentMethod? reply.envelope = none :=
        documentMethod?_answer ⟨message, world.session.root, reply, asks, replied, rfl⟩
      have sends : ∀ middle, Onward law False world middle → Mirrors
          (sendReply nested message reply.envelope) (sendReply nested' message reply.envelope)
          middle fun _ => Onward law False world := by
        intro middle onward
        unfold sendReply
        split
        · exact onward.within (within_record _)
        · next data encoded =>
          exact onward.later ((told_mirrors paired onward.toGoverned data other).mono
            fun _ _ assured => assured.1)
      dsimp only
      split
      · next note _ =>
        have noted : Onward law False world (world.noting (.logged note)) :=
          governed.onward.noting trivial (by simp)
        exact sends _ noted
      · exact sends world governed.onward

theorem handleMessage_mirrors (governed : Governed law world)
    (served : world.session.server ≠ none) (going : world.session.stopping = false)
    (message : Json) :
    Mirrors (handleMessage nested message) (handleMessage nested' message) world
      fun _ => Onward law False world := by
  unfold handleMessage
  rw [mirrors_record]
  have noted : Onward law False world (world.noting (.logged (Log.messageIn message))) :=
    governed.onward.noting trivial (by simp)
  split
  · refine Mirrors.seq (noted.later ?_) fun _ _ onward => .same onward
    exact resolve_mirrors paired noted.toGoverned served going message
  · next asks => exact noted.later (answerRequest_mirrors paired noted.toGoverned asks)
  · split
    · exact emit_mirrors paired noted _
    · exact .same noted
  · exact noted.within (within_record _)

/-- Messages are handled while their server is the server of the session. -/
theorem handleMessages_mirrors (onward : Onward law False base world)
    (going : base.session.stopping = false) (server : Nat) (messages : List Json) :
    Mirrors (handleMessages nested server messages) (handleMessages nested' server messages) world
      fun _ => Onward law False base := by
  induction messages generalizing world with
  | nil => exact .same onward
  | cons message rest ih =>
      unfold handleMessages
      rw [mirrors_getSession]
      split
      · next current =>
        have served : world.session.server = some server := by
          simpa using (Bool.and_eq_true_iff.mp current).2
        rw [mirrors_write]
        have noted : Onward law False base (world.noting (.handling server message)) :=
          onward.noting trivial (by simp)
        refine Mirrors.seq (noted.later (handleMessage_mirrors paired noted.toGoverned ?_ ?_ message))
          fun _ middle onward => ih onward
        · exact served ▸ Option.some_ne_none server
        · exact onward.stopping.trans going
      · exact .same onward

theorem handleFeed_mirrors (governed : Governed law world) (going : world.session.stopping = false)
    (server : Nat) (fed : Frame.Feed) :
    Mirrors (handleFeed nested server fed) (handleFeed nested' server fed) world
      fun _ => Onward law False world := by
  have handles : ∀ middle, Onward law False world middle → Mirrors
      (do handleMessages nested server fed.messages; stopIfAborted nested)
      (do handleMessages nested' server fed.messages; stopIfAborted nested') middle
      fun _ => Onward law False world := by
    intro middle onward
    refine Mirrors.seq (handleMessages_mirrors paired onward going server fed.messages) ?_
    exact fun _ after onward => onward.later (stopIfAborted_onward paired onward.toGoverned)
  unfold handleFeed
  refine Mirrors.seq (governed.onward.within (Within.forM fun note _ => within_record note))
    fun _ middle onward => ?_
  split
  · exact .same onward
  · split
    · exact Mirrors.seq (emitLog_mirrors paired onward _) fun _ after onward => handles after onward
    · exact handles middle onward

/-- Output is dropped while a session ends, and handled while it goes on. -/
theorem receive_mirrors (server : Nat) (data : Bytes)
    (governed : Governed law (world.noting (.arrived server data))) :
    Mirrors (receive nested server data) (receive nested' server data) world fun ending after =>
      Onward law False (world.noting (.arrived server data)) after ∧
        (world.session.stopping = true → ending = .ok ()) := by
  unfold receive
  rw [mirrors_write, mirrors_getSession]
  split
  · next current =>
    have going : world.session.stopping = false := by
      simpa using (Bool.and_eq_true_iff.mp current).2
    rw [mirrors_modifySession]
    generalize fed : Frame.feed _ data = feed
    have fresh : Onward law False (world.noting (.arrived server data))
        { world.noting (.arrived server data) with
          session := { world.session with buffer := feed.buffer } } := by
      refine governed.onward.aside rfl (fun nobody => ?_) (by simp) (by simp)
        (List.append_nil _).symm rfl rfl
      have served : world.session.server = some server :=
        of_decide_eq_true (Bool.and_eq_true_iff.mp current).1
      rw [noting_session, served] at nobody
      cases nobody
    refine (fresh.later (handleFeed_mirrors paired fresh.toGoverned going server feed)).mono ?_
    exact fun _ _ onward => ⟨onward, fun stopping => by rw [going] at stopping; cases stopping⟩
  · exact .same ⟨governed.onward, fun _ => rfl⟩

theorem receiveError_mirrors (governed : Governed law world) (server : Nat) (text : Text) :
    Mirrors (receiveError nested server text) (receiveError nested' server text) world
      fun _ => Onward law False world := by
  unfold receiveError
  rw [mirrors_getSession]
  split
  · exact emitLog_mirrors paired governed.onward text
  · exact .same governed.onward

theorem serverEnded_mirrors (governed : Governed law world) (server : Nat) (code : Option Int) :
    Mirrors (serverEnded nested server code) (serverEnded nested' server code) world
      fun _ => Onward law False world := by
  unfold serverEnded
  rw [mirrors_getSession]
  split
  · rw [mirrors_record]
    have noted : Onward law False world (world.noting (.logged (Log.serverExited code))) :=
      governed.onward.noting trivial (by simp)
    refine Mirrors.seq (emitLog_mirrors paired noted _) fun _ middle onward => ?_
    exact onward.later (stop_onward paired onward.toGoverned (some server))
  · exact .same governed.onward

/-! ## Starting -/

theorem beginHandshake_mirrors (onward : Onward law started base world)
    (served : world.session.server ≠ none) (root : Option Text) :
    Mirrors (beginHandshake nested root) (beginHandshake nested' root) world
      fun _ => Onward law started base := by
  unfold beginHandshake
  refine (sendRequest_mirrors paired onward.toGoverned "initialize" _ fun _ => served).bind ?_ ?_
  · exact fun _ _ assured => onward.trans assured.1
  · intro sent middle assured
    have onward := onward.trans assured.1
    cases sent with
    | error error => exact abort_mirrors paired onward _
    | ok id =>
        refine .same ?_
        exact onward.aside rfl (fun _ => ⟨List.Subset.refl _, rfl⟩) (by simp) (by simp)
          (List.append_nil _).symm rfl rfl

omit paired [Upheld law] in
theorem spawn_session (server : Nat) (world : World) :
    Ensures (spawn server) world fun _ after => after.session = world.session := by
  simp only [spawn, ensures_bind, ensures_get]
  split
  · rfl
  · simp only [ensures_bind, ensures_write]
    split
    · rfl
    · rfl

theorem bringUp_mirrors (onward : Onward law started base world) {server : Nat}
    (served : world.session.server = some server) (command : Text) (arguments : List Text)
    (root : Option Text) :
    Mirrors (bringUp nested command arguments root server)
      (bringUp nested' command arguments root server) world fun _ => Onward law started base := by
  unfold bringUp
  rw [mirrors_record]
  have noted : Onward law started base
      (world.noting (.logged (Log.spawning (command :: arguments) root))) :=
    onward.noting trivial (by simp)
  have spawns : Within (Glides law) (spawn server) :=
    spawn_within server fun _ governed => governed.onward.of_view (view_modifyServer _ _ _)
  refine ((noted.within spawns).and (spawn_session server _)).bind ?_ ?_
  · exact fun _ _ spawned => spawned.1
  · rintro (_ | reason) middle ⟨onward, same⟩
    · refine Mirrors.seq (beginHandshake_mirrors paired onward ?_ root) fun _ middle onward => ?_
      · rw [same, noting_session, served]
        exact Option.some_ne_none server
      · refine Mirrors.seq (onward.later (stopIfAborted_onward paired onward.toGoverned)) ?_
        exact fun _ _ onward => .same onward
    · refine Mirrors.seq (emitLog_mirrors paired onward _) fun _ middle onward => ?_
      refine Mirrors.seq (onward.later (stop_onward paired onward.toGoverned none)) ?_
      exact fun _ _ onward => .same onward

/-- Is the session free to begin anew? -/
structure Free (world : World) : Prop where
  left : world.session.stopping = true ∨ Hollow world.journal.entries ∨
    world.session.ready = false
  vacant : world.session.server = none ∨ .doing "start" ∈ world.journal.entries

theorem stop_frees (governed : Governed law world)
    (inside : world.session.stopping = true → .doing "start" ∈ world.journal.entries) :
    Mirrors (stop nested none) (stop nested' none) world fun _ after =>
      Onward law started world after ∧ Free after := by
  refine (stop_mirrors paired governed none).mono ?_
  rintro _ after (⟨rfl, idle⟩ | ⟨left, served, going⟩)
  · refine ⟨governed.onward, ?_, ?_⟩
    · cases stopping : after.session.stopping with
      | true => exact .inl rfl
      | false =>
          have nobody : after.session.server = none := by simpa [stopping] using idle
          refine .inr (governed.sane.vacant.imp_right fun vacant => ?_)
          by_contra ready
          exact vacant (by simpa using ready) stopping nobody
    · rcases idle with nobody | stopping | expected
      · exact .inl nobody
      · exact .inr (inside stopping)
      · exact absurd rfl expected
  · refine ⟨left.onward going served, .inr (.inr left.unready), ?_⟩
    obtain ⟨added, grown, taken, untaken⟩ := left.since
    by_cases unserved : ∀ server, .serving (some server) ∉ added
    · exact .inl (untaken unserved).1
    · simp only [not_forall, not_not] at unserved
      obtain ⟨server, member⟩ := unserved
      exact .inr (grown ▸ List.mem_append_right _ (taken server member))

omit paired [Upheld law] in
theorem awaitEnding_stays (world : World) :
    Ensures awaitEnding world fun _ after => after = world := by
  simp only [awaitEnding, ensures_bind, ensures_get, ensures_ofExcept]
  split
  · split
    · simp only [ensures_ofExcept]
    · rfl
  · trivial

/-- The session is fit for a new server. -/
structure Fit (world : World) : Prop where
  fresh : Hollow world.journal.entries ∨
    world.session.ready = false ∧ world.session.documents = {}
  vacant : world.session.server = none ∨ .doing "start" ∈ world.journal.entries

def World.renewing (world : World) (root : Text) : World :=
  World.noting { world with session := world.session.renewed root } .dropped

omit paired [Upheld law] in
theorem resetSession_unready (nested : Nested) (unready : world.session.ready = false)
    (root : Text) : result (resetSession nested root) world = (.ok (), world.renewing root) := by
  have same : { world.session with
      root := root, buffer := [], pending := {}, documents := {}, nextId := 1
      handshakeId := none, abortRequested := false } = world.session.renewed root := by
    rw [Session.renewed, ← unready]
  simp only [resetSession, result_bind, result_modifySession, result_write, same]
  rfl

theorem resetSession_mirrors (governed : Governed law world) (free : Free world) (root : Text) :
    Mirrors (resetSession nested root) (resetSession nested' root) world fun ending after =>
      ending = .ok () ∧
        (world.session.ready = false ∧ after = world.renewing root ∨
          Onward law False world after ∧ Fit after) := by
  cases ready : world.session.ready with
  | false =>
      have quiet (nested : Nested) : result (resetSession nested root) world =
          result (pure ()) (world.renewing root) := resetSession_unready nested ready root
      exact mirrors_of_results (quiet nested) (quiet nested')
        (.same ((ensures_pure ()).mpr ⟨rfl, .inl ⟨rfl, rfl⟩⟩))
  | true =>
      unfold resetSession
      rw [mirrors_modifySession, mirrors_write]
      -- a ready session can only be renewed while it ends, or if it was announced in vain
      have cause : Hollow world.journal.entries ∨ underway world.journal.entries = true := by
        rcases free.left with stopping | hollow | unready
        · exact .inr (governed.sane.unsettled ready stopping)
        · exact .inl hollow
        · rw [ready] at unready
          cases unready
      have move : Move law world.view { world.view with
          session := world.session.renewed root, entries := world.journal.entries ++ [.dropped] } :=
        .renewed root ready cause
      refine (unready_mirrors paired (governed.sane.move move)
        (Upheld.move governed.sane governed.lawful move) rfl).mono ?_
      rintro _ after ⟨rfl, middle, view, onward, -⟩
      have passage : Passage False world.view [.dropped] middle.view := by
        rw [view]
        refine passage_of_steadfast rfl rfl rfl rfl rfl ?_
          ⟨by simp, by simp [Borders, border?], by simp [Names]⟩ (by simp) (by simp [HandsOver])
        exact fun _ _ => ⟨rfl, fun _ => rfl⟩
      have begun : Onward law False world middle :=
        ⟨governed_of_view view (governed.sane.move move)
          (Upheld.move governed.sane governed.lawful move), [.dropped], passage⟩
      obtain ⟨added, whole⟩ := (begun.trans onward).passage
      have entries : after.journal.entries = world.journal.entries ++ added := whole.entries
      refine ⟨rfl, .inr ⟨begun.trans onward, ?_, ?_⟩⟩
      · rcases free.left with stopping | hollow | unready
        · obtain ⟨added, later⟩ := onward.passage
          have session : middle.session = world.session.renewed root := congrArg View.session view
          have ends : middle.view.session.stopping = true := passage.stopping.trans stopping
          have lowered : middle.view.session.ready = false := congrArg Session.ready session
          have cleared : middle.view.session.documents = {} := congrArg Session.documents session
          exact .inr ⟨later.unready ends lowered, later.untracked ends lowered cleared⟩
        · exact .inl (entries ▸ hollow.append added)
        · rw [ready] at unready
          cases unready
      · -- listeners that are told may have started a session of their own
        rcases free.vacant with nobody | started
        · by_cases unserved : ∀ server, .serving (some server) ∉ added
          · exact .inl (whole.unserved nobody unserved)
          · simp only [not_forall, not_not] at unserved
            obtain ⟨server, member⟩ := unserved
            have started := (whole.taken server member).resolve_left id
            exact .inr (entries ▸ List.mem_append_right _ started)
        · exact .inr (entries ▸ List.mem_append_left _ started)

def adopt (argv : List Text) : Act World Nat := do
  setPhase .starting
  adoptServer argv

omit paired [Upheld law] in
theorem adopt_views (argv : List Text) (world : World) :
    Ensures (adopt argv) world fun ending after =>
      ending = .ok world.servers.length ∧ ∃ notes : List Log.Record, after.view =
        { session := { world.session with
            phase := .starting, server := some world.servers.length }
          entries := world.journal.entries ++
            (notes.map .logged ++ [.serving (some world.servers.length)])
          settings := world.settings
          made := world.servers.length + 1 } := by
  unfold adopt
  rw [ensures_bind]
  refine (setPhase_views .starting world).mono ?_
  rintro _ phased ⟨rfl, notes, view⟩
  dsimp only
  rw [ensures_adoptServer]
  have session := congrArg View.session view
  have entries := congrArg View.entries view
  have settings := congrArg View.settings view
  have made := congrArg View.made view
  simp only [view_session, view_entries, view_settings, view_made] at session entries settings made
  refine ⟨by rw [made], notes, ?_⟩
  simp [World.adopting, World.noting, World.view, session, entries, settings, made]

omit paired [Upheld law] in
/-- A start takes a new server. -/
theorem passage_of_taking {view view' : View} {added : List Entry} (server : Nat)
    (taken : .serving (some server) ∈ added) (settings : view'.settings = view.settings)
    (made : view.made ≤ view'.made) (entries : view'.entries = view.entries ++ added)
    (stopping : view'.session.stopping = view.session.stopping)
    (kept : view.session.ready = false →
      view'.session.ready = false ∧ (view.session.documents = {} → view'.session.documents = {}))
    (inside : ∀ entry ∈ added, ¬ Borders entry) (unreturned : ∀ result, .did "stop" result ∉ added) :
    Passage True view added view' := by
  constructor
  · exact entries
  · exact settings
  · exact made
  · exact stopping
  · exact fun _ => inside
  · exact fun _ unready => (kept unready).1
  · exact fun _ unready => (kept unready).2
  · exact fun _ _ => .inl trivial
  · exact fun _ untaken => (untaken server taken).elim
  · exact fun _ result returned => (unreturned result returned).elim
  · exact fun _ untaken => (untaken server taken).elim
  · exact fun _ _ _ _ _ _ untaken => (untaken server taken).elim

def embark (nested : Nested) (root : Text) (argv : List Text) : Act World Nat := do
  resetSession nested root
  adopt argv

theorem embark_mirrors (onward : Onward law True base world) (free : Free world) (root : Text)
    (argv : List Text) :
    Mirrors (embark nested root argv) (embark nested' root argv) world fun ending after =>
      ∃ server, ending = .ok server ∧ after.session.server = some server ∧
        Onward law True base after := by
  unfold embark
  refine (resetSession_mirrors paired onward.toGoverned free root).bind ?_ ?_
  · rintro fault after ⟨⟨⟩, -⟩
  -- a session that is not ready is emptied at once, any other tells its listeners
  rintro _ reset ⟨-, ⟨unready, rfl⟩ | ⟨later, fit⟩⟩
  · refine .same ((adopt_views argv _).mono ?_)
    rintro _ after ⟨rfl, notes, view⟩
    have entries : after.view.entries = world.view.entries ++
        (.dropped :: notes.map .logged ++ [.serving (some world.view.made)]) := by
      rw [view]
      simp [World.renewing, World.noting]
    have move : Move law world.view after.view := by
      have target := @Move.restarted law world.view root notes unready free.vacant
      rw [← entries] at target
      rw [view] at target ⊢
      exact target
    have passage : Passage True world.view
        (.dropped :: notes.map .logged ++ [.serving (some world.view.made)]) after.view := by
      refine passage_of_taking world.servers.length (by simp) (congrArg View.settings view :)
        ?_ entries (congrArg (fun view => view.session.stopping) view) ?_ ?_ (by simp)
      · exact (Nat.le_succ _).trans (congrArg View.made view).ge
      · exact fun _ => ⟨congrArg (fun view => view.session.ready) view,
          fun _ => congrArg (fun view => view.session.documents) view⟩
      · simp [or_imp, forall_and, Borders, border?]
    exact ⟨_, rfl, congrArg (fun view => view.session.server) view, onward.move move passage⟩
  · refine .same ((adopt_views argv reset).mono ?_)
    rintro _ after ⟨rfl, notes, view⟩
    have move : Move law reset.view after.view := by
      rw [view]
      exact .adopted notes fit.fresh fit.vacant
    have passage : Passage True reset.view
        (notes.map .logged ++ [.serving (some reset.servers.length)]) after.view := by
      refine passage_of_taking reset.servers.length (by simp) (congrArg View.settings view :) ?_
        (congrArg View.entries view) (congrArg (fun view => view.session.stopping) view) ?_ ?_
        (by simp)
      · exact (Nat.le_succ _).trans (congrArg View.made view).ge
      · exact fun unready => ⟨(congrArg (fun view => view.session.ready) view).trans unready,
          (congrArg (fun view => view.session.documents) view).trans⟩
      · simp [or_imp, forall_and, Borders, border?]
    exact ⟨_, rfl, congrArg (fun view => view.session.server) view,
      (onward.trans later).move move passage⟩

omit paired [Upheld law] in
theorem start_eq_embark (nested : Nested) (command : Text) (arguments : List Text)
    (root : Option Text) : start nested command arguments root = (do
      stop nested none
      awaitEnding
      let server ← embark nested (root.getD []) (command :: arguments)
      bringUp nested command arguments root server) := by
  simp only [start, embark, adopt, bringUp, bind_assoc]
  -- what is left, if anything, is one match against another with the same branches
  all_goals rfl

theorem start_mirrors (governed : Governed law world)
    (inside : world.session.stopping = true → .doing "start" ∈ world.journal.entries)
    (command : Text) (arguments : List Text) (root : Option Text) :
    Mirrors (start nested command arguments root) (start nested' command arguments root) world
      fun _ => Onward law True world := by
  rw [start_eq_embark, start_eq_embark]
  refine (stop_frees paired governed inside).bind (fun _ _ freed => freed.1) ?_
  rintro _ freed ⟨onward, free⟩
  refine Mirrors.bind (.same (awaitEnding_stays freed)) (fun _ _ same => same ▸ onward) ?_
  rintro _ _ rfl
  refine (embark_mirrors paired onward free _ _).bind ?_ ?_
  · rintro _ _ ⟨_, ⟨⟩, -⟩
  rintro _ embarked ⟨server, ⟨⟩, served, onward⟩
  exact bringUp_mirrors paired onward served command arguments root

/-! ## Requests -/

theorem trySend_mirrors (governed : Governed law world) (method : Text) (params : Json)
    (handler : Option Handler) :
    Mirrors (trySend nested method params handler) (trySend nested' method params handler) world
      fun _ => Onward law False world := by
  unfold trySend
  have asked := (governed.here.within unavailable_within).and (unavailable_settles world)
  refine asked.bind (fun _ _ asked => asked.1) ?_
  rintro refusal middle ⟨onward, -, -, -, session, served⟩
  cases refusal with
  | some error => exact .same onward
  | none =>
      have current : middle.session.server ≠ none := by
        rw [session]
        exact Option.isSome_iff_ne_none.mp (served rfl)
      refine (sendRequest_mirrors paired onward.toGoverned method params fun _ => current).bind ?_ ?_
      · exact fun _ _ assured => onward.trans assured.1
      · intro sent after assured
        have onward := onward.trans assured.1
        cases sent with
        | ok id => exact .same onward
        | error error =>
            refine .same ?_
            exact onward.noting trivial (by simp)

theorem request_mirrors (governed : Governed law world) (method : Text) (params : Json)
    (handler : Option Handler) (other : handler ≠ some .handshake) :
    Mirrors (request nested method params handler) (request nested' method params handler) world
      fun _ => Onward law False world := by
  unfold request
  refine Mirrors.seq (trySend_mirrors paired governed method params handler) ?_
  intro sent middle onward
  cases sent with
  | ok id =>
      refine Mirrors.seq (onward.later (stopIfAborted_onward paired onward.toGoverned)) ?_
      exact fun _ _ onward => .same onward
  | error error =>
      cases handler with
      | none => exact .same onward
      | some handler =>
          refine Mirrors.seq (onward.later (complete_mirrors paired onward.toGoverned handler ?_ _)) ?_
          · rintro rfl
            exact absurd rfl other
          · exact fun _ _ onward => .same onward

theorem requestSync_mirrors (governed : Governed law world) (method : Text) (params : Json)
    (timeout : Option Duration) :
    Mirrors (requestSync nested method params timeout) (requestSync nested' method params timeout)
      world fun _ => Onward law False world := by
  unfold requestSync
  rw [mirrors_get]
  dsimp only
  rw [mirrors_modifyWorld]
  generalize counted : { world with nextSlot := world.nextSlot + 1 } = middle
  have onward : Onward law False world middle := by
    rw [← counted]
    exact governed.onward.of_view rfl
  refine Mirrors.seq (onward.later (request_mirrors paired onward.toGoverned method params _ ?_)) ?_
  · simp
  · intro id after onward
    refine onward.within (Within.bind (collectMail_within _ _) fun found => ?_)
    cases found with
    | some completion => exact within_pure _
    | none =>
        refine Within.bind (within_ofExcept _) fun tenths => ?_
        exact Within.bind (within_record _) fun _ => within_pure _

end

end Client

end LanguageSession
