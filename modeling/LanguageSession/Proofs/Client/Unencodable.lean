import Mathlib
import LanguageSession.Proofs.Client.Farewells
import LanguageSession.Proofs.Client.Faults
import LanguageSession.Proofs.Client.Versions
import LanguageSession.Proofs.Frame.Encoding

/-!
# Messages that have no form

A request or a notice that cannot be encoded leaves the session as it was, and its process is
handed nothing; whoever waits for the response is told so at once.  A start that cannot greet
its process ends what it has begun.
-/

namespace LanguageSession

namespace Client

open Act

/-! ## Which messages these are -/

/-- Some value in the message has no form, or some text in it a surrogate. -/
def Unencodable (message : Json) : Prop :=
  (∃ kind, .foreign kind ∈ message.parts) ∨
    ∃ text ∈ message.texts, ∃ c ∈ text, c.isSurrogate = true

theorem encode_error_iff {message : Json} :
    (∃ error, Frame.encode message = .error error) ↔ Unencodable message := by
  have encodable : (∃ data, Frame.encode message = .ok data) ↔ ¬ Unencodable message := by
    simp only [Frame.encode_eq_ok_iff_wrap, Json.expressible_iff,
      Json.findSurrogates_compact_eq_none_iff, Unencodable]
    push Not
    simp
  rw [← not_iff_not, ← encodable]
  cases Frame.encode message with
  | ok data => simp
  | error error => simp

/-! ## Saying nothing -/

/-- The entry is neither the offer of a message to a process nor the call of a callback. -/
def Wordless : Entry → Prop
  | .wrote _ _ _ => False
  | .writeRefused _ _ => False
  | .called _ _ _ _ => False
  | _ => True

/-- The session is left alone, and nothing is said to anybody. -/
structure Unspoken (world world' : World) : Prop where
  session : world'.session = world.session
  cast : world'.cast = world.cast
  entries : Adds Wordless world world'

theorem unspoken_noting {entry : Entry} (wordless : Wordless entry) (world : World) :
    Unspoken world (world.noting entry) := ⟨rfl, rfl, adds_noting wordless world⟩

theorem unspoken_logged (note : Log.Record) (world : World) :
    Unspoken world (world.noting (.logged note)) :=
  unspoken_noting (show Wordless (.logged note) from trivial) world

instance : Lenient Unspoken where
  refl world := ⟨rfl, rfl, refl_of (Adds Wordless) world⟩
  trans _ _ _ before after := ⟨after.session.trans before.session, after.cast.trans before.cast,
    trans_of (Adds Wordless) before.entries after.entries⟩
  slighting world entry slight := by
    refine unspoken_noting ?_ world
    cases entry <;> trivial
  weakening _ _ _ _ := ⟨rfl, rfl, adds_of_journal rfl⟩

def isCalled : Entry → Bool
  | .called _ _ _ _ => true
  | _ => false

/-- The session is left alone, no process is handed anything, and these calls are made. -/
structure Declined (calls : List Entry) (world world' : World) : Prop where
  session : world'.session = world.session
  entries : ∃ added, world'.journal.entries = world.journal.entries ++ added ∧
    (∀ server, handed server added = []) ∧ added.filter isCalled = calls

section

variable {world world' : World} {calls calls' : List Entry}

theorem Declined.trans {world'' : World} (before : Declined calls world world')
    (after : Declined calls' world' world'') : Declined (calls ++ calls') world world'' where
  session := after.session.trans before.session
  entries := by
    obtain ⟨added, grown, silent, rfl⟩ := before.entries
    obtain ⟨added', grown', silent', rfl⟩ := after.entries
    refine ⟨added ++ added', by rw [grown', grown, List.append_assoc], fun server => ?_,
      List.filter_append _ _⟩
    rw [handed_append, silent, silent', List.append_nil]

theorem Unspoken.declined (unspoken : Unspoken world world') : Declined [] world world' where
  session := unspoken.session
  entries := by
    obtain ⟨added, grown, wordless⟩ := unspoken.entries
    refine ⟨added, grown, fun server => List.filterMap_eq_nil_iff.mpr fun entry member => ?_,
      List.filter_eq_nil_iff.mpr fun entry member => ?_⟩
    · have := wordless entry member
      cases entry <;> first | rfl | cases this
    · have := wordless entry member
      cases entry <;> first | exact Bool.false_ne_true | cases this

theorem Declined.quietly {world'' : World} (before : Declined calls world world')
    (after : Unspoken world' world'') : Declined calls world world'' :=
  List.append_nil calls ▸ before.trans after.declined

end

/-! ## Requests -/

/-- What the handler of a request is told that cannot be encoded. -/
def unencodableError (error : EncodeError) : Json :=
  Message.error (.integer (-32602)) (.string ("Request cannot be encoded: " ++ error.message))

/-- The session could take a request: it is ready, and its process is found running. -/
def Receptive (world : World) : Prop :=
  world.session.ready = true ∧
    ∃ server, world.session.server = some server ∧ (world.looking server).isRunning server = true

section

variable {world : World} {nested : Nested} {method : Text} {params : Json} {error : EncodeError}

def Session.request (session : Session) (method : Text) (params : Json) : Json :=
  Message.request (.nat session.nextId) (.string method) params

theorem unavailable_succeeds (world : World) :
    Ensures unavailable world fun ending _ => ∃ refusal, ending = .ok refusal := by
  simp only [unavailable, ensures_bind, ensures_getSession]
  split
  · split <;> exact ⟨_, rfl⟩
  · exact ⟨_, rfl⟩

theorem unavailable_receptive (going : world.session.stopping = false)
    (receptive : Receptive world) :
    Ensures unavailable world fun ending _ => ending = .ok none := by
  obtain ⟨ready, server, served, running⟩ := receptive
  simp only [unavailable, ensures_bind, ensures_getSession, served, going, Bool.false_eq_true,
    if_false, ensures_look, running, ready, ensures_pure, Bool.not_true]

/-- Such a request is not tried, and it is said why. -/
theorem trySend_unencodable (handler : Option Handler) (going : world.session.stopping = false)
    (unencodable : Frame.encode (world.session.request method params) = .error error) :
    Ensures (trySend nested method params handler) world fun ending world' =>
      Unspoken world world' ∧ ∃ reason, ending = .ok (.error reason) ∧
        (Receptive world → reason = unencodableError error) := by
  have looked : Ensures unavailable world fun _ => Unspoken world := unavailable_within world
  have judged : Ensures unavailable world fun ending _ =>
      Receptive world → ending = .ok none := unavailable_receptive going
  unfold trySend
  rw [ensures_bind]
  refine ((looked.and judged).and (unavailable_succeeds world)).mono ?_
  rintro _ looked ⟨⟨unspoken, judged⟩, refusal, rfl⟩
  cases refusal with
  | some reason =>
      refine ⟨unspoken, reason, rfl, fun receptive => ?_⟩
      cases judged receptive
  | none =>
      have same : Frame.encode (looked.session.request method params) = .error error := by
        rw [unspoken.session, unencodable]
      simp only [Session.request] at same
      simp only [sendRequest, ensures_bind, ensures_getSession, same, ensures_pure]
      exact ⟨trans_of Unspoken unspoken (unspoken_logged _ looked), _, rfl, fun _ => rfl⟩

/-- What a step returns whose message cannot be encoded; its handler may fail. -/
def Step.refusal (error : EncodeError) : Step → Except Fault Json
  | .request _ _ none => .ok (.integer (-1))
  | .request _ _ (some callback) =>
    (idleOutcome callback [.null, unencodableError error]).map fun _ => .integer (-1)
  | _ => .ok .null

/-- The handler of the request is called. -/
def Step.refusalCalls (who : Nat) (error : EncodeError) : Step → List Entry
  | .request _ _ (some callback) =>
    [.called who "handler" callback.name [.null, unencodableError error]]
  | _ => []

theorem performRequest_unencodable (going : world.session.stopping = false)
    (unencodable : Frame.encode (world.session.request method params) = .error error)
    (handler : Option (Callback Step))
    (idle : ∀ callback ∈ handler, callback.script = []) :
    Ensures (performWith nested (.request method params handler)) world fun ending world' =>
      ∃ calls, Declined calls world world' ∧ (Receptive world →
        ending = Step.refusal error (.request method params handler) ∧
          calls = Step.refusalCalls world.cast.callbacks.length error
            (.request method params handler)) := by
  cases handler with
  | none =>
      simp only [performWith, request, ensures_bind]
      refine (trySend_unencodable none going unencodable).mono ?_
      rintro _ tried ⟨unspoken, reason, rfl, -⟩
      exact ⟨[], unspoken.declined, fun _ => ⟨rfl, rfl⟩⟩
  | some callback =>
      have idle := idle callback rfl
      rw [performWith, ensures_bind, ensures_addCallback]
      let waiting : Callback Step := { callback with kind := "handler" }
      have added : Declined [] world (world.adding waiting) :=
        ⟨rfl, [], (List.append_nil _).symm, fun _ => rfl, rfl⟩
      simp only [request, ensures_bind]
      have tries : Ensures (trySend nested method params
          (some (.callback world.cast.callbacks.length))) (world.adding waiting) _ :=
        trySend_unencodable _ going unencodable
      refine tries.mono ?_
      rintro _ tried ⟨unspoken, reason, rfl, meant⟩
      -- the handler was added before the request was tried
      have known : tried.cast.callbacks[world.cast.callbacks.length]? = some waiting := by
        rw [unspoken.cast]
        simp [World.adding]
      dsimp only
      rw [ensures_bind]
      refine (invoke_idle [.null, reason] known (.inl idle)).mono ?_
      rintro _ told ⟨rfl, rfl⟩
      let call : Entry :=
        .called world.cast.callbacks.length "handler" callback.name [.null, reason]
      have called : Declined [call] world
          ((tried.noting call).spending world.cast.callbacks.length waiting [.null, reason]) :=
        (added.quietly unspoken).trans ⟨rfl, [call], rfl, fun _ => rfl, rfl⟩
      have refusal (receptive : Receptive world) :
          (idleOutcome waiting [.null, reason]).map (fun _ => Json.integer (-1)) =
            Step.refusal error (.request method params (some callback)) ∧
          [call] = Step.refusalCalls world.cast.callbacks.length error
            (.request method params (some callback)) := by
        obtain rfl := meant receptive
        exact ⟨rfl, rfl⟩
      cases outcome : idleOutcome waiting [.null, reason] with
      | ok _ =>
          rw [outcome] at refusal
          have wordless : Wordless (.requested world.cast.callbacks.length none) := trivial
          exact ⟨_, called.quietly (unspoken_noting wordless _), refusal⟩
      | error fault =>
          rw [outcome] at refusal
          exact ⟨_, called, refusal⟩

/-! ## Notices -/

theorem giveNotice_unspoken (notice : Notice) (calm : world.session.abortRequested = false)
    (unencodable : Frame.encode (notice.message world.session.documents) = .error error) :
    Ensures (giveNotice nested notice >>= fun _ => pure Json.null) world fun ending world' =>
      ending = .ok .null ∧ Unspoken world world' := by
  rw [ensures_bind]
  cases ready : world.session.ready with
  | true =>
      rw [ensures_of_result (giveNotice_unencodable nested notice ready calm unencodable)]
      exact ⟨rfl, unspoken_logged _ world⟩
  | false =>
      simp only [giveNotice, ensures_bind, ensures_getSession, ready, Bool.false_eq_true, if_false,
        ensures_pure]
      exact ⟨trivial, refl_of Unspoken world⟩

/-! ## Steps -/

/-- The message with which a step turns to the process of the session. -/
def Step.envelope? (session : Session) : Step → Option Json
  | .request method params _ => some (session.request method params)
  | .didOpen uri language text =>
    some ((Notice.opened uri language text).message session.documents)
  | .didChange uri text => some ((Notice.changed uri text).message session.documents)
  | .didClose uri => some ((Notice.closed uri).message session.documents)
  | _ => none

/-- What is left of a turn whose message cannot be encoded. -/
structure Traceless (world : World) (step : Step) (error : EncodeError) (taken : Turn World) :
    Prop where
  session : taken.after.session = world.session
  silent : ∀ server, handed server taken.entries = []
  answered : Receptive world → taken.outcome = step.refusal error ∧
    taken.entries.filter isCalled = step.refusalCalls world.cast.callbacks.length error

theorem performWith_unencodable {step : Step} {message : Json} (rest : Rest world.session)
    (envelope : step.envelope? world.session = some message)
    (unencodable : Frame.encode message = .error error)
    (idle : ∀ callback ∈ step.callback?, callback.script = []) :
    Ensures (performWith nested step) world fun ending world' =>
      ∃ calls, Declined calls world world' ∧ (Receptive world → ending = step.refusal error ∧
        calls = step.refusalCalls world.cast.callbacks.length error) := by
  have notices (notice : Notice) (same : notice.message world.session.documents = message) :
      Ensures (giveNotice nested notice >>= fun _ => pure Json.null) world fun ending world' =>
        ∃ calls, Declined calls world world' ∧
          (Receptive world → ending = .ok .null ∧ calls = []) := by
    subst same
    refine (giveNotice_unspoken notice rest.abortRequested unencodable).mono ?_
    rintro _ world' ⟨rfl, unspoken⟩
    exact ⟨[], unspoken.declined, fun _ => ⟨rfl, rfl⟩⟩
  cases step with
  | request method params handler =>
      obtain rfl := Option.some.inj envelope
      exact performRequest_unencodable rest.stopping unencodable handler idle
  | didOpen uri language text =>
      exact notices (.opened uri language text) (Option.some.inj envelope)
  | didChange uri text => exact notices (.changed uri text) (Option.some.inj envelope)
  | didClose uri => exact notices (.closed uri) (Option.some.inj envelope)
  | _ => cases envelope

theorem turn_unencodable {step : Step} {message : Json} (rest : Rest world.session)
    (envelope : step.envelope? world.session = some message)
    (unencodable : Frame.encode message = .error error)
    (idle : ∀ callback ∈ step.callback?, callback.script = []) :
    Traceless world step error (turn (performWith nested) world step) := by
  have performs : Ensures (performWith nested step) world _ :=
    performWith_unencodable rest envelope unencodable idle
  obtain ⟨calls, ⟨session, added, grown, silent, rfl⟩, answered⟩ := performs
  have entries : (turn (performWith nested) world step).entries = added := turn_entries grown
  rw [← entries] at silent answered
  exact ⟨session, silent, answered⟩

end

/-! ## Silence towards processes -/

section

variable {world : World} {nested : Nested}

/-- What has happened can be heard, but no process was handed anything. -/
def Silence (world world' : World) : Prop :=
  ∃ heard, Sequel heard world world' ∧ ∀ server, handed server heard = []

theorem Sequel.silence {world' : World} (sequel : Sequel [] world world') : Silence world world' :=
  ⟨[], sequel, fun _ => rfl⟩

theorem Silence.trans {world' world'' : World} (before : Silence world world')
    (after : Silence world' world'') : Silence world world'' := by
  obtain ⟨heard, sequel, silent⟩ := before
  obtain ⟨heard', sequel', silent'⟩ := after
  refine ⟨heard ++ heard', sequel.trans sequel', fun server => ?_⟩
  rw [handed_append, silent, silent', List.append_nil]

theorem Silence.docile {world' : World} (silence : Silence world world') (docile : Docile world) :
    Docile world' := by
  obtain ⟨heard, sequel, -⟩ := silence
  exact docile.later sequel

theorem Silence.conduct {world' : World} (silence : Silence world world') :
    SameConduct world world' := by
  obtain ⟨heard, sequel, -⟩ := silence
  exact sequel.conduct

theorem spawn_silence (server : Nat) (world : World) :
    Ensures (spawn server) world fun ending world' => (∃ failure, ending = .ok failure) ∧
      world'.session = world.session ∧ Silence world world' := by
  simp only [spawn, ensures_bind, ensures_get]
  cases world.server? server with
  | none => exact ⟨⟨_, rfl⟩, rfl, (sequel_refl world).silence⟩
  | some process =>
      simp only [ensures_bind, ensures_write, add_eq_noting]
      let entry : Entry := .spawned server process.argv world.settings.startTimeout
      have noted : Sequel [entry] world (world.noting entry) := sequel_noting entry world
      cases process.conduct.refusesStart with
      | some reason => exact ⟨⟨_, rfl⟩, rfl, [entry], noted, fun _ => rfl⟩
      | none =>
          let run (process : Server) : Server := { process with running := true }
          have runs : Sequel [entry] world ((world.noting entry).modifyServer server run) :=
            noted.silently (sequel_modifying _ server fun _ => rfl)
          exact ⟨⟨_, rfl⟩, rfl, [entry], runs, fun _ => rfl⟩

theorem emitLog_silence (docile : Docile world) (text : Text) :
    Ensures (emitLog nested text) world fun ending world' => ending = .ok () ∧
      world'.session = world.session ∧ Silence world world' := by
  refine (emitLog_sequel docile text).mono ?_
  rintro _ world' ⟨rfl, told, same⟩
  exact ⟨rfl, same, _, told, fun _ => rfl⟩

/-- A session that is not ready is stopped without a word to its process. -/
theorem stop_silence {server : Nat} {expected : Option Nat} (deaf : Deaf nested)
    (own : ∀ other ∈ expected, other = server) (docile : Docile world)
    (going : world.session.stopping = false) (unready : world.session.ready = false)
    (served : world.session.server = some server) (known : server < world.servers.length) :
    Ensures (stop nested expected) world fun ending world' => ending = world.closing server ∧
      world'.session.phase = .stopped ∧ Silence world world' := by
  have unasked : world.session.ready = true → world.session.abortRequested = false := by
    simp [unready]
  refine (stop_sequel deaf own docile going unasked served known).mono ?_
  rintro _ world' ⟨rfl, asked, heard, leaves, sequel, session⟩
  refine ⟨rfl, by rw [session]; rfl, heard, sequel, fun other => ?_⟩
  obtain ⟨met, _, _, sighted, tally⟩ := leaves.tally
  by_cases same : other = server
  · have unmet : met = [] := by simpa [Sighted, unready] using sighted
    have offers := tally.offers
    rw [unmet] at offers
    exact same ▸ List.map_eq_nil_iff.mp offers
  · exact tally.others other same

/-! ## Starts in vain -/

def Unaddressed (count : Nat) (world world' : World) : Prop :=
  ∃ added, world'.journal.entries = world.journal.entries ++ added ∧
    ∀ server, count ≤ server → handed server added = []

theorem Unaddressed.trans {count : Nat} {world' world'' : World}
    (before : Unaddressed count world world') (after : Unaddressed count world' world'') :
    Unaddressed count world world'' := by
  obtain ⟨added, grown, unaddressed⟩ := before
  obtain ⟨added', grown', unaddressed'⟩ := after
  refine ⟨added ++ added', by rw [grown', grown, List.append_assoc], fun server beyond => ?_⟩
  rw [handed_append, unaddressed server beyond, unaddressed' server beyond, List.append_nil]

theorem Sequel.unaddressed {count : Nat} {heard : List Entry} {world' : World}
    (sequel : Sequel heard world world')
    (silent : ∀ server, count ≤ server → handed server heard = []) :
    Unaddressed count world world' := by
  obtain ⟨added, grown, loud⟩ := sequel.entries
  refine ⟨added, grown, fun server beyond => ?_⟩
  rw [← handed_loud, loud, silent server beyond]

/-- What closing the process of the session comes to, if there is one. -/
def World.leaving (world : World) : Except Fault Unit :=
  match world.session.server with
  | none => .ok ()
  | some server => world.closing server

/-- A session that is stopped before the next one begins. -/
structure MadeWay (world : World) (ending : Except Fault Unit) (world' : World) : Prop where
  ends : ending = world.leaving
  cleared : Cleared world'.session
  phase : world.session.server.isSome → world'.session.phase = .stopped
  sequel : ∃ heard, Sequel heard world world' ∧
    ∀ server, world.servers.length ≤ server → handed server heard = []

theorem stop_makes_way (deaf : Deaf nested) (docile : Docile world) (rest : Rest world.session)
    (made : ∀ server ∈ world.session.server, server < world.servers.length) :
    Ensures (stop nested none) world (MadeWay world) := by
  cases served : world.session.server with
  | none =>
      rw [ensures_of_result (result_stop_of_unserved nested served)]
      refine ⟨by rw [World.leaving, served], rest.cleared served, by simp [served],
        [], sequel_refl world, fun _ _ => rfl⟩
  | some server =>
      refine (stop_sequel deaf (by simp) docile rest.stopping (fun _ => rest.abortRequested)
        served (made server served)).mono ?_
      rintro _ world' ⟨rfl, asked, heard, leaves, sequel, session⟩
      refine ⟨by rw [World.leaving, served], ?_, fun _ => by rw [session]; rfl, heard, sequel, ?_⟩
      · rw [session]
        exact ⟨rfl, rfl, rfl, rfl⟩
      · obtain ⟨_, _, _, -, tally⟩ := leaves.tally
        intro other beyond
        exact tally.others other (by have := made server served; omega)

theorem prepare_sequel (root : Text) {time : Duration}
    (known : endingTime world.settings = .ok time) (cleared : Cleared world.session) :
    Ensures (prepare nested root) world fun ending world' => ending = .ok () ∧
      world'.session = awakened root ∧ Sequel [.dropped] world world' := by
  unfold prepare
  rw [ensures_bind, awaitEnding_cleared known cleared]
  dsimp only
  rw [ensures_bind, resetSession_cleared root cleared]
  have reset : Sequel [.dropped] world (World.noting
      { world with session := { phase := world.session.phase, root := root } } .dropped) :=
    (sequel_session world _).trans (sequel_noting .dropped _)
  refine (setPhase_sequel .starting _).mono ?_
  rintro ending world' ⟨ends, session, quiet⟩
  exact ⟨ends, session, reset.silently quiet⟩

theorem prepare_refused (root : Text) {error : TimeError}
    (refused : endingTime world.settings = .error error) :
    Ensures (prepare nested root) world fun ending world' =>
      ending = .error (.time error) ∧ world' = world := by
  simp only [prepare, awaitEnding, ensures_bind, ensures_get, refused, ensures_ofExcept]
  exact ⟨rfl, trivial⟩

variable {root : Text} {error : EncodeError}

theorem beginHandshake_vain (docile : Docile world) (first : world.session.nextId = 1)
    (unencodable : Frame.encode (greeting (.string root)) = .error error) :
    Ensures (beginHandshake nested (some root)) world fun ending world' => ending = .ok () ∧
      world'.session = { world.session with abortRequested := true } ∧ Silence world world' := by
  have same : Frame.encode (Message.request (.nat 1) (Text.ofString "initialize")
      (Message.initializeParams (.string root))) = .error error := unencodable
  simp only [beginHandshake, sendRequest, ensures_bind, ensures_getSession, first, Option.map_some,
    Option.getD_some, same, ensures_pure]
  refine (emitLog_silence docile _).mono ?_
  rintro _ told ⟨rfl, kept, silence⟩
  simp only [requestAbort, ensures_modifySession]
  exact ⟨trivial, by simp only [kept, first], silence.trans (sequel_session told _).silence⟩

theorem bringUp_vain (deaf : Deaf nested) (docile : Docile world) {server : Nat}
    (unencodable : Frame.encode (greeting (.string root)) = .error error)
    (begun : world.session = launched root server) (known : server < world.servers.length)
    (command : Text) (arguments : List Text) :
    Ensures (bringUp nested command arguments (some root) server) world fun ending world' =>
      ending = (world.closing server).map (fun _ => false) ∧
        world'.session.phase = .stopped ∧ Silence world world' := by
  unfold bringUp
  simp only [record, ensures_bind, ensures_write, add_eq_noting]
  have noted : Silence world _ :=
    (sequel_noting (.logged (Log.spawning (command :: arguments) (some root))) world).silence
  refine (spawn_silence server _).mono ?_
  rintro _ spawned ⟨⟨failure, rfl⟩, same, silence⟩
  have silence := noted.trans silence
  have begun : spawned.session = launched root server := same.trans begun
  cases failure with
  | some reason =>
      simp only [ensures_bind]
      refine (emitLog_silence (silence.docile docile) _).mono ?_
      rintro _ told ⟨rfl, kept, hushed⟩
      have silence := silence.trans hushed
      have begun : told.session = launched root server := kept.trans begun
      have known : server < told.servers.length := silence.conduct.count ▸ known
      refine (stop_silence deaf (by simp) (silence.docile docile) (by rw [begun]; rfl)
        (by rw [begun]; rfl) (by rw [begun]; rfl) known).mono ?_
      rintro _ stopped ⟨rfl, phase, hushed⟩
      rw [silence.conduct.closing]
      cases world.closing server with
      | ok _ => exact ⟨rfl, phase, silence.trans hushed⟩
      | error fault => exact ⟨rfl, phase, silence.trans hushed⟩
  | none =>
      simp only [ensures_bind]
      refine (beginHandshake_vain (silence.docile docile) (by rw [begun]; rfl) unencodable).mono ?_
      rintro _ greeted ⟨rfl, kept, hushed⟩
      have silence := silence.trans hushed
      have begun : greeted.session = { launched root server with abortRequested := true } := by
        rw [kept, begun]
      have known : server < greeted.servers.length := silence.conduct.count ▸ known
      -- the greeting has no form, so the session that was begun is aborted at once
      have stops : Ensures (stopIfAborted nested) greeted fun ending world' =>
          ending = greeted.closing server ∧
            world'.session.phase = .stopped ∧ Silence greeted world' := by
        simp only [stopIfAborted, ensures_bind, ensures_getSession, begun]
        exact stop_silence deaf (by simp) (silence.docile docile) (by rw [begun]; rfl)
          (by rw [begun]; rfl) (by rw [begun]; rfl) known
      refine stops.mono ?_
      rintro _ stopped ⟨rfl, phase, hushed⟩
      rw [silence.conduct.closing]
      cases world.closing server with
      | ok _ =>
          simp only [ensures_getSession, ensures_pure, phase]
          exact ⟨rfl, trivial, silence.trans hushed⟩
      | error fault => exact ⟨rfl, phase, silence.trans hushed⟩

/-- What a start comes to that cannot greet its process, which is then closed. -/
def World.vainStart (world : World) : Except Fault Bool := do
  world.leaving
  let _ ← (endingTime world.settings).mapError Fault.time
  match world.factory.refusesClose with
  | some reason => throw (.raised reason)
  | none => return false

theorem closing_adopting (argv : List Text) (world : World) :
    (world.adopting argv).closing world.servers.length =
      match world.factory.refusesClose with
      | some reason => .error (.raised reason)
      | none => .ok () := by
  have last : (world.adopting argv).server? world.servers.length =
      some ⟨argv, world.factory, false, none, false, 0, 0⟩ := by
    simp [World.server?, World.adopting, World.noting]
  rw [World.closing, last]
  rfl

theorem start_vain (deaf : Deaf nested) (docile : Docile world) (rest : Rest world.session)
    (made : ∀ server ∈ world.session.server, server < world.servers.length)
    (unencodable : Frame.encode (greeting (.string root)) = .error error)
    (command : Text) (arguments : List Text) :
    Ensures (start nested command arguments (some root)) world fun ending world' =>
      ending = world.vainStart ∧ Unaddressed world.servers.length world world' ∧
        ∀ time, endingTime world.settings = .ok time → world'.session.phase = .stopped := by
  rw [start_eq, ensures_bind]
  refine (stop_makes_way deaf docile rest made).mono ?_
  rintro _ ended ⟨rfl, cleared, phase, heard, sequel, silent⟩
  have unaddressed := sequel.unaddressed silent
  cases leaving : world.leaving with
  | error fault =>
      refine ⟨by rw [World.vainStart, leaving]; rfl, unaddressed, fun _ _ => phase ?_⟩
      cases served : world.session.server with
      | none => simp [World.leaving, served] at leaving
      | some server => rfl
  | ok _ =>
      dsimp only
      rw [ensures_bind]
      cases known : endingTime world.settings with
      | error reason =>
          have refused : endingTime ended.settings = .error reason := by rw [sequel.settings, known]
          refine (prepare_refused _ refused).mono ?_
          rintro _ _ ⟨rfl, rfl⟩
          refine ⟨by rw [World.vainStart, leaving, known]; rfl, unaddressed, ?_⟩
          rintro _ ⟨⟩
      | ok time =>
          have known' : endingTime ended.settings = .ok time := by rw [sequel.settings, known]
          refine (prepare_sequel _ known' cleared).mono ?_
          rintro _ prepared ⟨rfl, session, dropped⟩
          have sequel := sequel.trans dropped
          have count : prepared.servers.length = world.servers.length := sequel.conduct.count
          have docile := docile.later sequel
          dsimp only
          rw [ensures_bind, ensures_adoptServer]
          dsimp only
          have begun : (prepared.adopting (command :: arguments)).session =
              launched root prepared.servers.length := by
            simp [World.adopting, session, awakened, launched]
          have docile : Docile (prepared.adopting (command :: arguments)) :=
            ⟨docile.scriptless, docile.listeners⟩
          have last : prepared.servers.length <
              (prepared.adopting (command :: arguments)).servers.length := by
            simp [World.adopting, World.noting]
          refine (bringUp_vain deaf docile unencodable begun last command arguments).mono ?_
          rintro _ world' ⟨rfl, stopped, hushed⟩
          refine ⟨?_, ?_, fun _ _ => stopped⟩
          · rw [closing_adopting, sequel.factory, World.vainStart, leaving, known]
            cases world.factory.refusesClose <;> rfl
          · -- the new process is the only one that could have been told something
            have adopts : Unaddressed world.servers.length prepared
                (prepared.adopting (command :: arguments)) := ⟨[_], rfl, fun _ _ => rfl⟩
            obtain ⟨noise, last, silent'⟩ := hushed
            refine (sequel.unaddressed fun server beyond => ?_).trans
              (adopts.trans (last.unaddressed fun server _ => silent' server))
            rw [handed_append, silent server beyond]
            rfl

end

/-! ## What cannot be said is not said -/

theorem unencodable_greeting {root : Text} (surrogate : ∃ c ∈ root, c.isSurrogate = true) :
    Unencodable (greeting (.string root)) := by
  refine .inr ⟨root, ?_, surrogate⟩
  have form : greeting (.string root) = .object [("jsonrpc", .literal "2.0"), ("id", .nat 1),
      ("method", .string "initialize"), ("params", Message.initializeParams (.string root))] := rfl
  rw [form]
  simp [Json.texts, Json.parts, Json.memberParts, Message.initializeParams, Json.ownTexts]

/-- A start that cannot greet its process. -/
structure StartsInVain (world : World) (begun : Turn World) : Prop where
  outcome : begun.outcome = world.vainStart.map .bool
  silent : ∀ server, world.servers.length ≤ server → handed server begun.entries = []
  stopped : ∀ time, endingTime world.settings = .ok time → begun.after.session.phase = .stopped

theorem start_in_vain (depth : Nat) {world : World} (docile : Docile world)
    (rest : Rest world.session)
    (made : ∀ server ∈ world.session.server, server < world.servers.length) (command : Text)
    (arguments : List Text) {root : Text} (surrogate : ∃ c ∈ root, c.isSurrogate = true) :
    StartsInVain world (turn (performWith (nestedCalls depth)) world
      (.start command arguments (some root))) := by
  obtain ⟨error, unencodable⟩ := encode_error_iff.mpr (unencodable_greeting surrogate)
  have starts : Ensures (performWith (nestedCalls depth) (.start command arguments (some root)))
      world fun ending world' => ending = world.vainStart.map .bool ∧
        Unaddressed world.servers.length world world' ∧
          ∀ time, endingTime world.settings = .ok time → world'.session.phase = .stopped := by
    rw [performWith, ensures_bind]
    refine (start_vain (nestedCalls_deaf depth) docile rest made unencodable command
      arguments).mono ?_
    rintro _ world' ⟨rfl, follows⟩
    cases world.vainStart with
    | ok _ => exact ⟨rfl, follows⟩
    | error fault => exact ⟨rfl, follows⟩
  obtain ⟨outcome, ⟨added, grown, silent⟩, stopped⟩ := starts
  rw [← turn_entries grown] at silent
  exact ⟨outcome, silent, stopped⟩

/-- In a run in which servers only write messages that have a form, no such failure gets out. -/
theorem turns_contained {kind : Step → Prop} (hereditary : Hereditary kind)
    (encodable : Encodable kind) (depth : Nat) {world : World} (scripted : Scripted kind world)
    {script : List Step} (of_kind : ∀ step ∈ script, kind step) :
    ∀ taken ∈ turns (performWith (nestedCalls depth)) world script, Contained taken.outcome := by
  induction script generalizing world with
  | nil => simp [turns]
  | cons step script ih =>
      have calls := nestedCalls_sealed hereditary encodable depth
      have sealed : Ensures (performWith (nestedCalls depth) step) world fun ending world' =>
          Scripted kind world' ∧ Contained ending :=
        performWith_sealed hereditary encodable calls (of_kind step List.mem_cons_self) world
          scripted
      intro taken member
      rcases List.mem_cons.mp member with rfl | later
      · exact sealed.2
      · exact ih sealed.1 (fun other inner => of_kind other (List.mem_cons_of_mem _ inner))
          taken later

theorem receptive_busyWorld : Receptive busyWorld :=
  ⟨by decide +kernel, 0, by decide +kernel, by decide +kernel⟩

/-- A request with a parameter that has no form, and a handler that may fail. -/
def foreignRequest (fails : Bool) : Step :=
  .request "x" (.foreign .object) (some ⟨"handler", "h", [], none, fails⟩)

theorem encode_foreignRequest (id : Nat) :
    Frame.encode (Message.request (.nat id) (.string "x") (.foreign .object)) =
      .error (.unserializable .object) := Frame.encode_eq_unserializable_iff.mpr rfl

/-- A new client, where times cannot be added up. -/
def endlessWorld : World := { settings := { shutdownGrace := .whole (10 ^ 400) } }

end Client

end LanguageSession
