import Mathlib
import LanguageSession.Proofs.Client.Lenience
import LanguageSession.Proofs.Client.Placement
import LanguageSession.Proofs.Client.Refusal

/-!
# How journals are worded

However calls nest, what a session tells its listeners stands in the journal in a few phrases.
A text is told right after it was recorded, unless it is what a notification of the server says,
and the session is announced as ready after it has tried to tell its server so.
-/

namespace LanguageSession

namespace Client

open Act

/-! ## Phrases -/

/-- Entries that stand on their own. -/
def Loose : Entry → Prop
  | .logged note => Unmarked note
  | .emitted _ => False
  | .handling _ message => notified message = none
  | _ => True

theorem Mild.loose {entry : Entry} (mild : Mild entry) : Loose entry := by
  cases entry with
  | logged note => exact mild
  | emitted event => cases mild
  | handling server message => cases mild
  | _ => trivial

/-- The message accepts the session that its server was asked for. -/
def Accepts (message : Json) : Prop :=
  Message.classify message = .response ∧ (Completion.ofResponse message).error.isEmpty = true

/-- The server of the session has accepted it, and was to be told that it is open. -/
def Opening (journal : List Entry) : Prop :=
  ∃ earlier server message later,
    journal = earlier ++ .handling server message :: .logged (Log.messageIn message) :: later ∧
      (standing earlier).server = some server ∧ Accepts message ∧
      (Handed (some server) opening later ∨ Interrupted server opening later)

/-- Journals that consist of phrases. -/
inductive Phrased : List Entry → Prop
  | nothing : Phrased []
  | loose {journal : List Entry} {entry : Entry} (before : Phrased journal) (stands : Loose entry) :
      Phrased (journal ++ [entry])
  /-- A text is recorded and told. -/
  | told {journal : List Entry} (before : Phrased journal) (text : Text) :
      Phrased (journal ++ [.logged (Log.sessionEvent text), .emitted (.log text)])
  /-- What a notification of a server says is told. -/
  | relayed {journal : List Entry} (before : Phrased journal) (server : Nat) (message : Json)
      {event : Event} (notifies : notified message = some event) :
      Phrased (journal ++
        [.handling server message, .logged (Log.messageIn message), .emitted event])
  | changed {journal : List Entry} (before : Phrased journal) (old : Phase) {new : Phase}
      (unready : new ≠ .ready) :
      Phrased (journal ++ [.logged (Log.stateChange old.name new.name)])
  | unready {journal : List Entry} (before : Phrased journal) :
      Phrased (journal ++ [.emitted (.ready false)])
  | ready {journal : List Entry} (before : Phrased journal) (opens : Opening journal)
      (changes : List Phase) (few : changes.length ≤ 1) :
      Phrased (journal ++
        ((changes.map fun old => .logged (Log.stateChange old.name Phase.ready.name)) ++
          [.emitted (.ready true)]))

/-! ## Worlds whose journals are phrased -/

structure Worded (world : World) : Prop where
  served : (standing world.journal.entries).server = world.session.server
  phrased : Phrased world.journal.entries

def Words (world world' : World) : Prop :=
  Worded world → Worded world' ∧ world.journal.entries <+: world'.journal.entries

instance : IsPreorder World Words where
  refl _ worded := ⟨worded, List.prefix_rfl⟩
  trans _ _ _ first second worded := by
    obtain ⟨worded, grown⟩ := first worded
    obtain ⟨worded, grown'⟩ := second worded
    exact ⟨worded, grown.trans grown'⟩

section

variable {base world world' : World}

theorem words_of_phrase {added : List Entry} (unserved : ∀ server, .serving server ∉ added)
    (session : world'.session.server = world.session.server)
    (grown : world'.journal.entries = world.journal.entries ++ added)
    (phrase : Phrased world.journal.entries → Phrased (world.journal.entries ++ added)) :
    Words world world' := by
  intro worded
  refine ⟨⟨?_, grown ▸ phrase worded.phrased⟩, grown ▸ List.prefix_append _ _⟩
  rw [grown, standing_server_of_unserved unserved, session, worded.served]

theorem Phrased.append_loose {journal added : List Entry} (phrased : Phrased journal)
    (loose : ∀ entry ∈ added, Loose entry) : Phrased (journal ++ added) := by
  induction added using List.reverseRecOn with
  | nil => rwa [List.append_nil]
  | append_singleton added entry ih =>
      rw [← List.append_assoc]
      exact (ih fun other member => loose other (List.mem_append_left _ member)).loose
        (loose entry (by simp))

theorem words_of_view {added : List Entry} (view : world'.view = world.view.noting added)
    (loose : ∀ entry ∈ added, Loose entry) (unserved : ∀ server, .serving server ∉ added) :
    Words world world' :=
  words_of_phrase unserved (congrArg (fun view => view.session.server) view)
    (congrArg View.entries view) fun phrased => phrased.append_loose loose

theorem words_of_journal (session : world'.session.server = world.session.server)
    (same : world'.journal = world.journal) : Words world world' := by
  have grown : world'.journal.entries = world.journal.entries ++ [] := by rw [same, List.append_nil]
  refine words_of_phrase (by simp) session grown ?_
  rw [List.append_nil]
  exact id

theorem words_noting {entry : Entry} (loose : Loose entry)
    (unserved : ∀ server, entry ≠ .serving server) (world : World) :
    Words world (world.noting entry) :=
  words_of_phrase (by simpa [eq_comm] using unserved) rfl rfl fun phrased => phrased.loose loose

theorem Mild.ne_serving {entry : Entry} (mild : Mild entry) (server : Option Nat) :
    entry ≠ .serving server := by
  rintro rfl
  exact mild

instance : Obliging Words where
  noting world _ mild := words_noting mild.loose mild.ne_serving world
  modifying _ _ _ _ := words_of_journal rfl rfl
  resuming _ _ bearing _ _ :=
    words_of_journal (congrArg (fun bearing => bearing.2.2.1) bearing) rfl
  arranging _ _ journal session _ _ _ _ _ _ := words_of_journal (by rw [session]) journal

theorem words_marking (world : World) (entry : Entry) (marks : Marks entry) :
    Words world (world.noting entry) := by
  have loose : Loose entry := by
    cases entry with
    | doing operation => trivial
    | did operation result => trivial
    | _ => cases marks
  refine words_noting loose ?_ world
  rintro server rfl
  cases marks

theorem ensures_words {α : Type} {action : Act World α}
    (words : Worded base → Ensures action world fun _ => Words base) :
    Ensures action world fun _ => Words base := fun worded => words worded worded

/-! ## Nested calls -/

/-- Nested calls add phrases, and output arrives before anything else is noted about it. -/
structure Fluent (nested : Nested) : Prop where
  perform : ∀ step, Within Words (nested.perform step)
  receive : ∀ server data world, Ensures (nested.receive server data) world
    fun _ => Words (world.noting (.arrived server data))

variable {nested : Nested} (fluent : Fluent nested)

include fluent

theorem receives_words (server : Nat) (data : Bytes) :
    Within Words (nested.receive server data) := fun world =>
  (fluent.receive server data world).mono fun _ _ later =>
    trans_of Words (Obliging.noting world (.arrived server data) trivial) later

theorem invoke_words (who : Nat) (arguments : List Json) :
    Within Words (invoke Step.operation nested.perform who arguments) := fun world =>
  (obliging_hosts words_marking).invoke arguments
    (fun callback _ => words_noting (show Loose (.called _ _ _ _) from trivial) (by simp) world)
    fun _ _ step _ => fluent.perform step

theorem tell_words (listener : Listener) (event : Event) :
    Within Words (tell nested listener event) := by
  cases listener with
  | callback who => exact invoke_words fluent who _
  | echo =>
      cases event with
      | log text => exact within_mild trivial
      | _ => exact within_pure _
  | collect =>
      cases event with
      | diagnostics uri items =>
          exact fun world => words_of_journal rfl rfl
      | _ => exact within_pure _

theorem emit_words {event : Event} (phrase : Words base (world.noting (.emitted event))) :
    Ensures (emit nested event) world fun _ => Words base :=
  ensures_emit_since phrase fun listener _ world' _ => tell_words fluent listener event world'

theorem emitLog_words (text : Text) : Within Words (emitLog nested text) := by
  intro world
  simp only [emitLog, record, ensures_bind, ensures_write, add_eq_noting]
  refine emit_words fluent (words_of_phrase ?_ rfl (List.append_assoc _ _ _) fun phrased =>
    phrased.told text)
  simp

/-! ## Writing -/

theorem complain_words (reason : Text) : Within Words (complain nested reason) :=
  Within.bind (emitLog_words fluent _) fun _ => requestAbort_within

/-- The message has been handed to its server, as the journal says, or its write was interrupted. -/
def Written (server : Nat) (message : Json) (world world' : World) : Prop :=
  Words world world' ∧ (Worded world → ∃ later,
    world'.journal.entries = world.journal.entries ++ later ∧
      (Handed (some server) message later ∨ Interrupted server message later))

omit fluent in
theorem written_of_calm {server : Nat} {message : Json} {later : List Entry}
    (view : world'.view = world.view.noting later) (handed : Handed (some server) message later)
    (loose : ∀ entry ∈ later, Loose entry) : Written server message world world' :=
  ⟨words_of_view view loose handed.steadfast.1,
    fun _ => ⟨later, congrArg View.entries view, .inl handed⟩⟩

omit fluent in
theorem written_of_interrupted {server : Nat} {message : Json} {first : List Entry} {middle : World}
    (view : middle.view = world.view.noting first) (loose : ∀ entry ∈ first, Loose entry)
    (unserved : ∀ server, .serving server ∉ first) (words : Words middle world')
    (interrupted : ∀ rest, Interrupted server message (first ++ rest)) :
    Written server message world world' := by
  have begins := words_of_view view loose unserved
  refine ⟨trans_of Words begins words, fun worded => ?_⟩
  obtain ⟨rest, grown⟩ := (words (begins worded).1).2
  have entries : middle.journal.entries = world.journal.entries ++ first :=
    congrArg View.entries view
  exact ⟨first ++ rest, by rw [← grown, entries, List.append_assoc], .inr (interrupted rest)⟩

theorem taken_written {server : Nat} (replies : List Bytes) (message : Json) (data : Bytes)
    (runs : (world.looking server).isRunning server = true) :
    Ensures (hear nested server replies message data) (world.accepting server message data)
      fun _ => Written server message world := by
  have view := @view_accepting world message server data runs
  have noted : Within Words (record (Log.messageOut message data.length) : Act World Unit) :=
    within_unmarked (unmarked_of_component "WIRE" rfl (by decide))
  cases replies with
  | nil =>
      have taken : ((world.accepting server message data).noting
          (.logged (Log.messageOut message data.length))).view = world.view.noting
            [.looked server true, .wrote server message data,
              .logged (Log.messageOut message data.length)] := by
        rw [view_noting, view, View.noting_noting]
        rfl
      refine written_of_calm taken (.taken server data _ rfl) ?_
      simpa [Loose] using unmarked_of_component "WIRE" rfl (by decide)
  | cons reply rest =>
      have arrived : ((world.accepting server message data).noting (.arrived server reply)).view =
          world.view.noting
            [.looked server true, .wrote server message data, .arrived server reply] := by
        rw [view_noting, view, View.noting_noting]
        rfl
      have received : Within Words (rest.forM (nested.receive server)) :=
        Within.forM fun reply _ => receives_words fluent server reply
      have heard : Ensures (hear nested server (reply :: rest) message data)
          (world.accepting server message data) fun _ =>
            Words ((world.accepting server message data).noting (.arrived server reply)) := by
        refine Ensures.bind (Ensures.bind (fluent.receive server reply _) fun _ _ moved => ?_)
          fun _ _ moved => noted.later moved
        exact received.later moved
      refine heard.mono fun _ _ words => ?_
      exact written_of_interrupted arrived (by simp [Loose]) (by simp) words fun rest =>
        .answered data reply rest

theorem writeMessage_written {server : Nat} (served : world.session.server = some server)
    (message : Json) (data : Bytes) :
    Ensures (writeMessage nested message data) world fun _ => Written server message world := by
  cases runs : (world.looking server).isRunning server with
  | false =>
      have looked : (world.looking server).view = world.view.noting [.looked server false] := by
        rw [view_looking, runs]
      rw [Ensures, writeMessage_ended nested served runs]
      exact written_of_calm looked (.ended server rfl) (by simp [Loose])
  | true =>
      cases @writeMessage_runs world server message data served runs with
      | refused reason goes =>
          have complained := (complain_words fluent reason (world.refusing server message)).mono
            fun _ _ words => written_of_interrupted (view_refusing runs) (by simp [Loose])
              (by simp) words fun rest => .refused rest
          rw [Ensures, goes nested]
          exact complained
      | taken replies goes =>
          rw [Ensures, goes nested]
          exact taken_written fluent replies message data runs

theorem writeMessage_words (message : Json) (data : Bytes) :
    Within Words (writeMessage nested message data) := by
  intro world
  cases served : world.session.server with
  | none =>
      rw [Ensures, writeMessage_unserved nested served]
      exact refl_of Words world
  | some server => exact (writeMessage_written fluent served message data).mono fun _ _ => And.left

theorem words_speaking : Speaking Words nested := ⟨writeMessage_words fluent, emitLog_words fluent⟩

/-! ## States -/

omit fluent in
theorem setPhase_words {phase : Phase} (unready : phase ≠ .ready) :
    Within Words (setPhase phase) := by
  intro world
  simp only [setPhase, ensures_bind, ensures_getSession]
  split
  · exact refl_of Words world
  · exact words_of_phrase (by simp) rfl rfl fun phrased => phrased.changed _ unready

theorem unready_words : Within Words (setReady nested false) := by
  intro world
  simp only [setReady, ensures_bind, ensures_getSession]
  split
  · exact refl_of Words world
  · exact emit_words fluent (words_of_phrase (by simp) rfl rfl Phrased.unready)

/-- The session is announced as ready once it was to be told to its server as open. -/
theorem ready_words (opens : Worded world → Opening world.journal.entries) :
    Ensures (setReady nested true) world fun _ => Words world := by
  have announced {world' : World} (changes : List Phase) (few : changes.length ≤ 1)
      (session : world'.session.server = world.session.server)
      (grown : world'.journal.entries = world.journal.entries ++
        changes.map fun old => .logged (Log.stateChange old.name Phase.ready.name)) :
      Words world (world'.noting (.emitted (.ready true))) := by
    intro worded
    refine words_of_phrase ?_ session ?_ (fun phrased => phrased.ready (opens worded) changes few)
      worded
    · simp
    · rw [noting_entries, grown, List.append_assoc]
  simp only [setReady, ensures_bind, ensures_getSession]
  split
  · exact refl_of Words world
  · simp only [ensures_bind, ensures_modifySession, if_true, setPhase, ensures_getSession]
    split
    · exact emit_words fluent (announced [] (by simp) rfl (List.append_nil _).symm)
    · exact emit_words fluent (announced [world.session.phase] (by simp) rfl rfl)

/-! ## Stopping -/

theorem forget_words (server : Nat) : Within Words (forget nested server) := by
  have settles : Within Words (do
      setReady nested false
      setPhase .stopped
      modifyThe Session fun session => { session with stopping := false } : Act World Unit) := by
    refine Within.bind (unready_words fluent) fun _ => ?_
    refine Within.bind (setPhase_words (by decide)) fun _ => ?_
    exact fun world => words_of_journal rfl rfl
  intro world
  unfold forget
  rw [ensures_bind]
  simp only [ensures_get]
  rw [ensures_bind]
  simp only [record, ensures_write, add_eq_noting]
  rw [ensures_bind]
  simp only [ensures_modifySession]
  rw [ensures_bind]
  simp only [ensures_write, add_eq_noting]
  rw [ensures_bind]
  simp only [ensures_write, add_eq_noting]
  refine settles.later fun worded => ⟨⟨?_, ?_⟩, ?_⟩
  · simp only [noting_entries, standing_snoc]
    rfl
  · have exits (pid code : Option Int) : Loose (.logged (Log.exited pid code)) :=
      unmarked_of_component "PROCESS" rfl (by decide)
    have leaves : Loose .dropped ∧ Loose (.serving none) := ⟨trivial, trivial⟩
    exact ((worded.phrased.loose (exits _ _)).loose leaves.1).loose leaves.2
  · simp only [noting_entries, List.append_assoc]
    exact List.prefix_append _ _

theorem askToEnd_words (server : Nat) : Within Words (askToEnd nested server) :=
  askToEnd_within (look_within server) (setPhase_words (by decide))
    (sendRequest_within (words_speaking fluent) _ _ (by simp))
    (sendNotification_within (words_speaking fluent) _ _)

theorem endSession_words (server : Nat) : Within Words (endSession nested server) := by
  refine Within.bind (fun world => words_of_journal rfl rfl) fun _ => ?_
  refine Within.bind (words_noting (show Loose (.ending server) from trivial) (by simp)) fun _ => ?_
  refine Within.bind (askToEnd_words fluent _) fun graceful => ?_
  refine Within.bind (Within.tryCatch (dismiss_obliging _ _) fun fault => ?_) fun _ =>
    forget_words fluent server
  exact Within.bind (forget_words fluent _) fun _ => within_throw fault

theorem stop_words (expected : Option Nat) : Within Words (stop nested expected) := by
  refine Within.bind within_getSession fun session => ?_
  split
  · exact within_pure _
  · split
    · exact within_pure _
    · exact endSession_words fluent _

omit fluent in
theorem awaits_words (handler : Handler) : Awaits Words handler := by
  refine awaits_of_awaited fun world id => ?_
  have waits : Words world { world with session := { world.session with
      pending := ⟨Registry.insert (.nat id) handler world.session.pending.entries⟩ } } :=
    words_of_journal rfl rfl
  cases handler with
  | callback who => exact trans_of Words waits (Obliging.noting _ (.awaiting who id _) trivial)
  | _ => exact waits

theorem words_acting : Acting Words nested where
  toSpeaking := words_speaking fluent
  stops := stop_words fluent
  awaits := awaits_words
  completes handler _ other := by
    cases handler with
    | handshake => exact (other rfl).elim
    | mailbox slot => exact fun _ => words_of_journal rfl rfl
    | callback who => exact invoke_words fluent who _

/-! ## Output of a server -/

/-- A message of this server is handled, and nothing else was noted since. -/
structure Handling (server : Nat) (message : Json) (earlier : List Entry) (world : World) :
    Prop where
  served : world.session.server = some server
  noted : world.journal.entries =
    earlier ++ [.handling server message, .logged (Log.messageIn message)]

theorem opening_written {server : Nat} (served : world.session.server = some server) :
    Ensures (sendNotification nested "initialized" (.object [])) world
      fun _ => Written server opening world := by
  obtain ⟨data, encodes⟩ := opening_encodes
  have sends : sendNotification nested "initialized" (.object []) =
      writeMessage nested opening data >>= fun _ => pure (.ok ()) := by
    simp only [sendNotification]
    rw [show Message.notification "initialized" (.object []) = opening from rfl, encodes]
  rw [sends]
  exact Ensures.bind (writeMessage_written fluent served opening data) fun _ _ written => written

omit fluent in
theorem Handling.opening {server : Nat} {message : Json} {earlier : List Entry}
    (handling : Handling server message earlier world) (accepts : Accepts message)
    (worded : Worded world) (written : Written server opening world world') :
    Opening world'.journal.entries := by
  obtain ⟨later, grown, handed⟩ := written.2 worded
  refine ⟨earlier, server, message, later, ?_, ?_, accepts, handed⟩
  · rw [grown, handling.noted, List.append_assoc]
    rfl
  · rw [← handling.served, ← worded.served, handling.noted,
      standing_server_of_unserved (by simp)]

theorem finishHandshake_words {server : Nat} {message : Json} {earlier : List Entry}
    (handling : Handling server message earlier world)
    (response : Message.classify message = .response) :
    Ensures (finishHandshake nested (Completion.ofResponse message)) world
      fun _ => Words world := by
  have noticed : Words world
      { world with session := { world.session with handshakeId := none } } :=
    words_of_journal rfl rfl
  have handling : Handling server message earlier
      { world with session := { world.session with handshakeId := none } } := { handling with }
  unfold finishHandshake
  rw [ensures_bind]
  simp only [ensures_modifySession]
  split
  · next accepted =>
    refine ensures_words fun worded => ?_
    have worded := (noticed worded).1
    rw [ensures_bind]
    refine (opening_written fluent handling.served).mono fun ending told written => ?_
    have words := trans_of Words noticed written.1
    cases ending with
    | error fault => exact words
    | ok value =>
        have opens := handling.opening ⟨response, accepted⟩ worded written
        exact (ready_words fluent fun _ => opens).mono fun _ _ => trans_of Words words
  · refine Within.later (Within.bind (emitLog_words fluent _) fun _ => ?_) noticed
    exact requestAbort_within

theorem resolve_words {server : Nat} {message : Json} {earlier : List Entry}
    (handling : Handling server message earlier world)
    (response : Message.classify message = .response) :
    Ensures (Registry.resolve (complete nested) message) world fun _ => Words world := by
  simp only [Registry.resolve, ensures_bind, ensures_getPending, ensures_ofExcept]
  cases world.session.pending.take (message.member "id") with
  | error fault => exact refl_of Words world
  | ok taken =>
      obtain ⟨found, rest⟩ := taken
      cases found with
      | none => exact within_unmarked (unmarked_note _ (by decide)) world
      | some handler =>
          simp only [ensures_bind, ensures_setPending, contain, ensures_tryCatch]
          have taken : Words world
              { world with session := { world.session with pending := rest } } :=
            words_of_journal rfl rfl
          have completed : Ensures (complete nested handler (Completion.ofResponse message))
              { world with session := { world.session with pending := rest } }
              fun _ => Words world := by
            by_cases own : handler = .handshake
            · subst own
              have handling : Handling server message earlier
                  { world with session := { world.session with pending := rest } } :=
                { handling with }
              exact (finishHandshake_words fluent handling response).mono fun _ _ =>
                trans_of Words taken
            · exact ((words_acting fluent).completes handler _ own).later taken
          refine completed.mono fun ending _ words => ?_
          cases ending with
          | ok value => exact words
          | error fault => exact (within_unmarked (unmarked_note _ (by decide))).later words

/-- The handling of a message begins a phrase if the message tells the listeners something. -/
theorem handleMessage_words {server : Nat} (message : Json)
    (served : world.session.server = some server) :
    Ensures (handleMessage nested message) (world.noting (.handling server message))
      fun _ => Words world := by
  have noted : Unmarked (Log.messageIn message) := unmarked_of_component "WIRE" rfl (by decide)
  have silent (nothing : notified message = none) : Words world
      ((world.noting (.handling server message)).noting (.logged (Log.messageIn message))) := by
    refine words_of_phrase ?_ rfl (List.append_assoc _ _ _) fun phrased => phrased.append_loose ?_
    · simp
    · simpa [Loose] using ⟨nothing, noted⟩
  have unnotified {kind : Message.Kind} (classified : Message.classify message = kind)
      (other : kind ≠ .notification) : notified message = none := by
    unfold notified
    rw [classified]
    cases kind <;> simp_all
  unfold handleMessage
  rw [ensures_bind]
  simp only [record, ensures_write, add_eq_noting]
  cases kind : Message.classify message with
  | response =>
      have handling : Handling server message world.journal.entries
          ((world.noting (.handling server message)).noting (.logged (Log.messageIn message))) :=
        ⟨served, List.append_assoc _ _ _⟩
      refine Ensures.bind ((resolve_words fluent handling kind).mono fun _ _ words => ?_)
        fun _ _ words => words
      exact trans_of Words (silent (unnotified kind (by simp))) words
  | request =>
      exact (answerRequest_within (words_speaking fluent) message).later
        (silent (unnotified kind (by simp)))
  | notification =>
      have same : notified message = Event.ofNotification? message := by simp [notified, kind]
      dsimp only
      split
      · next event notifies =>
        refine emit_words fluent (words_of_phrase ?_ rfl ?_ fun phrased =>
          phrased.relayed server message (same.trans notifies))
        · simp
        · simp only [noting_entries, List.append_assoc]
          rfl
      · next nothing => exact silent (same.trans nothing)
  | invalid =>
      exact (within_unmarked (unmarked_note _ (by decide))).later
        (silent (unnotified kind (by simp)))

theorem handleMessages_words (server : Nat) (messages : List Json) :
    Within Words (handleMessages nested server messages) := by
  refine fun world => ensures_messages (fun message middle words _ served => ?_)
    (refl_of Words world)
  exact (handleMessage_words fluent message served).mono fun _ _ later =>
    trans_of Words words later

theorem receive_words (server : Nat) (data : Bytes) (world : World) :
    Ensures (receive nested server data) world
      fun _ => Words (world.noting (.arrived server data)) := by
  have handles (messages : List Json) : Within Words (do
      handleMessages nested server messages
      stopIfAborted nested : Act World Unit) :=
    Within.bind (handleMessages_words fluent _ _) fun _ =>
      stopIfAborted_within (words_acting fluent).toHalting
  refine ensures_arrival (refl_of Words _) fun _ _ => ?_
  refine ensures_fed (fun _ => id) (fun note noted _ words => ?_)
    (fun _ _ words => (emitLog_words fluent _).later words)
    (fun _ words => (handles _).later words) (words_of_journal rfl rfl)
  exact (within_unmarked (unmarked_feed _ _ note noted)).later words

/-! ## Runs -/

omit fluent in
theorem adoptServer_words (argv : List Text) : Within Words (adoptServer argv) := by
  intro world
  rw [ensures_adoptServer]
  intro worded
  refine ⟨⟨?_, worded.phrased.loose (show Loose (.serving _) from trivial)⟩, List.prefix_append _ _⟩
  simp only [World.adopting, noting_entries, standing_snoc]
  rfl

theorem start_words (command : Text) (arguments : List Text) (root : Option Text) :
    Within Words (start nested command arguments root) := by
  have prepares (root : Text) : Within Words (prepare nested root) := by
    refine Within.bind awaitEnding_within fun _ => ?_
    refine Within.bind (Within.bind ?_ fun _ => Within.bind (within_mild trivial) fun _ =>
      unready_words fluent) fun _ => setPhase_words (by decide)
    exact fun world => words_of_journal rfl rfl
  have brings (server : Nat) : Within Words (bringUp nested command arguments root server) := by
    refine Within.bind (within_unmarked ?_) fun _ => ?_
    · exact unmarked_of_component "PROCESS" rfl (by decide)
    · refine Within.bind (spawn_obliging _) fun failure => ?_
      split
      · refine Within.bind (emitLog_words fluent _) fun _ => ?_
        exact Within.bind (stop_words fluent _) fun _ => within_pure _
      · refine Within.bind (beginHandshake_within (words_speaking fluent) (awaits_words _) _)
          fun _ => ?_
        refine Within.bind (stopIfAborted_within (words_acting fluent).toHalting) fun _ => ?_
        exact Within.bind within_getSession fun _ => within_pure _
  rw [start_eq]
  refine Within.bind (stop_words fluent _) fun _ => Within.bind (prepares _) fun _ => ?_
  exact Within.bind (adoptServer_words _) fun server => brings server

theorem performWith_words (step : Step) : Within Words (performWith nested step) := by
  refine performWith_within (words_acting fluent) ?_
  have adds (world : World) (callback : Callback Step) : Words world (world.adding callback) :=
    words_of_journal rfl rfl
  have receives (server : Nat) (data : Bytes) : Within Words (receive nested server data) :=
    fun world => (receive_words fluent server data world).mono fun _ _ later =>
      trans_of Words (Obliging.noting world (.arrived server data) trivial) later
  cases step with
  | start command arguments root => exact start_words fluent command arguments root
  | request method params handler =>
      cases handler with
      | none => trivial
      | some callback => exact fun world => adds world _
  | subscribe channel listener => exact fun world => words_of_journal rfl rfl
  | unsubscribe name => exact fun world _ _ => words_of_journal rfl rfl
  | send server message => exact receives
  | raw server data => exact receives
  | set server running change => exact fun world server => words_of_journal rfl rfl
  | setFactory change => exact fun world => words_of_journal rfl rfl
  | _ => trivial

omit fluent in
theorem nestedCalls_fluent (depth : Nat) : Fluent (nestedCalls depth) := by
  induction depth with
  | zero =>
      refine ⟨fun step => within_throw _, fun server data world => ?_⟩
      refine (receiveTooDeep_arrives server data world).mono ?_
      rintro _ _ rfl
      exact refl_of Words _
  | succ depth ih => exact ⟨performWith_words ih, receive_words ih⟩

end

/-- The journals of all runs consist of phrases. -/
theorem phrased_play (settings : Settings) (factory : Conduct) (script : List Step) :
    Phrased ((play { settings := settings, factory := factory } script).flatMap Turn.entries) := by
  have each : ∀ step ∈ script, ∀ world, Worded world →
      Ensures (performWith (nestedCalls (depthFor script)) step) world fun _ => Worded :=
    fun step _ world worded =>
      (performWith_words (nestedCalls_fluent _) step world).mono fun _ _ words => (words worded).1
  have fresh : Worded { settings := settings, factory := factory } := ⟨rfl, .nothing⟩
  rw [← entries_play]
  exact (leftBy_turns each fresh).phrased

end Client

end LanguageSession
