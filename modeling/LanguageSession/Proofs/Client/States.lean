import Mathlib
import LanguageSession.Proofs.Client.Afresh
import LanguageSession.Proofs.Client.Lenience
import LanguageSession.Proofs.Client.Placement
import LanguageSession.Proofs.Client.Refusal

/-!
# The states of a session

When nobody calls the client from inside a call, a session goes from state to state in few ways.
Each way leaves its signs in the journal: the record of the change, and what the listeners are
told of it.
-/

namespace LanguageSession

namespace Client

open Act

/-! ## Signs -/

/-- What a journal tells of the state of the session. -/
inductive Sign where
  | changed (old new : Text)
  | announced (ready : Bool)
  deriving DecidableEq, Repr

def change (old new : Phase) : Sign := .changed old.name new.name

def sign? : Entry → Option Sign
  | .logged note =>
    match note.fields with
    | [(_, .string old), (_, .string new)] =>
      if note.component = "CLIENT" then some (.changed old new) else none
    | _ => none
  | .emitted (.ready ready) => some (.announced ready)
  | _ => none

def signs (journal : List Entry) : List Sign := journal.filterMap sign?

/-- How a session goes from one state to the next, and the signs of it. -/
inductive Passes : Phase × Bool → List Sign → Phase × Bool → Prop
  | starts {phase : Phase} (idle : phase = .notStarted ∨ phase = .stopped) :
      Passes (phase, false) [change phase .starting] (.starting, false)
  | fails : Passes (.starting, false) [change .starting .stopped] (.stopped, false)
  | opens : Passes (.starting, false) [change .starting .ready, .announced true] (.ready, true)
  | shuts : Passes (.ready, true) [change .ready .shuttingDown] (.shuttingDown, true)
  | closes {phase : Phase} (isOpen : phase = .ready ∨ phase = .shuttingDown) :
      Passes (phase, true) [.announced false, change phase .stopped] (.stopped, false)

/-- The signs of all that sessions have gone through, and the state that they are in. -/
inductive Lives : List Sign → Phase × Bool → Prop
  | born : Lives [] (.notStarted, false)
  | on {earlier added : List Sign} {state state' : Phase × Bool} (lives : Lives earlier state)
      (passes : Passes state added state') : Lives (earlier ++ added) state'

/-- What stands before and after a sign. -/
inductive Fits (before after : List Sign) : Sign → Prop
  | started {phase : Phase} (idle : phase = .notStarted ∨ phase = .stopped) :
      Fits before after (change phase .starting)
  | failed : Fits before after (change .starting .stopped)
  | opened (later : List Sign) (told : after = .announced true :: later) :
      Fits before after (change .starting .ready)
  | told (earlier : List Sign) (opened : before = earlier ++ [change .starting .ready]) :
      Fits before after (.announced true)
  | shut : Fits before after (change .ready .shuttingDown)
  | untold {phase : Phase} (isOpen : phase = .ready ∨ phase = .shuttingDown) (later : List Sign)
      (closed : after = change phase .stopped :: later) : Fits before after (.announced false)
  | closed {phase : Phase} (isOpen : phase = .ready ∨ phase = .shuttingDown) (earlier : List Sign)
      (untold : before = earlier ++ [.announced false]) : Fits before after (change phase .stopped)

theorem Fits.more {before after : List Sign} {sign : Sign} (fits : Fits before after sign)
    (later : List Sign) : Fits before (after ++ later) sign := by
  cases fits with
  | started idle => exact .started idle
  | failed => exact .failed
  | opened rest told => exact .opened (rest ++ later) (by rw [told]; rfl)
  | told earlier opened => exact .told earlier opened
  | shut => exact .shut
  | untold isOpen rest closed => exact .untold isOpen (rest ++ later) (by rw [closed]; rfl)
  | closed isOpen earlier untold => exact .closed isOpen earlier untold

theorem Passes.fits {state state' : Phase × Bool} {added : List Sign}
    (passes : Passes state added state') (earlier : List Sign) {before after : List Sign}
    {sign : Sign} (split : added = before ++ sign :: after) :
    Fits (earlier ++ before) after sign := by
  have one {only : Sign} (same : [only] = before ++ sign :: after)
      (fits : Fits earlier [] only) : Fits (earlier ++ before) after sign := by
    rcases List.singleton_eq_append_iff.mp same with ⟨rfl, last⟩ | ⟨-, ⟨⟩⟩
    obtain ⟨rfl, rfl⟩ := List.cons_eq_cons.mp last
    rwa [List.append_nil]
  have two {first second : Sign} (same : [first, second] = before ++ sign :: after)
      (fits : Fits earlier [second] first) (fits' : Fits (earlier ++ [first]) [] second) :
      Fits (earlier ++ before) after sign := by
    rcases List.cons_eq_append_iff.mp same with ⟨rfl, begins⟩ | ⟨rest, rfl, ends⟩
    · obtain ⟨rfl, rfl⟩ := List.cons_eq_cons.mp begins
      rwa [List.append_nil]
    · rcases List.singleton_eq_append_iff.mp ends with ⟨rfl, last⟩ | ⟨-, ⟨⟩⟩
      obtain ⟨rfl, rfl⟩ := List.cons_eq_cons.mp last
      exact fits'
  cases passes with
  | starts idle => exact one split (.started idle)
  | fails => exact one split .failed
  | opens => exact two split (.opened [] rfl) (.told earlier rfl)
  | shuts => exact one split .shut
  | closes isOpen => exact two split (.untold isOpen [] rfl) (.closed isOpen earlier rfl)

theorem Lives.fits {all : List Sign} {state : Phase × Bool} (lives : Lives all state) :
    ∀ before sign after, all = before ++ sign :: after → Fits before after sign := by
  induction lives with
  | born => simp
  | @on earlier added state state' lives passes ih =>
      intro before sign after split
      rcases List.append_eq_append_iff.mp split with ⟨middle, rfl, ends⟩ | ⟨middle, begins, ends⟩
      · exact passes.fits _ ends
      · rcases List.cons_eq_append_iff.mp ends with ⟨rfl, ends⟩ | ⟨rest, rfl, rfl⟩
        · rw [List.append_nil] at begins
          subst begins
          have first : added = [] ++ sign :: after := ends.symm
          simpa using passes.fits earlier first
        · exact (ih before sign rest begins).more _

theorem Lives.ready {all : List Sign} {phase : Phase} {ready : Bool}
    (lives : Lives all (phase, ready)) :
    ready = true ↔ phase = .ready ∨ phase = .shuttingDown := by
  cases lives with
  | born => simp
  | on lives passes => cases passes <;> simp

/-! ## Journals -/

/-- A ready session is asked to shut down while its server runs and has refused nothing. -/
def ShutsSoundly (before : List Entry) (entry : Entry) : Prop :=
  entry = .logged (Log.stateChange Phase.ready.name Phase.shuttingDown.name) →
    ∃ earlier server, before = earlier ++ [.looked server true] ∧
      (standing earlier).server = some server ∧ ∀ message, .writeRefused server message ∉ before

def Signless (entry : Entry) : Prop := sign? entry = none ∧ ∀ server, entry ≠ .serving server

theorem sign?_unmarked {note : Log.Record} (unmarked : Unmarked note) :
    sign? (.logged note) = none := by
  unfold sign?
  dsimp only
  split
  · next old new fields =>
    refine if_neg fun client => ?_
    have nothing := unmarked.2 client
    rw [fields] at nothing
    cases nothing
  · rfl

theorem sign?_stateChange (old new : Phase) :
    sign? (.logged (Log.stateChange old.name new.name)) = some (change old new) := by
  have client : (Log.stateChange old.name new.name).component = "CLIENT" := rfl
  have signs : sign? (.logged (Log.stateChange old.name new.name)) =
      if (Log.stateChange old.name new.name).component = "CLIENT" then some (change old new)
      else none := rfl
  rw [signs, if_pos client]

theorem Mild.signless {entry : Entry} (mild : Mild entry) : Signless entry := by
  cases entry with
  | logged note => exact ⟨sign?_unmarked mild, by simp⟩
  | emitted event => cases mild
  | serving server => cases mild
  | _ => exact ⟨rfl, by simp⟩

theorem shutsSoundly_of_sign {entry : Entry}
    (other : sign? entry ≠ some (change .ready .shuttingDown)) (before : List Entry) :
    ShutsSoundly before entry := by
  rintro rfl
  exact (other (sign?_stateChange _ _)).elim

theorem Signless.shutsSoundly {entry : Entry} (signless : Signless entry) (before : List Entry) :
    ShutsSoundly before entry :=
  shutsSoundly_of_sign (by rw [signless.1]; simp) before

theorem change_ne {old new : Phase} (other : new ≠ .shuttingDown) :
    change old new ≠ change .ready .shuttingDown := fun same =>
  other (Phase.name_injective (Sign.changed.inj same).2)

theorem signs_snoc (journal : List Entry) {entry : Entry} {sign : Sign}
    (signed : sign? entry = some sign) : signs (journal ++ [entry]) = signs journal ++ [sign] := by
  simp [signs, List.filterMap_append, signed]

theorem signs_silent {journal added : List Entry} (silent : ∀ entry ∈ added, sign? entry = none) :
    signs (journal ++ added) = signs journal := by
  rw [signs, List.filterMap_append, List.filterMap_eq_nil_iff.mpr silent, List.append_nil]
  rfl

/-! ## What leaves the state alone -/

/-- A passive world goes on in the same state; its session may be refused a message. -/
structure Abiding (world : World) (added : List Entry) (world' : World) : Prop where
  passive : Passive world'
  bearing : world'.session.bearing = world.session.bearing
  aborted : world'.session.abortRequested = false → world.session.abortRequested = false
  count : world'.servers.length = world.servers.length
  grown : world'.journal.entries = world.journal.entries ++ added
  signless : ∀ entry ∈ added, Signless entry
  refusals : ∀ server message, .writeRefused server message ∈ added →
    world.session.server = some server

/-- A session that was refused a message is to be ended. -/
def Idles (world world' : World) : Prop :=
  Passive world → ∃ added, Abiding world added world' ∧
    (world'.session.abortRequested = false → ∀ server message, .writeRefused server message ∉ added)

section

variable {world world' world'' : World} {added later : List Entry}

theorem bearing_server {session session' : Session} (same : session'.bearing = session.bearing) :
    session'.server = session.server := congrArg (fun bearing => bearing.2.2.1) same

theorem Idles.phase (idles : Idles world world') (passive : Passive world) :
    world'.session.phase = world.session.phase := by
  obtain ⟨_, abiding, -⟩ := idles passive
  exact congrArg Prod.fst abiding.bearing

theorem Abiding.signs (abiding : Abiding world added world') :
    signs world'.journal.entries = signs world.journal.entries := by
  rw [abiding.grown, signs_silent fun entry member => (abiding.signless entry member).1]

theorem Abiding.trans (first : Abiding world added world') (second : Abiding world' later world'') :
    Abiding world (added ++ later) world'' where
  passive := second.passive
  bearing := second.bearing.trans first.bearing
  aborted := first.aborted ∘ second.aborted
  count := second.count.trans first.count
  grown := by rw [second.grown, first.grown, List.append_assoc]
  signless := List.forall_mem_append.mpr ⟨first.signless, second.signless⟩
  refusals server message member := by
    rcases List.mem_append.mp member with earlier | after
    · exact first.refusals server message earlier
    · rw [← bearing_server first.bearing]
      exact second.refusals server message after

instance : IsPreorder World Idles where
  refl world passive := by
    refine ⟨[], ⟨passive, rfl, id, rfl, (List.append_nil _).symm, ?_, ?_⟩, ?_⟩ <;> simp
  trans _ _ _ first second passive := by
    obtain ⟨added, abiding, unrefused⟩ := first passive
    obtain ⟨later, abiding', unrefused'⟩ := second abiding.passive
    refine ⟨added ++ later, abiding.trans abiding', fun goes_on server message => ?_⟩
    rw [List.mem_append, not_or]
    exact ⟨unrefused (abiding'.aborted goes_on) server message, unrefused' goes_on server message⟩

theorem idles_of_journal (passive : Passive world → Passive world')
    (bearing : world'.session.bearing = world.session.bearing)
    (aborted : world'.session.abortRequested = false → world.session.abortRequested = false)
    (count : world'.servers.length = world.servers.length)
    (same : world'.journal = world.journal) : Idles world world' := by
  intro before
  have grown : world'.journal.entries = world.journal.entries ++ [] := by
    rw [same, List.append_nil]
  exact ⟨[], ⟨passive before, bearing, aborted, count, grown, by simp, by simp⟩, by simp⟩

theorem idles_of_session {session : Session} (bearing : session.bearing = world.session.bearing)
    (aborted : session.abortRequested = false → world.session.abortRequested = false) :
    Idles world { world with session := session } :=
  idles_of_journal (fun passive => passive.kept) bearing aborted rfl rfl

theorem abiding_noting {entry : Entry} (passive : Passive world) (signless : Signless entry)
    (unrefused : ∀ server message, entry ≠ .writeRefused server message) :
    Abiding world [entry] (world.noting entry) where
  passive := passive.kept
  bearing := rfl
  aborted := id
  count := rfl
  grown := rfl
  signless := by simpa using signless
  refusals server message member :=
    (unrefused server message (List.mem_singleton.mp member).symm).elim

theorem idles_noting {entry : Entry} (signless : Signless entry)
    (unrefused : ∀ server message, entry ≠ .writeRefused server message) (world : World) :
    Idles world (world.noting entry) := fun passive =>
  ⟨[entry], abiding_noting passive signless unrefused, fun _ server message member =>
    unrefused server message (List.mem_singleton.mp member).symm⟩

instance : Obliging Idles where
  noting world entry mild := by
    refine idles_noting mild.signless ?_ world
    rintro server message rfl
    exact mild
  modifying world server change conduct := by
    refine idles_of_journal (fun passive => passive.modifying server fun process silent => ?_)
      rfl id (by simp [World.modifyServer]) rfl
    rw [conduct]
    exact silent
  resuming _ _ bearing aborted _ := idles_of_session bearing aborted
  arranging world world' journal session servers factory callbacks _ _ spent := by
    refine idles_of_journal (fun passive => ⟨?_, ?_, ?_⟩) (by rw [session])
      (by rw [session]; exact id) (by rw [servers]) journal
    · rw [callbacks]
      exact fun who callback known => (passive.callbacks who callback known).imp_right (spent ·)
    · rw [servers]
      exact passive.servers
    · rw [factory]
      exact passive.factory

theorem within_of_idles {α : Type} {action : Act World α}
    (idles : ∀ world, Passive world → Ensures action world fun _ => Idles world) :
    Within Idles action := fun world passive => idles world passive passive

variable {nested : Nested}

theorem invoke_idles (who : Nat) (arguments : List Json) :
    Within Idles (invoke Step.operation nested.perform who arguments) := by
  refine within_of_idles fun world passive => ?_
  cases known : world.cast.callbacks[who]? with
  | none =>
      simp only [invoke, ensures_bind, ensures_getCast, known]
      exact refl_of Idles world
  | some callback =>
      refine (invoke_idle arguments known (passive.callbacks who callback known)).mono ?_
      rintro _ world' ⟨-, rfl⟩
      have called : Idles world
          (world.noting (.called who callback.kind callback.name arguments)) :=
        idles_noting ⟨rfl, by simp⟩ (by simp) world
      have spent : Idles (world.noting (.called who callback.kind callback.name arguments))
          ((world.noting (.called who callback.kind callback.name arguments)).spending
            who callback arguments) :=
        Obliging.arranging _ _ rfl rfl rfl rfl rfl rfl rfl (spent_spending who callback arguments _)
      exact trans_of Idles called spent

theorem tell_idles (listener : Listener) (event : Event) :
    Within Idles (tell nested listener event) := by
  cases listener with
  | callback who => exact invoke_idles who _
  | echo =>
      cases event with
      | log text => exact within_mild trivial
      | _ => exact within_pure _
  | collect =>
      cases event with
      | diagnostics uri items =>
          exact within_arrange (fun _ => rfl) (fun _ => rfl) (fun _ => rfl) (fun _ => rfl)
            (fun _ => rfl) (fun _ => rfl) fun _ => rfl
      | _ => exact within_pure _

theorem emit_idles (event : Event) (world : World) :
    Ensures (emit nested event) world fun _ => Idles (world.noting (.emitted event)) :=
  ensures_emit_since (refl_of Idles _) fun listener _ world' _ => tell_idles listener event world'

theorem emitLog_idles (text : Text) : Within Idles (emitLog nested text) := by
  intro world
  have recorded : Signless (.logged (Log.sessionEvent text)) := ⟨rfl, by simp⟩
  have told : Signless (.emitted (.log text)) := ⟨rfl, by simp⟩
  simp only [emitLog, record, ensures_bind, ensures_write, add_eq_noting]
  refine (emit_idles (.log text) _).mono fun _ _ idles => ?_
  have noted := trans_of Idles (idles_noting recorded (by simp) world) (idles_noting told (by simp) _)
  exact trans_of Idles noted idles

/-! ## Writing -/

theorem Abiding.requesting (abiding : Abiding world added world') : Abiding world added
    { world' with session := { world'.session with abortRequested := true } } :=
  { abiding with
    passive := abiding.passive.kept
    bearing := abiding.bearing
    aborted := by simp }

/-- A message is taken, or it is refused and nothing else is noted. -/
theorem deliver_idles {server : Nat} (message : Json) (data : Bytes) (passive : Passive world)
    (served : world.session.server = some server) :
    Ensures (deliver nested server message data) world fun ending world' =>
      ending = .ok none ∧ Idles world world' ∨
        ∃ reason, ending = .ok (some reason) ∧
          Abiding world [.writeRefused server message] world' := by
  simp only [deliver, ensures_bind, ensures_get]
  split
  · exact .inl ⟨rfl, refl_of Idles world⟩
  · next process known =>
    have silent : Silent process.conduct := passive.servers process (List.mem_of_getElem? known)
    have counted : Idles world (world.modifyServer server fun process =>
        { process with writes := process.writes + 1 }) :=
      Obliging.modifying world server _ fun _ => rfl
    simp only [ensures_bind, ensures_modify]
    split
    · next reason refuses =>
      have refused : Abiding world [.writeRefused server message]
          ((world.modifyServer server fun process =>
            { process with writes := process.writes + 1 }).noting
              (.writeRefused server message)) := by
        have before : Passive (world.modifyServer server fun process =>
            { process with writes := process.writes + 1 }) :=
          passive.modifying server fun _ => id
        refine ⟨before.kept, rfl, id, ?_, rfl, ?_, ?_⟩
        · simp [World.modifyServer]
        · simp [Signless, sign?]
        · simp [served]
      exact .inr ⟨reason, rfl, refused⟩
    · simp only [ensures_bind, ensures_write, add_eq_noting, ensures_modify, silent message]
      have wrote := trans_of Idles counted
        (Obliging.noting _ (.wrote server message data) trivial)
      refine .inl ⟨rfl, trans_of Idles wrote ?_⟩
      exact Obliging.modifying _ server _ fun process => (accept_weakens message process).1

theorem writeMessage_idles (message : Json) (data : Bytes) :
    Within Idles (writeMessage nested message data) := by
  refine within_of_idles fun world passive => ?_
  simp only [writeMessage, ensures_bind, ensures_getSession]
  cases served : world.session.server with
  | none => exact refl_of Idles world
  | some server =>
      have looked : Idles world (world.looking server) := looking_within world server
      obtain ⟨_, abiding, -⟩ := looked passive
      simp only [ensures_bind, ensures_look]
      split
      · rw [ensures_bind]
        refine (deliver_idles message data abiding.passive served).mono ?_
        rintro _ delivered (⟨rfl, idles⟩ | ⟨reason, rfl, refused⟩)
        · refine Within.later (within_unmarked ?_) (trans_of Idles looked idles)
          exact unmarked_of_component "WIRE" rfl (by decide)
        · have told : Ensures (emitLog nested ("LSP process I/O error: " ++ reason)) delivered
              fun _ => Idles delivered := emitLog_idles _ delivered
          refine Succeeds.ensures_bind (emitLog_succeeds _) told fun _ told idles _ => ?_
          obtain ⟨_, abiding', -⟩ := idles refused.passive
          exact ⟨_, ((abiding.trans refused).trans abiding').requesting, by rintro ⟨⟩⟩
      · exact looked

theorem awaits_idles (handler : Handler) : Awaits Idles handler := by
  refine awaits_of_awaited fun world number => ?_
  have waits : Idles world { world with session := { world.session with
      pending := ⟨Registry.insert (.nat number) handler world.session.pending.entries⟩ } } :=
    idles_of_session rfl id
  cases handler with
  | callback who => exact trans_of Idles waits (Obliging.noting _ (.awaiting who number _) trivial)
  | _ => exact waits

theorem idles_speaking : Speaking Idles nested := ⟨writeMessage_idles, emitLog_idles⟩

/-! ## Sessions that live -/

/-- What the journal tells of the server of the session is so. -/
structure Truthful (world : World) : Prop where
  current : (standing world.journal.entries).server = world.session.server
  made : ∀ server, world.session.server = some server → server < world.servers.length
  refusals : ∀ server message, .writeRefused server message ∈ world.journal.entries →
    server < world.servers.length
  unrefused : world.session.abortRequested = false → ∀ server, world.session.server = some server →
    ∀ message, .writeRefused server message ∉ world.journal.entries
  shuts : Obeys ShutsSoundly world.journal.entries

/-- The state of the session is what it has come to by the signs in the journal. -/
structure Living (world : World) : Prop extends Truthful world where
  lives : Lives (signs world.journal.entries) (world.session.phase, world.session.ready)
  served : world.session.server.isSome →
    world.session.phase = .starting ∨ world.session.phase = .ready ∨
      world.session.phase = .shuttingDown
  ending : world.session.phase = .shuttingDown → world.session.stopping = true

theorem Truthful.grown (truthful : Truthful world)
    (server : world'.session.server = world.session.server)
    (count : world'.servers.length = world.servers.length)
    (grown : world'.journal.entries = world.journal.entries ++ added)
    (unserved : ∀ server, .serving server ∉ added)
    (shuts : Obeys ShutsSoundly (world.journal.entries ++ added))
    (refusals : ∀ server message, .writeRefused server message ∈ added →
      world.session.server = some server)
    (aborted : world'.session.abortRequested = false → world.session.abortRequested = false ∧
      ∀ server message, .writeRefused server message ∉ added) : Truthful world' where
  current := by rw [grown, standing_server_of_unserved unserved, server, truthful.current]
  made other same := by
    rw [count]
    exact truthful.made other (server ▸ same)
  refusals other message member := by
    rw [grown] at member
    rw [count]
    rcases List.mem_append.mp member with earlier | later
    · exact truthful.refusals other message earlier
    · exact truthful.made other (refusals other message later)
  unrefused goes_on other same message := by
    rw [grown, List.mem_append, not_or]
    obtain ⟨before, unrefused⟩ := aborted goes_on
    exact ⟨truthful.unrefused before other (server ▸ same) message, unrefused other message⟩
  shuts := grown ▸ shuts

theorem Truthful.noting (truthful : Truthful world) {entry : Entry}
    (shuts : ShutsSoundly world.journal.entries entry)
    (unserved : ∀ server, entry ≠ .serving server)
    (unrefused : ∀ server message, entry ≠ .writeRefused server message) :
    Truthful (world.noting entry) := by
  refine truthful.grown rfl rfl rfl ?_ (truthful.shuts.snoc shuts) ?_ fun goes_on => ⟨goes_on, ?_⟩
  · simpa [eq_comm] using unserved
  · simpa [eq_comm] using fun server message same => (unrefused server message same).elim
  · simpa [eq_comm] using unrefused

theorem Truthful.abiding (truthful : Truthful world) (abiding : Abiding world added world')
    (unrefused : world'.session.abortRequested = false →
      ∀ server message, .writeRefused server message ∉ added) : Truthful world' := by
  refine truthful.grown (bearing_server abiding.bearing) abiding.count abiding.grown ?_ ?_
    abiding.refusals fun goes_on => ⟨abiding.aborted goes_on, unrefused goes_on⟩
  · exact fun server member => (abiding.signless _ member).2 server rfl
  · exact truthful.shuts.idle fun entry member => (abiding.signless entry member).shutsSoundly

theorem Living.abiding (living : Living world) (abiding : Abiding world added world')
    (unrefused : world'.session.abortRequested = false →
      ∀ server message, .writeRefused server message ∉ added) : Living world' := by
  obtain ⟨phase, ready, server, stopping⟩ : world'.session.phase = world.session.phase ∧
      world'.session.ready = world.session.ready ∧
      world'.session.server = world.session.server ∧
      world'.session.stopping = world.session.stopping := by
    simpa [Session.bearing] using abiding.bearing
  refine ⟨living.toTruthful.abiding abiding unrefused, ?_, ?_, ?_⟩
  · rw [abiding.signs, phase, ready]
    exact living.lives
  · rw [server, phase]
    exact living.served
  · rw [phase, stopping]
    exact living.ending

structure Thriving (world : World) : Prop extends Living world where
  passive : Passive world

structure Hosted (server : Nat) (world : World) : Prop extends Thriving world where
  hosted : world.session.server = some server

def Endures (world world' : World) : Prop := Thriving world → Thriving world'

theorem Idles.endures (idles : Idles world world') : Endures world world' := by
  intro thriving
  obtain ⟨added, abiding, unrefused⟩ := idles thriving.passive
  exact ⟨thriving.toLiving.abiding abiding unrefused, abiding.passive⟩

theorem within_endures {α : Type} {action : Act World α} (idles : Within Idles action) :
    Within Endures action := fun world => (idles world).mono fun _ _ => Idles.endures

instance : IsPreorder World Endures where
  refl _ := id
  trans _ _ _ first second := second ∘ first

instance : Obliging Endures where
  noting world entry mild := Idles.endures (Obliging.noting world entry mild)
  modifying world server change conduct :=
    Idles.endures (Obliging.modifying world server change conduct)
  resuming world session bearing aborted waiting :=
    Idles.endures (Obliging.resuming world session bearing aborted waiting)
  arranging world world' journal session servers factory callbacks subscriptions mail spent :=
    Idles.endures (Obliging.arranging world world' journal session servers factory callbacks
      subscriptions mail spent)

theorem Thriving.ensures {α : Type} {action : Act World α} (thriving : Thriving world)
    (within : Within Endures action) : Ensures action world fun _ => Thriving :=
  (within world).mono fun _ _ endures => endures thriving

/-! ## The end of a session -/

theorem Truthful.changing (truthful : Truthful world) {old new : Phase}
    (other : new ≠ .shuttingDown) :
    Truthful (world.noting (.logged (Log.stateChange old.name new.name))) := by
  refine truthful.noting (shutsSoundly_of_sign ?_ _) (by simp) (by simp)
  rw [sign?_stateChange]
  exact fun same => change_ne other (Option.some.inj same)

/-- The session is over but for the record of it. -/
structure Concluding (world : World) : Prop extends Truthful world where
  passive : Passive world
  nobody : world.session.server = none
  unready : world.session.ready = false
  going : world.session.phase ≠ .stopped
  lives : Lives (signs world.journal.entries ++ [change world.session.phase .stopped])
    (.stopped, false)

theorem Concluding.endures (concluding : Concluding world) :
    Ensures (do
      setPhase .stopped
      modifyThe Session fun session => { session with stopping := false } : Act World Unit) world
      fun _ => Thriving := by
  have passive := concluding.passive
  have noted : Truthful
      (world.noting (.logged (Log.stateChange world.session.phase.name Phase.stopped.name))) :=
    concluding.toTruthful.changing (by decide)
  simp only [setPhase, record, ensures_bind, ensures_getSession, if_neg concluding.going,
    ensures_write, add_eq_noting, ensures_modifySession]
  refine ⟨⟨{ noted with }, ?_, ?_, by simp⟩,
    passive.kept⟩
  · have lives := concluding.lives
    rw [← signs_snoc _ (sign?_stateChange _ _)] at lives
    rwa [← concluding.unready] at lives
  · simp [concluding.nobody]

theorem unready_concludes (passive : Passive world) (truthful : Truthful world)
    (nobody : world.session.server = none)
    (going : world.session.phase = .starting ∨ world.session.phase = .ready ∨
      world.session.phase = .shuttingDown)
    (lives : Lives (signs world.journal.entries) (world.session.phase, world.session.ready)) :
    Ensures (setReady nested false) world fun _ => Concluding := by
  have running : world.session.phase ≠ .stopped := by
    rcases going with same | same | same <;> simp [same]
  simp only [setReady, ensures_bind, ensures_getSession]
  split
  · next unready =>
    -- It was never ready, so its start has failed and nobody is told.
    have starting : world.session.phase = .starting := by
      refine going.resolve_right fun isOpen => ?_
      simp [lives.ready.mpr isOpen] at unready
    have ends : Lives (signs world.journal.entries ++ [change world.session.phase .stopped])
        (.stopped, false) := by
      rw [starting, unready] at lives
      rw [starting]
      exact lives.on .fails
    exact ⟨truthful, passive, nobody, unready, running, ends⟩
  · next ready =>
    have ready : world.session.ready = true := by simpa using ready
    have isOpen := lives.ready.mp ready
    rw [ready] at lives
    simp only [ensures_bind, ensures_modifySession, Bool.false_eq_true, if_false]
    refine (emit_idles (.ready false) _).mono fun _ world' idles => ?_
    have unmarked : Truthful { world with session := { world.session with ready := false } } :=
      { truthful with }
    have told : ShutsSoundly world.journal.entries (.emitted (.ready false)) :=
      shutsSoundly_of_sign (by simp [sign?, change]) _
    have noted := unmarked.noting told (by simp) (by simp)
    obtain ⟨added, abiding, unrefused⟩ := idles
      passive.kept
    have same := abiding.bearing
    simp only [Session.bearing, noting_session, Prod.mk.injEq] at same
    obtain ⟨phase, unready, server, -⟩ := same
    refine ⟨noted.abiding abiding unrefused, abiding.passive, server.trans nobody, unready,
      phase ▸ running, ?_⟩
    rw [abiding.signs, noting_entries, signs_snoc _ rfl, phase, List.append_assoc]
    exact lives.on (.closes isOpen)

/-- What is noted when a session lets go of its server. -/
def release (note : Log.Record) : List Entry := [.logged note, .dropped, .serving none]

theorem sign?_release {note : Log.Record} (unmarked : Unmarked note) :
    ∀ entry ∈ release note, sign? entry = none := by
  have dropped : sign? .dropped = none ∧ sign? (.serving none) = none := ⟨rfl, rfl⟩
  simp [release, sign?_unmarked unmarked, dropped]

theorem Truthful.released (truthful : Truthful world) {note : Log.Record} (unmarked : Unmarked note)
    (nobody : world'.session.server = none) (count : world'.servers.length = world.servers.length)
    (grown : world'.journal.entries = world.journal.entries ++ release note) :
    Truthful world' where
  current := by
    rw [grown, nobody, standing, List.foldl_append]
    rfl
  made := by simp [nobody]
  refusals server message member := by
    rw [count]
    refine truthful.refusals server message ?_
    simpa [grown, release] using member
  unrefused := by simp [nobody]
  shuts := by
    rw [grown]
    refine truthful.shuts.idle fun entry member => shutsSoundly_of_sign ?_
    rw [sign?_release unmarked entry member]
    simp

theorem forget_endures {server : Nat} (hosted : Hosted server world) :
    Ensures (forget nested server) world fun _ => Thriving := by
  have concludes {start : World} (passive : Passive start) (truthful : Truthful start)
      (same : start.session = { world.session with
        server := none, buffer := [], pending := {}, documents := {}
        handshakeId := none, abortRequested := false })
      (unsigned : signs start.journal.entries = signs world.journal.entries) :
      Ensures (do
        setReady nested false
        setPhase .stopped
        modifyThe Session fun session => { session with stopping := false } : Act World Unit) start
        fun _ => Thriving := by
    refine Succeeds.ensures_bind (setReady_succeeds _) (unready_concludes passive truthful ?_ ?_ ?_)
      fun _ _ concluding => concluding.endures
    · rw [same]
    · rw [same]
      exact hosted.served (by simp [hosted.hosted])
    · rw [same, unsigned]
      exact hosted.lives
  have exited (pid code : Option Int) : Unmarked (Log.exited pid code) :=
    unmarked_of_component "PROCESS" rfl (by decide)
  have noted (note : Log.Record) (session : Session) : (World.noting (World.noting
      { world.noting (.logged note) with session := session } .dropped)
        (.serving none)).journal.entries = world.journal.entries ++ release note := by
    simp [release]
  unfold forget
  rw [ensures_bind]
  simp only [ensures_get]
  rw [ensures_bind]
  simp only [record, ensures_write, add_eq_noting]
  rw [ensures_bind]
  simp only [ensures_modifySession]
  rw [ensures_bind]
  simp only [ensures_write, add_eq_noting]
  rw [ensures_bind]
  simp only [ensures_write, add_eq_noting]
  refine concludes
    hosted.passive.kept
    (hosted.toTruthful.released (exited _ _) rfl rfl (noted _ _)) rfl ?_
  exact (congrArg signs (noted _ _)).trans (signs_silent (sign?_release (exited _ _)))

theorem Hosted.idles {server : Nat} (hosted : Hosted server world) (idles : Idles world world') :
    Hosted server world' := by
  obtain ⟨added, abiding, unrefused⟩ := idles hosted.passive
  exact ⟨⟨hosted.toLiving.abiding abiding unrefused, abiding.passive⟩,
    (bearing_server abiding.bearing).trans hosted.hosted⟩

theorem Hosted.shutting {server : Nat} (hosted : Hosted server world)
    (isOpen : world.session.phase = .ready) (stopping : world.session.stopping = true)
    (going : world.session.abortRequested = false)
    (runs : (world.looking server).isRunning server = true) :
    Ensures (setPhase .shuttingDown) (world.looking server) fun _ => Hosted server := by
  have looked := hosted.idles (looking_within world server)
  have entries : (world.looking server).journal.entries =
      world.journal.entries ++ [.looked server true] := by
    rw [← runs]
    rfl
  have sound : ShutsSoundly (world.looking server).journal.entries
      (.logged (Log.stateChange Phase.ready.name Phase.shuttingDown.name)) := by
    rw [entries]
    -- A server that has refused a message would have had the session aborted.
    refine fun _ => ⟨_, server, rfl, hosted.current.trans hosted.hosted, ?_⟩
    simpa using hosted.unrefused going server hosted.hosted
  have noted := looked.toTruthful.noting sound (by simp) (by simp)
  have lives := looked.lives
  simp only [looking_session, isOpen, hosted.lives.ready.mpr (.inl isOpen)] at lives
  simp only [setPhase, ensures_bind, ensures_getSession, looking_session, isOpen, record,
    ensures_write, add_eq_noting, ensures_modifySession, reduceCtorEq, if_false]
  refine ⟨⟨⟨{ noted with }, ?_, fun _ => .inr (.inr rfl), fun _ => stopping⟩, ?_⟩, hosted.hosted⟩
  · dsimp only
    rw [noting_entries, signs_snoc _ (sign?_stateChange _ _), noting_session, looking_session,
      hosted.lives.ready.mpr (.inl isOpen)]
    exact lives.on .shuts
  · exact looked.passive.kept

theorem askToEnd_endures {server : Nat} (hosted : Hosted server world)
    (isOpen : world.session.ready = true → world.session.phase = .ready)
    (stopping : world.session.stopping = true) :
    Ensures (askToEnd nested server) world fun _ => Hosted server := by
  have asks : Within Idles (do
      let _ ← sendRequest nested "shutdown" .null none
      let _ ← sendNotification nested "exit" .null
      return true : Act World Bool) := by
    refine Within.bind (sendRequest_within idles_speaking _ _ (by simp)) fun _ => ?_
    exact Within.bind (sendNotification_within idles_speaking _ _) fun _ => within_pure _
  unfold askToEnd
  rw [ensures_bind]
  simp only [ensures_getSession]
  split
  · next ready =>
    rw [ensures_bind, ensures_look]
    dsimp only
    split
    · next goes_on =>
      simp only [Bool.and_eq_true, Bool.not_eq_true'] at goes_on
      have shuts := hosted.shutting (isOpen ready) stopping goes_on.2 goes_on.1
      refine Succeeds.ensures_bind (setPhase_succeeds _) shuts fun _ begun hosted => ?_
      exact (asks begun).mono fun _ _ => hosted.idles
    · exact hosted.idles (looking_within world server)
  · exact hosted

theorem Living.opened (living : Living world) (going : world.session.stopping = false)
    (ready : world.session.ready = true) : world.session.phase = .ready := by
  refine (living.lives.ready.mp ready).resolve_right fun shuts => ?_
  rw [living.ending shuts] at going
  cases going

theorem Hosted.leaving {server : Nat} (hosted : Hosted server world) :
    Hosted server (World.noting { world with session := { world.session with stopping := true } }
      (.ending server)) := by
  have stopping : Hosted server { world with session := { world.session with stopping := true } } :=
    ⟨⟨⟨{ hosted.toTruthful with }, hosted.lives, hosted.served, fun _ => rfl⟩,
      hosted.passive.kept⟩, hosted.hosted⟩
  exact stopping.idles (idles_noting ⟨rfl, by simp⟩ (by simp) _)

theorem endSession_endures {server : Nat} (hosted : Hosted server world)
    (going : world.session.stopping = false) :
    Ensures (endSession nested server) world fun _ => Thriving := by
  unfold endSession
  rw [ensures_bind]
  simp only [ensures_modifySession]
  rw [ensures_bind]
  simp only [ensures_write, add_eq_noting]
  rw [ensures_bind]
  refine (askToEnd_endures hosted.leaving (hosted.toLiving.opened going) rfl).mono ?_
  rintro (fault | graceful) asked hosted
  · exact hosted.toThriving
  · dsimp only
    rw [ensures_bind, ensures_tryCatch]
    have dismissed : Ensures (dismiss server graceful) asked fun _ => Idles asked :=
      dismiss_obliging server graceful asked
    refine dismissed.mono ?_
    rintro (fault | _) world' idles
    · dsimp only
      rw [ensures_bind]
      refine (forget_endures (hosted.idles idles)).mono ?_
      rintro (_ | _) _ thriving
      · exact thriving
      · exact thriving
    · exact forget_endures (hosted.idles idles)

theorem stop_endures (expected : Option Nat) : Within Endures (stop nested expected) := by
  intro world
  unfold stop
  rw [ensures_bind]
  simp only [ensures_getSession]
  split
  · exact refl_of Endures world
  · next server served =>
    split
    · exact refl_of Endures world
    · next going =>
      simp only [Bool.or_eq_true, not_or, Bool.not_eq_true] at going
      intro thriving
      exact endSession_endures ⟨thriving, served⟩ going.1

theorem endures_acting : Acting Endures nested where
  writes message data := within_endures (writeMessage_idles message data)
  tells text := within_endures (emitLog_idles text)
  stops := stop_endures
  awaits handler id := within_endures (awaits_idles handler id)
  completes handler _ other := by
    cases handler with
    | handshake => exact (other rfl).elim
    | mailbox slot =>
        exact within_endures fun _ =>
          idles_of_journal (fun passive => passive.kept) rfl id rfl rfl
    | callback who => exact within_endures (invoke_idles who _)

/-! ## Output of a server -/

theorem Hosted.opens {server : Nat} (hosted : Hosted server world)
    (starting : world.session.phase = .starting) :
    Ensures (setReady nested true) world fun _ => Hosted server := by
  have unready : world.session.ready = false := by
    have ready := hosted.lives.ready
    rw [starting] at ready
    simpa using ready
  have opened : Truthful
      { world with session := { world.session with ready := true, phase := .ready } } :=
    { hosted.toTruthful with }
  have changed : Truthful (World.noting
      { world with session := { world.session with ready := true, phase := .ready } }
      (.logged (Log.stateChange Phase.starting.name Phase.ready.name))) :=
    opened.changing (by decide)
  have announces : ShutsSoundly (world.journal.entries ++
      [.logged (Log.stateChange Phase.starting.name Phase.ready.name)]) (.emitted (.ready true)) :=
    shutsSoundly_of_sign (by simp [sign?, change]) _
  have lives : Lives (signs ((world.journal.entries ++
      [.logged (Log.stateChange Phase.starting.name Phase.ready.name)]) ++
      [.emitted (.ready true)])) (.ready, true) := by
    have lives := hosted.lives
    rw [starting, unready] at lives
    rw [signs_snoc _ rfl, signs_snoc _ (sign?_stateChange _ _), List.append_assoc]
    exact lives.on .opens
  have announced : Hosted server (World.noting (World.noting
      { world with session := { world.session with ready := true, phase := .ready } }
      (.logged (Log.stateChange Phase.starting.name Phase.ready.name))) (.emitted (.ready true))) :=
    ⟨⟨⟨changed.noting announces (by simp) (by simp), lives, fun _ => .inr (.inl rfl), by simp⟩,
      hosted.passive.kept⟩, hosted.hosted⟩
  simp only [setReady, setPhase, ensures_bind, ensures_getSession, unready, starting, record,
    ensures_write, add_eq_noting, ensures_modifySession, reduceCtorEq, if_false, if_true]
  exact (emit_idles (.ready true) _).mono fun _ _ => announced.idles

theorem finishHandshake_endures {server : Nat} (completion : Completion)
    (hosted : Hosted server world) (starting : world.session.phase = .starting) :
    Ensures (finishHandshake nested completion) world fun _ => Hosted server := by
  have noticed : Idles world
      { world with session := { world.session with handshakeId := none } } :=
    idles_of_session rfl id
  unfold finishHandshake
  rw [ensures_bind]
  simp only [ensures_modifySession]
  split
  · have sends : Within Idles (sendNotification nested "initialized" (.object [])) :=
      sendNotification_within idles_speaking _ _
    rw [ensures_bind]
    refine (sends.later noticed).mono fun ending sent idles => ?_
    have hosted' := hosted.idles idles
    cases ending with
    | error fault => exact hosted'
    | ok value => exact hosted'.opens ((idles.phase hosted.passive).trans starting)
  · have fails : Within Idles (do
        emitLog nested ("LSP initialize failed: " ++ Message.errorText completion.error)
        requestAbort : Act World Unit) :=
      Within.bind (emitLog_idles _) fun _ => requestAbort_within
    exact (fails.later noticed).mono fun _ _ => hosted.idles

theorem resolve_endures {server : Nat} (message : Json) (hosted : Hosted server world)
    (rest : Rest world.session) :
    Ensures (Registry.resolve (complete nested) message) world fun _ => Thriving := by
  simp only [Registry.resolve, ensures_bind, ensures_getPending, ensures_ofExcept]
  rcases Registry.take_cases world.session.pending (message.member "id") with
    ⟨fault, -, refused⟩ | missed | ⟨before, after, key, handler, split, -, taken⟩
  · rw [refused]
    exact hosted.toThriving
  · rw [missed]
    exact hosted.toThriving.ensures (within_unmarked (unmarked_note _ (by decide)))
  · rw [taken]
    simp only [ensures_bind, ensures_setPending, contain, ensures_tryCatch]
    have waited : Hosted server { world with
        session := { world.session with pending := ⟨before ++ after⟩ } } :=
      hosted.idles (idles_of_session rfl id)
    have completed : Ensures (complete nested handler (Completion.ofResponse message))
        { world with session := { world.session with pending := ⟨before ++ after⟩ } }
        fun _ => Thriving := by
      by_cases own : handler = .handshake
      · subst own
        have starting : world.session.phase = .starting := by
          rcases rest.waiting split with ⟨beginning, -⟩ | ⟨-, other, -⟩
          · exact beginning.phase
          · exact (other rfl).elim
        exact (finishHandshake_endures _ waited starting).mono fun _ _ => Hosted.toThriving
      · exact waited.toThriving.ensures (endures_acting.completes handler _ own)
    refine completed.mono fun ending told thriving => ?_
    cases ending with
    | ok value => exact thriving
    | error fault => exact thriving.ensures (within_unmarked (unmarked_note _ (by decide)))

theorem handleMessage_endures {server : Nat} (message : Json) (hosted : Hosted server world)
    (rest : Rest world.session) :
    Ensures (handleMessage nested message) world fun _ => Thriving := by
  have noted : Unmarked (Log.messageIn message) := unmarked_of_component "WIRE" rfl (by decide)
  have begun : Hosted server (world.noting (.logged (Log.messageIn message))) :=
    hosted.idles (Obliging.noting world _ noted)
  unfold handleMessage
  rw [ensures_bind]
  simp only [record, ensures_write, add_eq_noting]
  cases kind : Message.classify message with
  | response =>
      exact Ensures.bind (resolve_endures message begun rest) fun _ _ thriving => thriving
  | request =>
      exact begun.toThriving.ensures (answerRequest_within endures_acting.toSpeaking message)
  | notification =>
      dsimp only
      split
      · next event notifies =>
        have same : notified message = some event := by rw [notified, kind, notifies]
        have silent : Signless (.emitted event) := by
          cases event with
          | ready told => exact (notified_channel same rfl).elim
          | _ => exact ⟨rfl, by simp⟩
        refine (emit_idles event _).mono fun _ _ idles => ?_
        exact ((begun.idles (idles_noting silent (by simp) _)).idles idles).toThriving
      · exact begun.toThriving
  | invalid => exact begun.toThriving.ensures (within_unmarked (unmarked_note _ (by decide)))

theorem handleMessages_endures (server : Nat) (messages : List Json) (thriving : Thriving world)
    (pausing : Pausing world.session) :
    Ensures (handleMessages nested server messages) world fun _ => Thriving := by
  refine handleMessages_each (fun message world rest served thriving => ?_) thriving.passive pausing
    thriving
  have hosted : Hosted server world := ⟨thriving, served⟩
  have handles : Signless (.handling server message) := ⟨rfl, by simp⟩
  exact handleMessage_endures message (hosted.idles (idles_noting handles (by simp) world)) rest.rest

structure Lively (world : World) : Prop extends Thriving world where
  rest : Rest world.session

theorem Lively.atRest (lively : Lively world) : AtRest world := ⟨lively.passive, lively.rest⟩

theorem Lively.ensures {α : Type} {action : Act World α} (lively : Lively world)
    (leaves : Within Leaves action) (idles : Within Idles action) :
    Ensures action world fun _ => Lively := by
  refine ((leaves world).and (lively.toThriving.ensures (within_endures idles))).mono ?_
  rintro _ world' ⟨left, thriving⟩
  exact ⟨thriving, (lively.atRest.leaves left).rest⟩

theorem handleFeed_endures (server : Nat) {fed : Frame.Feed}
    (unmarked : ∀ note ∈ fed.notes, Unmarked note) (lively : Lively world) :
    Ensures (handleFeed nested server fed) world fun _ => Thriving := by
  refine ensures_fed (fun _ => Lively.toThriving)
    (fun note member _ lively =>
      lively.ensures (within_record note) (within_unmarked (unmarked note member)))
    (fun _ _ lively => lively.ensures (emitLog_leaves _) (emitLog_idles _))
    (fun start lively => ?_) lively
  refine Ensures.bind ?_ fun _ _ thriving =>
    thriving.ensures (stopIfAborted_within endures_acting.toHalting)
  exact handleMessages_endures server fed.messages lively.toThriving (.inl lively.rest)

theorem receive_endures (server : Nat) (data : Bytes) (lively : Lively world) :
    Ensures (receive nested server data) world fun _ => Thriving := by
  have arrived : Thriving (world.noting (.arrived server data)) :=
    Idles.endures (Obliging.noting world (.arrived server data) trivial) lively.toThriving
  refine ensures_arrival arrived fun served _ => ?_
  refine handleFeed_endures server (unmarked_feed _ _) ⟨?_, ?_⟩
  · exact Idles.endures (idles_of_session rfl id) arrived
  · exact lively.rest.buffering (Option.isSome_iff_exists.mpr ⟨server, served⟩) _

/-! ## Calls of the user -/

theorem begin_endures (thriving : Thriving world)
    (idle : world.session.phase = .notStarted ∨ world.session.phase = .stopped)
    (unready : world.session.ready = false) (nobody : world.session.server = none) :
    Ensures (setPhase .starting) world fun _ world' =>
      Thriving world' ∧ world'.session.phase = .starting := by
  have other : world.session.phase ≠ .starting := by
    rcases idle with same | same <;> simp [same]
  have noted : Truthful
      (world.noting (.logged (Log.stateChange world.session.phase.name Phase.starting.name))) :=
    thriving.toTruthful.changing (by decide)
  simp only [setPhase, ensures_bind, ensures_getSession, if_neg other, record, ensures_write,
    add_eq_noting, ensures_modifySession]
  refine ⟨⟨⟨{ noted with }, ?_, ?_, by simp⟩, ?_⟩, trivial⟩
  · have lives := thriving.lives
    rw [unready] at lives
    rw [noting_entries, signs_snoc _ (sign?_stateChange _ _), noting_session, unready]
    exact lives.on (.starts idle)
  · simp [nobody]
  · exact thriving.passive.kept

theorem prepare_endures (root : Text) (thriving : Thriving world) (rest : Rest world.session)
    (nobody : world.session.server = none) :
    Ensures (prepare nested root) world fun ending world' =>
      Thriving world' ∧ (ending = .ok () → world'.session.phase = .starting) := by
  have unmoved : Within (Eq : World → World → Prop) awaitEnding := awaitEnding_within
  have lives := thriving.lives
  rw [(rest.vacant nobody).ready] at lives
  have cleared : Truthful
      { world with session := { phase := world.session.phase, root := root } } :=
    ⟨thriving.current.trans nobody, by simp, thriving.refusals, by simp, thriving.shuts⟩
  have dropped : Signless .dropped := ⟨rfl, by simp⟩
  have reset : Thriving (World.noting
      { world with session := { phase := world.session.phase, root := root } } .dropped) := by
    refine ⟨⟨cleared.noting (dropped.shutsSoundly _) (by simp) (by simp), ?_, by simp, ?_⟩, ?_⟩
    · rw [noting_entries, signs_silent (by simp [sign?])]
      exact lives
    · exact fun shuts => (rest.phase_ne_shuttingDown shuts).elim
    · exact thriving.passive.kept
  unfold prepare
  rw [ensures_bind]
  refine (unmoved world).mono ?_
  rintro (fault | _) _ rfl
  · exact ⟨thriving, by simp⟩
  · dsimp only
    rw [ensures_bind, resetSession_cleared root (rest.cleared nobody)]
    refine (begin_endures reset (rest.vacant nobody).phase rfl rfl).mono ?_
    exact fun _ _ begun => ⟨begun.1, fun _ => begun.2⟩

theorem Thriving.adopting (thriving : Thriving world) (starting : world.session.phase = .starting)
    (argv : List Text) : Thriving (world.adopting argv) := by
  have made : (world.adopting argv).servers.length = world.servers.length + 1 := by
    simp [World.adopting]
  have entries : (world.adopting argv).journal.entries =
      world.journal.entries ++ [.serving (some world.servers.length)] := rfl
  refine ⟨⟨⟨?_, ?_, ?_, ?_, ?_⟩, ?_, fun _ => .inl starting, ?_⟩, thriving.passive.adopting argv⟩
  · rw [entries, standing_snoc]
    rfl
  · rintro _ ⟨⟩
    rw [made]
    exact Nat.lt_succ_self _
  · intro server message member
    rw [entries] at member
    rw [made]
    exact Nat.lt_succ_of_lt (thriving.refusals server message (by simpa using member))
  · -- Whoever refused a message has a smaller number than the new server.
    rintro - _ ⟨⟩ message member
    rw [entries] at member
    exact (thriving.refusals _ message (by simpa using member)).false
  · exact thriving.shuts.snoc (shutsSoundly_of_sign (by simp [sign?]) _)
  · rw [entries, signs_silent (by simp [sign?])]
    exact thriving.lives
  · exact fun shuts => thriving.ending shuts

theorem bringUp_endures (command : Text) (arguments : List Text) (root : Option Text)
    (server : Nat) : Within Endures (bringUp nested command arguments root server) := by
  refine Within.bind (within_unmarked ?_) fun _ => ?_
  · exact unmarked_of_component "PROCESS" rfl (by decide)
  · refine Within.bind (spawn_obliging _) fun failure => ?_
    split
    · refine Within.bind (endures_acting.tells _) fun _ => ?_
      exact Within.bind (stop_endures _) fun _ => within_pure _
    · refine Within.bind (beginHandshake_within endures_acting.toSpeaking
        (fun id => within_endures (awaits_idles _ id)) _) fun _ => ?_
      refine Within.bind (stopIfAborted_within endures_acting.toHalting) fun _ => ?_
      exact Within.bind within_getSession fun _ => within_pure _

theorem start_endures (command : Text) (arguments : List Text) (root : Option Text)
    (lively : Lively world) :
    Ensures (start nested command arguments root) world fun _ => Thriving := by
  have stopped : Ensures (stop nested none) world fun _ world' => Ended world' ∧ Thriving world' :=
    (stop_passive lively.passive (by simp) lively.rest.stopping fun _ => lively.rest).and
      (lively.toThriving.ensures (stop_endures none))
  rw [start_eq, ensures_bind]
  refine stopped.mono ?_
  rintro (fault | _) left ⟨ended, thriving⟩
  · exact thriving
  · dsimp only
    rw [ensures_bind]
    refine (prepare_endures _ thriving ended.rest ended.server).mono ?_
    rintro (fault | _) begun ⟨thriving, starting⟩
    · exact thriving
    · dsimp only
      rw [ensures_bind, ensures_adoptServer]
      exact (thriving.adopting (starting rfl) _).ensures (bringUp_endures _ _ _ _)

/-! ## Runs -/

theorem admits_endures {step : Step} (passive : step.Passive)
    (other : ∀ command arguments root, step ≠ .start command arguments root)
    (silent : ∀ server message, step ≠ .send server message)
    (mute : ∀ server data, step ≠ .raw server data) : Admits Endures nested step := by
  have adds {callback : Callback Step} (idle : callback.script = []) (world : World) :
      Endures world (world.adding callback) :=
    (idles_of_journal (fun passive => passive.adding idle) rfl id rfl rfl).endures
  cases step with
  | start command arguments root => exact (other _ _ _ rfl).elim
  | send server message => exact (silent _ _ rfl).elim
  | raw server data => exact (mute _ _ rfl).elim
  | request method params handler =>
      cases handler with
      | none => trivial
      | some callback =>
          have idle : ({ callback with kind := "handler" } : Callback Step).script = [] :=
            passive callback rfl
          exact adds idle
  | subscribe channel listener =>
      have idle : ({ listener with kind := channel.name } : Callback Step).script = [] := passive
      refine fun world => trans_of Endures (adds idle world) (Idles.endures ?_)
      exact idles_of_journal (fun passive => passive.kept) rfl id rfl rfl
  | unsubscribe name =>
      exact fun world _ _ => Idles.endures (idles_of_journal (fun passive => passive.kept) rfl id rfl rfl)
  | set server running change =>
      intro world server
      refine Idles.endures
        (idles_of_journal (fun before => before.modifying server ?_) rfl id ?_ rfl)
      · exact fun process => passive process.conduct
      · simp [World.modifyServer]
  | setFactory change =>
      intro world
      refine Idles.endures (idles_of_journal (fun before => ?_) rfl id rfl rfl)
      exact ⟨before.callbacks, before.servers, passive _ before.factory⟩
  | _ => trivial

theorem performWith_endures {step : Step} (passive : step.Passive) (lively : Lively world) :
    Ensures (performWith nested step) world fun _ => Lively := by
  have thrives (ensures : Ensures (performWith nested step) world fun _ => Thriving) :
      Ensures (performWith nested step) world fun _ => Lively := by
    refine ((performWith_passive passive lively.atRest).and ensures).mono ?_
    rintro _ world' ⟨atRest, thriving⟩
    exact ⟨thriving, atRest.rest⟩
  have served {server : Option Nat} (data : Bytes) : Ensures
      (withServer server (fun server => receive nested server data) >>= fun _ => pure Json.null)
      world fun _ => Thriving := by
    refine Ensures.bind (ensures_withServer lively.toThriving ?_) fun _ _ thriving => thriving
    exact fun server => receive_endures server data lively
  cases step with
  | start command arguments root =>
      refine thrives (Ensures.bind ?_ fun _ _ thriving => thriving)
      exact start_endures command arguments root lively
  | send server message =>
      refine thrives ?_
      rw [performWith, ensures_bind, ensures_ofExcept]
      cases (Frame.encode message).mapError Fault.unencodable with
      | error fault => exact lively.toThriving
      | ok data => exact served data
  | raw server data => exact thrives (served data)
  | _ =>
      refine thrives (lively.toThriving.ensures (performWith_within endures_acting ?_))
      exact admits_endures passive (by simp) (by simp) (by simp)

end

theorem lively_fresh (settings : Settings) {factory : Conduct} (silent : Silent factory) :
    Lively { settings := settings, factory := factory } where
  current := rfl
  made := by simp
  refusals := by simp
  unrefused := by simp
  shuts := obeys_nil
  lives := .born
  served := by simp
  ending := by simp
  passive := (atRest_fresh settings silent).passive
  rest := (atRest_fresh settings silent).rest

/--
When nobody calls the client from inside a call, its sessions start, become ready, shut down and
stop in this order and no other.  Listeners are told that a session is ready right when it becomes
so, and that it is so no more right before it stops.  A ready session shuts down in order only if
its server runs and has taken all that was written to it.
-/
theorem states_of_run (settings : Settings) (factory : Conduct) (script : List Step)
    (silent : Silent factory) (passive : ∀ step ∈ script, step.Passive) :
    let world : World := { settings := settings, factory := factory }
    let journal := (play world script).flatMap Turn.entries
    let session := (leftBy world (play world script)).session
    Lives (signs journal) (session.phase, session.ready) ∧
      (∀ before sign after, signs journal = before ++ sign :: after → Fits before after sign) ∧
      Obeys ShutsSoundly journal := by
  have each : ∀ step ∈ script, ∀ world, Lively world →
      Ensures (performWith (nestedCalls (depthFor script)) step) world fun _ => Lively :=
    fun step member world lively => performWith_endures (passive step member) lively
  have lively := leftBy_turns each (lively_fresh settings silent)
  dsimp only
  rw [← entries_play]
  exact ⟨lively.lives, lively.lives.fits, lively.shuts⟩

/-- A session is asked to end, and the next one is refused a message. -/
def twoSessions : List Step :=
  [.start "srv" [] none, .send none (.object [("id", .nat 1), ("result", .object [])]), .stop,
    .start "srv" [] none, .send none (.object [("id", .nat 1), ("result", .object [])]),
    .set none none fun conduct => { conduct with refusesWrite := fun _ => some "broken" },
    .didOpen "file:///a" "cpp" (.literal "int a;")]

theorem states_of_two_sessions :
    signs ((play {} twoSessions).flatMap Turn.entries) =
        [change .notStarted .starting, change .starting .ready, .announced true,
          change .ready .shuttingDown, .announced false, change .shuttingDown .stopped,
          change .stopped .starting, change .starting .ready, .announced true,
          .announced false, change .ready .stopped] ∧
      (leftBy {} (play {} twoSessions)).session.phase = .stopped ∧
      Obeys ShutsSoundly ((play {} twoSessions).flatMap Turn.entries) :=
  ⟨by decide +kernel, by decide +kernel,
    (states_of_run {} {} twoSessions (fun _ => rfl)
      (by simp [twoSessions, Step.Passive, Silent])).2.2⟩

end Client

end LanguageSession
