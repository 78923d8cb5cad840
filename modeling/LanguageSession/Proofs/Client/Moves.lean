import Mathlib
import LanguageSession.Proofs.Client.History
import LanguageSession.Proofs.Client.Lifecycle
import LanguageSession.Proofs.Client.Processes

/-!
# What can happen to a session

However calls nest, the session and its journal change by moves of a few kinds.  A move says
what is known when it is made, so that a law of all runs follows from a look at each kind.
Worlds in which moves are made are sane: the journal tells which server the session has and
whether its end is under way, and a session that is ready without a server was announced so.
-/

namespace LanguageSession

namespace Client

open Act

/-! ## Views -/

/-- What laws speak of. -/
structure View where
  session : Session
  entries : List Entry
  settings : Settings
  /-- How many servers were made. -/
  made : Nat

def World.view (world : World) : View :=
  ⟨world.session, world.journal.entries, world.settings, world.servers.length⟩

def View.noting (view : View) (added : List Entry) : View :=
  { view with entries := view.entries ++ added }

@[simp] theorem View.noting_noting (view : View) (added later : List Entry) :
    (view.noting added).noting later = view.noting (added ++ later) := by
  simp [View.noting]

@[simp] theorem view_noting (world : World) (entry : Entry) :
    (world.noting entry).view = world.view.noting [entry] := rfl

@[simp] theorem view_modifyServer (world : World) (server : Nat) (change : Server → Server) :
    (world.modifyServer server change).view = world.view := by
  simp [World.view, World.modifyServer]

theorem view_looking (world : World) (server : Nat) : (world.looking server).view =
    world.view.noting [.looked server ((world.looking server).isRunning server)] := by
  rw [World.looking, view_noting, view_modifyServer]
  rfl

@[simp] theorem view_session (world : World) : world.view.session = world.session := rfl

@[simp] theorem view_entries (world : World) : world.view.entries = world.journal.entries := rfl

@[simp] theorem view_settings (world : World) : world.view.settings = world.settings := rfl

@[simp] theorem view_made (world : World) : world.view.made = world.servers.length := rfl

def Session.essence (session : Session) : Phase × Bool × Option Nat × Bool × Documents :=
  (session.phase, session.ready, session.server, session.stopping, session.documents)

/-! ## Entries -/

/-- Entries that may be noted at any time. -/
def Minor : Entry → Prop
  | .wrote _ _ _ => False
  | .writeRefused _ _ => False
  | .killed _ => False
  | .closed _ => False
  | .serving _ => False
  | .ending _ => False
  | .dropped => False
  | _ => True

theorem Neutral.minor {entry : Entry} (neutral : Neutral entry) : Minor entry := by
  cases entry <;> trivial

/-- Whether the end of a session begins or is over with the entry. -/
def border? : Entry → Option Bool
  | .ending _ => some true
  | .serving none => some false
  | _ => none

def Borders (entry : Entry) : Prop := (border? entry).isSome

theorem Minor.not_borders {entry : Entry} (minor : Minor entry) : ¬ Borders entry := by
  cases entry <;> simp_all [Minor, Borders, border?]

/-- The entry tells of the beginning or the end of a session with this server. -/
def Names (server : Nat) : Entry → Prop
  | .serving other => other = some server
  | .ending other => other = server
  | .killed other => other = server
  | .closed other => other = server
  | _ => False

theorem Minor.not_names {entry : Entry} (minor : Minor entry) (server : Nat) :
    ¬ Names server entry := by
  cases entry <;> simp_all [Minor, Names]

/-- The end of the session is under way. -/
def underway (entries : List Entry) : Bool :=
  entries.foldl (fun ending entry => (border? entry).getD ending) false

theorem underway_append {entries added : List Entry} (inside : ∀ entry ∈ added, ¬ Borders entry) :
    underway (entries ++ added) = underway entries := by
  induction added using List.reverseRecOn with
  | nil => simp
  | append_singleton added entry ih =>
      have earlier := ih fun other member => inside other (List.mem_append_left _ member)
      have last : border? entry = none := by
        simpa [Borders] using inside entry (by simp)
      rw [← earlier, ← List.append_assoc]
      simp [underway, last]

theorem underway_of_ending {entries later : List Entry} {server : Nat}
    (inside : ∀ entry ∈ later, ¬ Borders entry) :
    underway (entries ++ .ending server :: later) = true := by
  rw [List.append_cons, underway_append inside, underway, List.foldl_append]
  rfl

theorem underway_left (entries : List Entry) : underway (entries ++ [.serving none]) = false := by
  rw [underway, List.foldl_append]
  rfl

/-- The session was announced as ready when it had no server. -/
def Hollow (entries : List Entry) : Prop :=
  ∃ before after, entries = before ++ .emitted (.ready true) :: after ∧
    (standing before).server = none

theorem Hollow.append {entries : List Entry} (hollow : Hollow entries) (added : List Entry) :
    Hollow (entries ++ added) := by
  obtain ⟨before, after, rfl, unserved⟩ := hollow
  exact ⟨before, after ++ added, by simp, unserved⟩

/-! ## Notes about documents -/

/-- The method of a notification about a document. -/
def documentMethod? (message : Json) : Option Text :=
  if message.hasMember "id" then none
  else
    match message.member "method" with
    | .string method => if documentMethods.contains method then some method else none
    | _ => none

theorem documentMethod?_request (id method params : Json) :
    documentMethod? (Message.request id method params) = none := rfl

theorem documentMethod?_opening : documentMethod? opening = none := by decide

theorem documentMethod?_parting : documentMethod? parting = none := by decide

theorem documentMethod?_answer {message : Json} (answers : IsAnswer message) :
    documentMethod? message = none := by
  obtain ⟨request, root, reply, -, replied, rfl⟩ := answers
  unfold Answer.reply at replied
  split at replied
  · cases replied
  · cases replied
  · obtain rfl := Except.ok.inj replied
    unfold Answer.toMethod
    dsimp only
    split
    · rfl
    · split
      · rfl
      · split <;> rfl

theorem documentMethod?_notice (documents : Documents) (notice : Notice) :
    documentMethod? (notice.message documents) = some notice.method := by
  cases notice <;> rfl

def Due (session : Session) (message : Json) : Prop :=
  documentMethod? message ≠ none →
    session.ready = true ∧ ∃ notice : Notice, message = notice.message session.documents

theorem due_of_other {session : Session} {message : Json} (other : documentMethod? message = none) :
    Due session message := fun about => (about other).elim

/-! ## Writes -/

/-- The entries begin with a write that is refused, or answered before it has returned. -/
inductive Interrupted (server : Nat) (message : Json) : List Entry → Prop
  | refused (rest : List Entry) :
      Interrupted server message (.looked server true :: .writeRefused server message :: rest)
  | answered (data answer : Bytes) (rest : List Entry) :
      Interrupted server message
        (.looked server true :: .wrote server message data :: .arrived server answer :: rest)

theorem Interrupted.append {server : Nat} {message : Json} {added : List Entry}
    (interrupted : Interrupted server message added) (later : List Entry) :
    Interrupted server message (added ++ later) := by
  cases interrupted with
  | refused rest => exact .refused (rest ++ later)
  | answered data answer rest => exact .answered data answer (rest ++ later)

/-- How a message is handed over when nothing interrupts it: not at all without a running server. -/
inductive Handed (server : Option Nat) (message : Json) : List Entry → Prop
  | unserved (nobody : server = none) : Handed server message []
  | ended (number : Nat) (served : server = some number) :
      Handed server message [.looked number false]
  | taken (number : Nat) (data : Bytes) (note : Log.Record) (served : server = some number) :
      Handed server message [.looked number true, .wrote number message data, .logged note]

/-- What is noted when a server is dismissed. -/
def dismissal (settings : Settings) (server : Nat) (graceful running : Bool) : List Entry :=
  let patience : List Entry := if graceful then [.waited server settings.shutdownGrace] else []
  let force : List Entry :=
    if running then [.killed server, .waited server settings.killGrace] else []
  patience ++ .looked server running :: (force ++ [.closed server])

def departure (settings : Settings) (server : Nat) (graceful running : Bool) (note : Log.Record) :
    List Entry :=
  dismissal settings server graceful running ++ [.logged note, .dropped] ++ [.serving none]

/-! ## Sane views -/

structure Sane (view : View) : Prop where
  served : (standing view.entries).server = view.session.server
  made : ∀ server, ∀ entry ∈ view.entries, Names server entry → server < view.made
  underway : underway view.entries = true → view.session.stopping = true
  settled : view.session.stopping = true → Client.underway view.entries = false →
    view.session.ready = false ∧ view.session.documents = {}
  vacant : Hollow view.entries ∨
    (view.session.ready = true → view.session.stopping = false → view.session.server ≠ none)

/-- The session after its server was dismissed. -/
def Session.left (session : Session) : Session :=
  { session with
    server := none, buffer := [], pending := {}, documents := {}
    handshakeId := none, abortRequested := false, ready := false }

@[simp] theorem Session.left_ready (session : Session) : session.left.ready = false := rfl

/-- The session before it takes a new server. -/
def Session.renewed (session : Session) (root : Text) : Session :=
  { session with
    root := root, buffer := [], pending := {}, documents := {}, nextId := 1
    handshakeId := none, abortRequested := false, ready := false }

@[simp] theorem Session.renewed_ready (session : Session) (root : Text) :
    (session.renewed root).ready = false := rfl

/--
The kinds of moves.  In `strayed` and `opened` an earlier view is named in which the call was
made that now goes on, and for which the law is known.
-/
inductive Move (law : View → Prop) (view : View) : View → Prop
  /-- Nothing of account changes; without a server nobody begins to wait. -/
  | aside (session : Session) (added : List Entry) (same : session.essence = view.session.essence)
      (idle : view.session.server = none →
        session.pending.entries ⊆ view.session.pending.entries ∧
          session.buffer = view.session.buffer)
      (minor : ∀ entry ∈ added, Minor entry) :
      Move law view { view with session := session, entries := view.entries ++ added }
  /-- A message is handed over that is not about a document. -/
  | told (message : Json) (added : List Entry) (other : documentMethod? message = none)
      (handed : Handed view.session.server message added) :
      Move law view (view.noting added)
  | refused (server : Nat) (message : Json) (served : view.session.server = some server)
      (due : Due view.session message) :
      Move law view (view.noting [.looked server true, .writeRefused server message])
  /-- The server answers before the write has returned. -/
  | answered (server : Nat) (message : Json) (data answer : Bytes)
      (served : view.session.server = some server)
      (due : Due view.session message) :
      Move law view
        (view.noting [.looked server true, .wrote server message data, .arrived server answer])
  /-- A notice is handed over and its version kept. -/
  | synced (notice : Notice) (added : List Entry) (ready : view.session.ready = true)
      (handed : Handed view.session.server (notice.message view.session.documents) added) :
      Move law view { view with
        session := { view.session with documents := notice.apply view.session.documents }
        entries := view.entries ++ added }
  /-- The version of a notice is kept whose write was interrupted. -/
  | strayed (notice : Notice) (earlier : View) (server : Nat) (added : List Entry)
      (lawful : law earlier) (sane : Sane earlier) (ready : earlier.session.ready = true)
      (served : earlier.session.server = some server)
      (since : view.entries = earlier.entries ++ added)
      (interrupted : Interrupted server (notice.message earlier.session.documents) added)
      (stopping : view.session.stopping = earlier.session.stopping)
      (inside : view.session.stopping = true → ∀ entry ∈ added, ¬ Borders entry)
      (lost : ∀ rest,
        added = .looked server true ::
          .writeRefused server (notice.message earlier.session.documents) :: rest →
        view.session.server = none ∨ view.session.stopping = true) :
      Move law view { view with
        session := { view.session with documents := notice.apply view.session.documents } }
  /-- The session is announced as ready. -/
  | opened (notes : List Log.Record) (unready : view.session.ready = false)
      (going : view.session.stopping = false)
      (lost : view.session.server = none → ∃ earlier server added, law earlier ∧
        view.entries = earlier.entries ++ added ∧ Interrupted server opening added) :
      Move law view { view with
        session := { view.session with ready := true, phase := .ready }
        entries := view.entries ++ (notes.map .logged ++ [.emitted (.ready true)]) }
  | begun (server : Nat) (served : view.session.server = some server)
      (going : view.session.stopping = false) :
      Move law view { view with
        session := { view.session with stopping := true }
        entries := view.entries ++ [.ending server] }
  | shutting (notes : List Log.Record) (ready : view.session.ready = true)
      (stopping : view.session.stopping = true) :
      Move law view { view with
        session := { view.session with phase := .shuttingDown }
        entries := view.entries ++ notes.map .logged }
  /-- The server is dismissed and forgotten. -/
  | left (server : Nat) (earlier later : List Entry) (graceful running : Bool) (note : Log.Record)
      (stopping : view.session.stopping = true)
      (since : view.entries = earlier ++ .ending server :: later)
      (inside : ∀ entry ∈ later, ¬ Borders entry)
      (kept : view.session.server = some server ∨ .doing "start" ∈ later)
      (hasty : graceful = false → ∀ entry ∈ later, ∃ running, entry = .looked server running) :
      Move law view { view with
        session := view.session.left
        entries := view.entries ++ departure view.settings server graceful running note }
  | stopped (notes : List Log.Record) (stopping : view.session.stopping = true)
      (unready : view.session.ready = false) (finished : underway view.entries = false) :
      Move law view { view with
        session := { view.session with phase := .stopped, stopping := false }
        entries := view.entries ++ notes.map .logged }
  /-- A session that still counts as ready is emptied, which is told before it takes a server. -/
  | renewed (root : Text) (ready : view.session.ready = true)
      (cause : Hollow view.entries ∨ underway view.entries = true) :
      Move law view { view with
        session := view.session.renewed root
        entries := view.entries ++ [.dropped] }
  /-- The session takes a new server. -/
  | adopted (notes : List Log.Record)
      (fresh : Hollow view.entries ∨
        view.session.ready = false ∧ view.session.documents = {})
      (free : view.session.server = none ∨ .doing "start" ∈ view.entries) :
      Move law view
        { session := { view.session with phase := .starting, server := some view.made }
          entries := view.entries ++ (notes.map .logged ++ [.serving (some view.made)])
          settings := view.settings
          made := view.made + 1 }
  /-- A session that does not count as ready is emptied and takes a new server. -/
  | restarted (root : Text) (notes : List Log.Record) (unready : view.session.ready = false)
      (free : view.session.server = none ∨ .doing "start" ∈ view.entries) :
      Move law view
        { session := { view.session.renewed root with phase := .starting, server := some view.made }
          entries := view.entries ++ (.dropped :: notes.map .logged ++ [.serving (some view.made)])
          settings := view.settings
          made := view.made + 1 }

/-! ## Moves keep views sane -/

section

variable {law : View → Prop} {view view' : View}

theorem minor_logged {notes : List Log.Record} : ∀ entry ∈ notes.map Entry.logged, Minor entry := by
  simp [Minor]

/-- The entries tell of no server that is taken, dismissed or left. -/
def Steadfast (added : List Entry) : Prop :=
  (∀ server, .serving server ∉ added) ∧ (∀ entry ∈ added, ¬ Borders entry) ∧
    ∀ server, ∀ entry ∈ added, ¬ Names server entry

theorem steadfast_of_minor {added : List Entry} (minor : ∀ entry ∈ added, Minor entry) :
    Steadfast added :=
  ⟨fun _ member => minor _ member, fun entry member => (minor entry member).not_borders,
    fun server entry member => (minor entry member).not_names server⟩

theorem Handed.steadfast {server : Option Nat} {message : Json} {added : List Entry}
    (handed : Handed server message added) : Steadfast added := by
  cases handed with
  | unserved nobody => exact ⟨by simp, by simp, by simp⟩
  | ended number served => exact ⟨by simp, by simp [Borders, border?], by simp [Names]⟩
  | taken number data note served => exact ⟨by simp, by simp [Borders, border?], by simp [Names]⟩

/-- The server stays, and the session is not announced as ready. -/
theorem Sane.staying (sane : Sane view) {session : Session} {added : List Entry}
    (steadfast : Steadfast added) (server : session.server = view.session.server)
    (stopping : session.stopping = view.session.stopping)
    (ready : session.ready = true → view.session.ready = true)
    (settled : view.session.stopping = true → Client.underway view.entries = false →
      session.ready = false ∧ session.documents = {}) :
    Sane { view with session := session, entries := view.entries ++ added } := by
  obtain ⟨unserved, inside, unnamed⟩ := steadfast
  constructor
  · simp only [standing_server_of_unserved unserved, server, sane.served]
  · intro number entry member names
    rcases List.mem_append.mp member with earlier | later
    · exact sane.made number entry earlier names
    · exact (unnamed number entry later names).elim
  · simp only [underway_append inside, stopping]
    exact sane.underway
  · simp only [underway_append inside, stopping]
    exact settled
  · rcases sane.vacant with hollow | vacant
    · exact .inl (hollow.append _)
    · simp only [stopping, server]
      exact .inr fun now => vacant (ready now)

theorem Sane.aside (sane : Sane view) {session : Session} {added : List Entry}
    (same : session.essence = view.session.essence) (steadfast : Steadfast added) :
    Sane { view with session := session, entries := view.entries ++ added } := by
  simp only [Session.essence, Prod.mk.injEq] at same
  obtain ⟨-, ready, server, stopping, documents⟩ := same
  refine sane.staying steadfast server stopping (ready ▸ id) ?_
  rw [ready, documents]
  exact sane.settled

theorem Sane.unsettled (sane : Sane view) (ready : view.session.ready = true)
    (stopping : view.session.stopping = true) : Client.underway view.entries = true := by
  by_contra settled
  have unready := (sane.settled stopping (by simpa using settled)).1
  rw [ready] at unready
  cases unready

theorem mem_dismissal {settings : Settings} {server : Nat} {graceful running : Bool} {entry : Entry}
    (member : entry ∈ dismissal settings server graceful running) :
    (∃ time, entry = .waited server time) ∨ entry = .looked server running ∨
      (entry = .killed server ∧ running = true) ∨ entry = .closed server := by
  simp only [dismissal, List.mem_append, List.mem_cons] at member
  rcases member with waits | looks | forced | closes
  · split at waits
    · exact .inl ⟨_, List.mem_singleton.mp waits⟩
    · cases waits
  · exact .inr (.inl looks)
  · split at forced
    · next runs =>
      rcases List.mem_cons.mp forced with kills | waits
      · exact .inr (.inr (.inl ⟨kills, runs⟩))
      · exact .inl ⟨_, List.mem_singleton.mp waits⟩
    · cases forced
  · exact .inr (.inr (.inr (by simpa using closes)))

theorem eq_of_names_dismissal {settings : Settings} {server number : Nat} {graceful running : Bool}
    {entry : Entry} (member : entry ∈ dismissal settings server graceful running)
    (names : Names number entry) : number = server := by
  rcases mem_dismissal member with ⟨_, rfl⟩ | rfl | ⟨rfl, -⟩ | rfl
  · cases names
  · cases names
  · exact names.symm
  · exact names.symm

theorem Sane.left (sane : Sane view) {server : Nat} {earlier later : List Entry}
    {graceful running : Bool} {note : Log.Record}
    (since : view.entries = earlier ++ .ending server :: later) :
    Sane { view with
      session := view.session.left
      entries := view.entries ++ departure view.settings server graceful running note } := by
  have known : server < view.made := sane.made server (.ending server) (by simp [since]) rfl
  constructor
  · rw [departure, ← List.append_assoc, standing_snoc]
    rfl
  · intro number entry member names
    rcases List.mem_append.mp member with before | after
    · exact sane.made number entry before names
    · simp only [departure, List.mem_append, List.mem_cons, List.not_mem_nil, or_false] at after
      rcases after with (dismissed | rfl | rfl) | rfl
      · exact eq_of_names_dismissal dismissed names ▸ known
      · cases names
      · cases names
      · cases names
  · rw [departure, ← List.append_assoc, underway_left]
    rintro ⟨⟩
  · exact fun _ _ => ⟨rfl, rfl⟩
  · exact .inr (by simp)

/-- The session takes a new server, whose number has not been used before. -/
theorem Sane.taking (sane : Sane view) {session : Session} {added : List Entry}
    (notes : List Log.Record) (steadfast : Steadfast added)
    (stopping : session.stopping = view.session.stopping)
    (settled : view.session.stopping = true → Client.underway view.entries = false →
      session.ready = false ∧ session.documents = {}) :
    Sane
      { session := { session with phase := .starting, server := some view.made }
        entries := view.entries ++ (added ++ (notes.map .logged ++ [.serving (some view.made)]))
        settings := view.settings
        made := view.made + 1 } := by
  -- the new server is noted last, so it is the one that stands
  have parted : view.entries ++ (added ++ (notes.map .logged ++ [.serving (some view.made)])) =
      (view.entries ++ added ++ notes.map .logged) ++ [.serving (some view.made)] := by simp
  have inside : ∀ entry ∈ added ++ (notes.map Entry.logged ++ [.serving (some view.made)]),
      ¬ Borders entry := by
    refine List.forall_mem_append.mpr ⟨steadfast.2.1, ?_⟩
    simp [or_imp, forall_and, Borders, border?]
  constructor
  · dsimp only
    rw [parted, standing_snoc]
    rfl
  · intro number entry member names
    rw [parted] at member
    rcases List.mem_append.mp member with before | last
    · rcases List.mem_append.mp before with earlier | logged
      · rcases List.mem_append.mp earlier with earlier | later
        · exact Nat.lt_succ_of_lt (sane.made number entry earlier names)
        · exact (steadfast.2.2 number entry later names).elim
      · exact ((minor_logged entry logged).not_names number names).elim
    · obtain rfl := List.mem_singleton.mp last
      obtain rfl : view.made = number := Option.some.inj names
      exact Nat.lt_succ_self _
  · simp only [underway_append inside, stopping]
    exact sane.underway
  · simp only [underway_append inside, stopping]
    exact settled
  · exact .inr fun _ _ => Option.some_ne_none _

theorem Sane.move (sane : Sane view) (move : Move law view view') : Sane view' := by
  -- the first five kinds only write or note something: the server stays as it was
  cases move with
  | aside session added same idle minor => exact sane.aside same (steadfast_of_minor minor)
  | told message added other handed => exact sane.aside rfl handed.steadfast
  | refused server message served due =>
      exact sane.aside rfl ⟨by simp, by simp [Borders, border?], by simp [Names]⟩
  | answered server message data answer served due =>
      exact sane.aside rfl ⟨by simp, by simp [Borders, border?], by simp [Names]⟩
  | synced notice added ready handed =>
      refine sane.staying handed.steadfast rfl rfl id fun stopping settled => ?_
      simp [sane.unsettled ready stopping] at settled
  | strayed notice earlier server added lawful sane' ready served since interrupted stopping inside
      lost =>
      have nothing : Steadfast [] := ⟨by simp, by simp, by simp⟩
      -- the notice was begun in a ready session, so an end that is under way now
      -- has begun since
      have unsettled : view.session.stopping = true → Client.underway view.entries = true := by
        intro ends
        rw [since, underway_append (inside ends)]
        exact sane'.unsettled ready (stopping ▸ ends)
      rw [← List.append_nil view.entries]
      refine sane.staying nothing rfl rfl id fun ends settled => ?_
      rw [unsettled ends] at settled
      cases settled
  | opened notes unready going lost =>
      have steadfast : Steadfast (notes.map Entry.logged ++ [.emitted (.ready true)]) :=
        steadfast_of_minor (List.forall_mem_append.mpr ⟨minor_logged, by simp [Minor]⟩)
      obtain ⟨unserved, inside, unnamed⟩ := steadfast
      constructor
      · simp only [standing_server_of_unserved unserved, sane.served]
      · intro number entry member names
        rcases List.mem_append.mp member with earlier | later
        · exact sane.made number entry earlier names
        · exact (unnamed number entry later names).elim
      · simp only [underway_append inside]
        exact sane.underway
      · simp only [underway_append inside, going]
        rintro ⟨⟩
      · -- opened without a server, the session was announced in vain
        by_cases nobody : view.session.server = none
        · refine .inl ⟨view.entries ++ notes.map .logged, [], by simp, ?_⟩
          rw [standing_server_of_unserved (by simp), sane.served, nobody]
        · exact .inr fun _ _ => nobody
  | begun server served going =>
      have known : server < view.made := by
        have current := serving_of_standing (sane.served.trans served)
        exact sane.made server _ current rfl
      constructor
      · rw [standing_server_of_unserved (by simp)]
        exact sane.served
      · intro number entry member names
        rcases List.mem_append.mp member with earlier | later
        · exact sane.made number entry earlier names
        · obtain rfl := List.mem_singleton.mp later
          obtain rfl : server = number := names
          exact known
      · exact fun _ => rfl
      · intro _ settled
        rw [underway_of_ending (by simp)] at settled
        cases settled
      · exact .inr fun _ => by simp
  | shutting notes ready stopping =>
      refine sane.staying (steadfast_of_minor minor_logged) rfl rfl id ?_
      exact sane.settled
  | left server earlier later graceful running note stopping since inside kept hasty =>
      exact sane.left since
  | stopped notes stopping unready finished =>
      obtain ⟨unserved, inside, unnamed⟩ := steadfast_of_minor (@minor_logged notes)
      constructor
      · simp only [standing_server_of_unserved unserved, sane.served]
      · intro number entry member names
        rcases List.mem_append.mp member with earlier | later
        · exact sane.made number entry earlier names
        · exact (unnamed number entry later names).elim
      · simp [underway_append inside, finished]
      · rintro ⟨⟩
      · simp [unready]
  | renewed root ready cause =>
      refine sane.staying ⟨by simp, by simp [Borders, border?], by simp [Names]⟩ rfl rfl (by simp) ?_
      exact fun _ _ => ⟨rfl, rfl⟩
  | adopted notes fresh free =>
      have nothing : Steadfast [] := ⟨by simp, by simp, by simp⟩
      exact sane.taking notes nothing rfl sane.settled
  | restarted root notes unready free =>
      have dropping : Steadfast [.dropped] :=
        ⟨by simp, by simp [Borders, border?], by simp [Names]⟩
      exact @Sane.taking _ sane (view.session.renewed root) _ notes dropping rfl
        fun _ _ => ⟨rfl, rfl⟩

end

end Client

end LanguageSession
