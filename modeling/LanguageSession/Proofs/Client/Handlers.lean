import Mathlib
import LanguageSession.Proofs.Client.Operations

/-!
# Response handlers over a whole run

In the journal of every run, with scripts that call the client again at any point, each
response handler is called at most once: when its request is refused, or for a response to
its request that the server of the session has delivered, before anything was dropped.  That
server is the one to which the request was written, unless the session took a new server
over the head of the request.  A run in which it does stands at the end.
-/

namespace LanguageSession

namespace Client

open Act

/-! ## Runs -/

theorem turn_keeps {perform : Step → Act World Json} {world : World} {step : Step}
    (keeps : Within Keeps (perform step)) (sound : Sound world) :
    Sound (turn perform world step).after ∧ (turn perform world step).after.journal.entries =
      world.journal.entries ++ (turn perform world step).entries := by
  obtain ⟨sound, grows⟩ := keeps world sound
  refine ⟨sound, ?_⟩
  exact (List.prefix_iff_eq_append.mp grows.journal).symm

theorem turns_sound {perform : Step → Act World Json} (keeps : ∀ step, Within Keeps (perform step))
    {world : World} (sound : Sound world) (script : List Step) :
    Sound (leftBy world (turns perform world script)) ∧
      (leftBy world (turns perform world script)).journal.entries =
        world.journal.entries ++ (turns perform world script).flatMap Turn.entries := by
  induction script generalizing world with
  | nil => simpa [turns] using sound
  | cons step rest ih =>
      obtain ⟨sound, grown⟩ := turn_keeps (keeps step) sound
      obtain ⟨sound, later⟩ := ih sound
      rw [turns, leftBy_cons]
      refine ⟨sound, ?_⟩
      rw [later, grown, List.flatMap_cons, List.append_assoc]

theorem sound_fresh (settings : Settings) (factory : Conduct) :
    Sound { settings := settings, factory := factory } where
  coherent := .nil
  server := rfl
  waiting := rfl
  numbered := ⟨[], rfl, List.Pairwise.nil, by simp⟩
  handlers := by simp
  listeners := by rintro (_ | _ | _) who member <;> cases member
  untouched := by simp [Untouched]
  servers := by simp

theorem coherent_play (settings : Settings) (factory : Conduct) (script : List Step) :
    Coherent ((play { settings := settings, factory := factory } script).flatMap Turn.entries) := by
  have keeps (step : Step) := within_keeps
    (performWith_settles (nestedCalls_orderly (depthFor script)) step)
  obtain ⟨sound, grown⟩ := turns_sound keeps (sound_fresh settings factory) script
  have coherent := sound.coherent
  rwa [grown] at coherent

/-! ## What the journal of a run says -/

/--
The call before which the entries `before` stand hands a response to the request with this
id; `since` is what happened since its handler was registered.
-/
structure Answers (before : List Entry) (callback id : Nat) (arguments : List Json)
    (registered since : List Entry) (writtenTo server : Nat) (message : Json) : Prop where
  split : before = registered ++ .awaiting callback id (some writtenTo) :: since
  written : (standing registered).server = some writtenTo
  undropped : .dropped ∉ since
  delivered : ∃ earlier,
    since = earlier ++ [.handling server message, .logged (Log.messageIn message)]
  current : (standing before).server = some server
  response : Message.classify message = .response
  matches_id : (Json.nat id).sameKey (message.member "id")
  arguments : arguments = (Completion.ofResponse message).arguments
  same_server : server = writtenTo ↔ ∀ number, .serving (some number) ∉ since

structure HandlersServed (journal : List Entry) : Prop where
  once : ∀ callback, journal.countP (isCallOf callback) ≤ 1
  refused : ∀ before after callback, journal = before ++ .requested callback none :: after →
    ∃ name error, .called callback "handler" name (Completion.failure error).arguments ∈ before
  answered : ∀ before after callback id name arguments,
    journal = before ++ .called callback "handler" name arguments :: after →
    .requested callback (some id) ∈ journal →
    ∃ registered since writtenTo server message,
      Answers before callback id arguments registered since writtenTo server message

theorem Coherent.awaiting_of_requested {journal : List Entry} {callback id : Nat}
    (coherent : Coherent journal) (returned : .requested callback (some id) ∈ journal) :
    ∃ server, .awaiting callback id server ∈ journal := by
  obtain ⟨before, after, rfl⟩ := List.append_of_mem returned
  obtain ⟨server, awaiting⟩ := coherent.lawful
  exact ⟨server, List.mem_append_left _ awaiting⟩

theorem suffix_of_append_cons {α : Type} {before after earlier : List α} {entry first second : α}
    (same : before ++ entry :: after = earlier ++ [first, second]) (other : entry ≠ first)
    (another : entry ≠ second) : ∃ between, after = between ++ [first, second] := by
  rcases List.append_eq_append_iff.mp same with ⟨between, -, same⟩ | ⟨between, -, same⟩
  · cases between with
    | nil => exact (other (List.cons.inj same).1).elim
    | cons _ between => exact ⟨between, (List.cons.inj same).2⟩
  · match between with
    | [] => exact (other (List.cons.inj same).1.symm).elim
    | [_] => exact (another (List.cons.inj (List.cons.inj same).2).1.symm).elim
    | _ :: _ :: _ => simp at same

/-- The server has changed since a request just if a server was taken since. -/
theorem Coherent.same_server_iff {registered since : List Entry} {callback id writtenTo server : Nat}
    (coherent : Coherent (registered ++ .awaiting callback id (some writtenTo) :: since))
    (undropped : .dropped ∉ since) (written : (standing registered).server = some writtenTo)
    (current : (standing (registered ++ .awaiting callback id (some writtenTo) :: since)).server =
      some server) :
    server = writtenTo ↔ ∀ number, .serving (some number) ∉ since := by
  have kept : .serving none ∉ since := coherent.kept_of_undropped (by simpa using undropped)
  constructor
  · rintro rfl number served
    obtain ⟨newest, newer, less⟩ := coherent.newer_server written (by simpa using kept)
      (List.mem_cons_of_mem _ served)
    rw [current] at newer
    obtain rfl : server = newest := by simpa using newer
    exact less.ne rfl
  · intro unserved
    have same : (standing (registered ++ .awaiting callback id (some writtenTo) :: since)).server =
        (standing registered).server := by
      refine standing_server_of_unserved ?_
      rintro (_ | number)
      · simpa using kept
      · simpa using unserved number
    rw [current, written] at same
    simpa using same

theorem Coherent.answers_awaiting {before after : List Entry} {callback id : Nat} {name : Text}
    {arguments : List Json} {noted : Option Nat}
    (coherent : Coherent (before ++ .called callback "handler" name arguments :: after))
    (awaiting : .awaiting callback id noted ∈
      before ++ .called callback "handler" name arguments :: after) :
    ∃ registered since writtenTo server message,
      Answers before callback id arguments registered since writtenTo server message := by
  rcases coherent.lawful rfl with
    ⟨untouched, -⟩ | ⟨request, earlier, server, message, rfl, answered⟩
  · exact (coherent.not_awaiting_of_refused untouched _ _ awaiting).elim
  · obtain ⟨registered, since, split, undropped, -⟩ := awaiting_of_waiting answered.waits
    have coherent_before := coherent.before
    rw [split] at coherent_before
    obtain ⟨-, served, written⟩ := coherent_before.lawful
    obtain ⟨writtenTo, writes⟩ := Option.isSome_iff_exists.mp served
    rw [writes] at split written coherent_before
    -- a handler that waits for one request cannot have answered another
    obtain rfl : request.id = id := by
      by_contra differs
      rw [split, List.append_assoc, List.cons_append] at coherent awaiting
      refine coherent.awaiting_once id noted ?_
      simpa [differs, Ne.symm differs] using awaiting
    refine ⟨registered, since, writtenTo, server, message, split, written.symm, undropped, ?_,
      answered.current, ?_, ?_, answered.arguments, ?_⟩
    · exact suffix_of_append_cons (split.symm.trans answered.delivered) (by simp) (by simp)
    · have matched := answered.matches_id
      simp only [Waiting.answeredBy, Bool.and_eq_true, decide_eq_true_eq] at matched
      exact matched.1
    · have matched := answered.matches_id
      simp only [Waiting.answeredBy, Bool.and_eq_true, decide_eq_true_eq] at matched
      exact matched.2
    · refine coherent_before.same_server_iff undropped written.symm ?_
      rw [← split]
      exact answered.current

theorem Coherent.answers {before after : List Entry} {callback id : Nat} {name : Text}
    {arguments : List Json}
    (coherent : Coherent (before ++ .called callback "handler" name arguments :: after))
    (returned : .requested callback (some id) ∈
      before ++ .called callback "handler" name arguments :: after) :
    ∃ registered since writtenTo server message,
      Answers before callback id arguments registered since writtenTo server message := by
  obtain ⟨_, awaiting⟩ := coherent.awaiting_of_requested returned
  exact coherent.answers_awaiting awaiting

/-- In every run each response handler is called as its request was answered. -/
theorem handlers_of_run (settings : Settings) (factory : Conduct) (script : List Step) :
    HandlersServed
      ((play { settings := settings, factory := factory } script).flatMap Turn.entries) := by
  have coherent := coherent_play settings factory script
  constructor
  · exact coherent.count_calls
  · intro before after callback split
    exact (split ▸ coherent).lawful.2
  · intro before after callback id name arguments split returned
    rw [split] at coherent returned
    exact coherent.answers returned

/-! ## A handler that outlives its session -/

/-- Handlers are called only while the session has the server that their request went to. -/
def NeverCrosses (journal : List Entry) : Prop :=
  ∀ before after callback id name arguments server,
    journal = before ++ .called callback "handler" name arguments :: after →
    .requested callback (some id) ∈ journal →
    .awaiting callback id (some server) ∈ journal → (standing before).server = some server

/--
A listener stops the session while the handshake writes, so it is ready without a server.
The next start announces that it is no longer ready, and another listener starts a session
of its own and sends a request.  Then the outer start takes its server, with the handler of
that request still waiting, and a response of the new server is handed to it.
-/
def crossing : List Step :=
  let accepted : Json := .object [("id", .nat 1), ("result", .object [])]
  [.subscribe .log ⟨"log", "stops", [.stop], none, false⟩,
    .subscribe .ready ⟨"ready", "restarts",
      [.start "srv" [] none, .send none accepted,
        .request "x" .null (some ⟨"handler", "asks", [], none, false⟩)], some (.bool false), false⟩,
    .start "srv" [] none,
    .set (some 0) none fun conduct => { conduct with refusesWrite := fun _ => some "broken" },
    .send (some 0) accepted,
    .start "srv" [] none,
    .send (some 2) (.object [("id", .nat 2), ("result", .literal "x")])]

def isReturnOf (callback id : Nat) : Entry → Bool
  | .requested returned (some given) => returned = callback && given = id
  | _ => false

theorem isReturnOf_eq_true {callback id : Nat} {entry : Entry} :
    isReturnOf callback id entry = true ↔ entry = .requested callback (some id) := by
  cases entry with
  | requested returned given => cases given <;> simp [isReturnOf]
  | _ => simp [isReturnOf]

def awaits (callback id server : Nat) : Entry → Bool
  | .awaiting waiting expected (some served) =>
    waiting = callback && expected = id && served = server
  | _ => false

theorem awaits_eq_true {callback id server : Nat} {entry : Entry} :
    awaits callback id server entry = true ↔ entry = .awaiting callback id (some server) := by
  cases entry with
  | awaiting waiting expected served => cases served <;> simp [awaits, and_assoc]
  | _ => simp [awaits]

theorem crossing_crosses : ¬ NeverCrosses ((play {} crossing).flatMap Turn.entries) := by
  intro never
  generalize same : (play {} crossing).flatMap Turn.entries = journal at never
  have called : journal[72]?.any (isCallOf 2) = true := by
    rw [← same]
    decide +kernel
  have returned : journal.any (isReturnOf 2 2) = true := by
    rw [← same]
    decide +kernel
  have awaiting : journal.any (awaits 2 2 1) = true := by
    rw [← same]
    decide +kernel
  have current : (standing (journal.take 72)).server = some 2 := by
    rw [← same]
    decide +kernel
  obtain ⟨entry, found, calls⟩ := (Option.any_eq_true _ _).mp called
  obtain ⟨name, arguments, rfl⟩ := isCallOf_eq_true.mp calls
  obtain ⟨short, entry_at⟩ := List.getElem?_eq_some_iff.mp found
  have split : journal = journal.take 72 ++
      .called 2 "handler" name arguments :: journal.drop 73 := by
    rw [← entry_at, ← List.drop_eq_getElem_cons short, List.take_append_drop]
  have requested : .requested 2 (some 2) ∈ journal := by
    obtain ⟨_, member, returns⟩ := List.any_eq_true.mp returned
    exact isReturnOf_eq_true.mp returns ▸ member
  have registered : .awaiting 2 2 (some 1) ∈ journal := by
    obtain ⟨_, member, waits⟩ := List.any_eq_true.mp awaiting
    exact awaits_eq_true.mp waits ▸ member
  have stays := never _ _ 2 2 name arguments 1 split requested registered
  rw [current] at stays
  simp at stays

end Client

end LanguageSession
