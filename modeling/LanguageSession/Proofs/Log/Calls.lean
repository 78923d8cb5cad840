import Mathlib
import LanguageSession.Proofs.Log.Files
import LanguageSession.Proofs.Log.Parts

/-!
# Calls of a logger

A logger is configured and given records in any order, by calls that name a record or by parts of
the program, whose names it keeps.  However they follow each other, a record is added to the file of
its own level in the directory of the last configuration that was not disabled, if the
configuration asked for its level, and to no other file.
-/

namespace LanguageSession

namespace Log

/-! ## Calls -/

inductive Call where
  | configure (stamp : Stamp) (request : Request)
  | log (stamp : Stamp) (record : Record)
  /-- A part of the program logs a message under its name. -/
  | part (stamp : Stamp) (name : Text) (level : Level) (message : Text)

/-- The record that a call makes, seen which parts are known. -/
def Call.record? (known : List Text) : Call → Option (Stamp × Record)
  | .configure _ _ => none
  | .log stamp record => some (stamp, record)
  | .part stamp name level message =>
    (ofPart? known name level message).map fun record => (stamp, record)

/-- The part that a call makes known. -/
def Call.parts : Call → List Text
  | .part _ name _ _ => [name]
  | _ => []

structure Logger where
  files : Files := {}
  /-- The parts that have logged. -/
  known : List Text := []

namespace Logger

/-- Gives the record of a call to the handlers. -/
def give (logger : Logger) (call : Call) : Logger where
  files :=
    match call.record? logger.known with
    | some (stamp, record) => logger.files.write stamp record
    | none => logger.files
  known := logger.known ++ call.parts

def perform (logger : Logger) (call : Call) : Except Fault Unit × Logger :=
  match call with
  | .configure stamp request =>
    let (ending, files) := logger.files.attempt stamp request
    (ending, { logger with files := files })
  | _ => (.ok (), logger.give call)

/-- Performs calls one after the other, also after one that failed. -/
def performAll (logger : Logger) (calls : List Call) : Logger :=
  calls.foldl (fun logger call => (logger.perform call).2) logger

end Logger

/-! ## The configuration in force -/

/-- No configuration is among the calls but disabled ones. -/
def Idle (calls : List Call) : Prop :=
  ∀ stamp request, .configure stamp request ∈ calls → request.enabled = false

/-- A configuration is the last one that was not disabled; the earlier calls are those before it. -/
structure IsStanding (calls earlier : List Call) (stamp : Stamp) (request : Request) : Prop where
  enabled : request.enabled = true
  last : ∃ later, calls = earlier ++ .configure stamp request :: later ∧ Idle later

theorem Idle.snoc {calls : List Call} (idle : Idle calls) {call : Call}
    (last : ∀ stamp request, call = .configure stamp request → request.enabled = false) :
    Idle (calls ++ [call]) := by
  intro stamp request member
  rcases List.mem_append.mp member with before | own
  · exact idle stamp request before
  · exact last stamp request (List.mem_singleton.mp own).symm

theorem idle_or_standing (calls : List Call) :
    Idle calls ∨ ∃ earlier stamp request, IsStanding calls earlier stamp request := by
  induction calls using List.reverseRecOn with
  | nil => exact .inl nofun
  | append_singleton before call ih =>
      by_cases disabled : ∀ stamp request, call = .configure stamp request → request.enabled = false
      · refine ih.imp (·.snoc disabled) ?_
        rintro ⟨earlier, stamp, request, enabled, later, rfl, idle⟩
        exact ⟨earlier, stamp, request, enabled, later ++ [call], List.append_assoc _ _ _,
          idle.snoc disabled⟩
      · push Not at disabled
        obtain ⟨stamp, request, rfl, enabled⟩ := disabled
        exact .inr ⟨before, stamp, request, by simpa using enabled, [], rfl, nofun⟩

namespace Logger

theorem performAll_append (logger : Logger) (first second : List Call) :
    logger.performAll (first ++ second) = (logger.performAll first).performAll second :=
  List.foldl_append

theorem performAll_snoc (logger : Logger) (calls : List Call) (call : Call) :
    logger.performAll (calls ++ [call]) = ((logger.performAll calls).perform call).2 :=
  performAll_append logger calls [call]

theorem performAll_known (logger : Logger) (calls : List Call) :
    (logger.performAll calls).known = logger.known ++ calls.flatMap Call.parts := by
  induction calls using List.reverseRecOn with
  | nil => exact (List.append_nil _).symm
  | append_singleton before call ih =>
      rw [performAll_snoc, List.flatMap_append, List.flatMap_singleton, ← List.append_assoc, ← ih]
      cases call with
      | configure stamp request => exact (List.append_nil _).symm
      | log stamp record => rfl
      | part stamp name level message => rfl

theorem handlers_give (logger : Logger) (call : Call) :
    (logger.give call).files.handlers = logger.files.handlers := by
  unfold give
  cases call.record? logger.known <;> rfl

theorem sink_give (logger : Logger) (call : Call) :
    (logger.give call).files.sink = logger.files.sink := by
  unfold give
  cases call.record? logger.known <;> rfl

theorem perform_disabled (logger : Logger) {stamp : Stamp} {request : Request}
    (disabled : request.enabled = false) :
    logger.perform (.configure stamp request) = (.ok (), logger) := by
  simp [perform, Files.attempt, disabled]

theorem perform_enabled (logger : Logger) {stamp : Stamp} {request : Request}
    (enabled : request.enabled = true) :
    logger.perform (.configure stamp request) =
      ((logger.files.reconfigure stamp request).1,
        { logger with files := (logger.files.reconfigure stamp request).2 }) := by
  simp [perform, Files.attempt, enabled]

/-- Disabled configurations and records change nothing about where records go. -/
theorem handlers_idle {calls : List Call} (idle : Idle calls) (logger : Logger) :
    (logger.performAll calls).files.sink = logger.files.sink ∧
      (logger.performAll calls).files.handlers = logger.files.handlers := by
  induction calls using List.reverseRecOn with
  | nil => exact ⟨rfl, rfl⟩
  | append_singleton before call ih =>
      have same := ih fun stamp request member => idle stamp request (List.mem_append_left _ member)
      rw [performAll_snoc]
      cases call with
      | configure stamp request =>
          rw [perform_disabled _ (idle stamp request (by simp))]
          exact same
      | log stamp record =>
          exact ⟨(sink_give _ _).trans same.1, (handlers_give _ _).trans same.2⟩
      | part stamp name level message =>
          exact ⟨(sink_give _ _).trans same.1, (handlers_give _ _).trans same.2⟩

theorem content_give (logger : Logger) (call : Call) (path : Text) :
    (logger.give call).files.content path = logger.files.content path ++
      match call.record? logger.known with
      | none => []
      | some entry => logger.files.handlers.flatMap fun handler => handler.addition path entry := by
  unfold give
  cases call.record? logger.known with
  | none => exact (List.append_nil _).symm
  | some entry => exact content_write_handlers _ _ _ path

/-- After a configuration that ended well its handlers are in force, else at most some of them. -/
theorem handlers_standing {calls earlier : List Call} {stamp : Stamp} {request : Request}
    (standing : IsStanding calls earlier stamp request) :
    match ((({} : Logger).performAll earlier).perform (.configure stamp request)).1 with
    | .ok _ => (({} : Logger).performAll calls).files.handlers = (request.target stamp).handlers
    | .error _ =>
      (({} : Logger).performAll calls).files.handlers.Sublist (request.target stamp).handlers := by
  obtain ⟨enabled, later, rfl, idle⟩ := standing
  let before := ({} : Logger).performAll earlier
  obtain ⟨sink, handlers⟩ := handlers_idle idle (before.perform (.configure stamp request)).2
  have reached : ({} : Logger).performAll (earlier ++ .configure stamp request :: later) =
      (before.perform (.configure stamp request)).2.performAll later := performAll_append _ _ _
  rw [reached, handlers, perform_enabled _ enabled]
  obtain ⟨-, ⟨ends, -, sunk⟩ | ⟨-, ⟨fault, failed⟩, part⟩⟩ :=
    reconfigure_cases before.files stamp request
  · rw [ends, Files.handlers, sunk]
  · rw [failed]
    exact part

end Logger

/-! ## What calls add -/

/-- What a call adds to a file after the calls before it. -/
inductive Adds (path : Text) (before : List Call) (call : Call) : Text → Prop
  | silent (silent : call.record? (before.flatMap Call.parts) = none) : Adds path before call []
  | unconfigured (idle : Idle before) : Adds path before call []
  /-- The configuration in force ended well. -/
  | written (entry : Stamp × Record) (earlier : List Call) (stamp : Stamp) (request : Request)
      (made : call.record? (before.flatMap Call.parts) = some entry)
      (standing : IsStanding before earlier stamp request)
      (ends : ((({} : Logger).performAll earlier).perform (.configure stamp request)).1 = .ok ()) :
      Adds path before call ((request.target stamp).addition path entry)
  /-- It was refused, with files open for some levels at most. -/
  | refused (entry : Stamp × Record) (earlier : List Call) (stamp : Stamp) (request : Request)
      (fault : Fault) (piece : Text)
      (made : call.record? (before.flatMap Call.parts) = some entry)
      (standing : IsStanding before earlier stamp request)
      (ends : ((({} : Logger).performAll earlier).perform (.configure stamp request)).1 =
        .error fault)
      (part : piece = [] ∨ piece = (request.target stamp).addition path entry) :
      Adds path before call piece

/-- What the handlers add to a file is what the configuration in force has them add. -/
theorem adds_of_record {before : List Call} {call : Call} {entry : Stamp × Record}
    (made : call.record? (before.flatMap Call.parts) = some entry) (path : Text) :
    Adds path before call ((({} : Logger).performAll before).files.handlers.flatMap fun handler =>
      handler.addition path entry) := by
  obtain idle | ⟨earlier, stamp, request, standing⟩ := idle_or_standing before
  · have none : (({} : Logger).performAll before).files.handlers = [] :=
      (Logger.handlers_idle idle {}).2
    rw [none]
    exact .unconfigured idle
  · have handlers := Logger.handlers_standing standing
    cases ends : ((({} : Logger).performAll earlier).perform (.configure stamp request)).1 with
    | ok _ =>
        rw [ends] at handlers
        rw [handlers, flatMap_of_handlers]
        exact .written entry earlier stamp request made standing ends
    | error fault =>
        rw [ends] at handlers
        refine .refused entry earlier stamp request fault _ made standing ends ?_
        rw [flatMap_of_sublist handlers]
        split
        · exact .inr rfl
        · exact .inl rfl

/-- The step: a call appends to each file what it adds. -/
theorem content_perform (before : List Call) (call : Call) (path : Text) :
    ∃ piece, Adds path before call piece ∧
      (({} : Logger).performAll (before ++ [call])).files.content path =
        (({} : Logger).performAll before).files.content path ++ piece := by
  rw [Logger.performAll_snoc]
  -- to configure closes and opens files, and writes nothing; any other call gives one record
  by_cases configures : ∃ stamp request, call = .configure stamp request
  · obtain ⟨stamp, request, rfl⟩ := configures
    refine ⟨[], .silent rfl, ?_⟩
    rw [List.append_nil]
    cases enabled : request.enabled with
    | false => rw [Logger.perform_disabled _ enabled]
    | true =>
        rw [Logger.perform_enabled _ enabled]
        exact (reconfigure_cases _ stamp request).1 path
  · have gives (logger : Logger) : (logger.perform call).2 = logger.give call := by
      cases call with
      | configure stamp request => exact absurd ⟨stamp, request, rfl⟩ configures
      | log stamp record => rfl
      | part stamp name level message => rfl
    have known : (({} : Logger).performAll before).known = before.flatMap Call.parts :=
      Logger.performAll_known {} before
    rw [gives, Logger.content_give, known]
    cases made : call.record? (before.flatMap Call.parts) with
    | none => exact ⟨[], .silent made, rfl⟩
    | some entry => exact ⟨_, adds_of_record made path, rfl⟩

theorem zip_inits_snoc {α : Type} (list : List α) (last : α) :
    (list ++ [last]).inits.zip (list ++ [last]) = list.inits.zip list ++ [(list, last)] := by
  induction list with
  | nil => rfl
  | cons first rest ih =>
      simp only [List.cons_append, List.inits_cons, List.zip_cons_cons, List.zip_map_left, ih,
        List.map_append]
      rfl

/-- The run: a file holds what the calls have added, in their order. -/
theorem content_performAll (calls : List Call) (path : Text) :
    ∃ added, (({} : Logger).performAll calls).files.content path = added.flatten ∧
      List.Forall₂ (fun place piece => Adds path place.1 place.2 piece) (calls.inits.zip calls)
        added := by
  induction calls using List.reverseRecOn with
  | nil => exact ⟨[], rfl, .nil⟩
  | append_singleton before call ih =>
      obtain ⟨added, content, each⟩ := ih
      obtain ⟨piece, adds, reached⟩ := content_perform before call path
      refine ⟨added ++ [piece], ?_, ?_⟩
      · rw [reached, content, List.flatten_append, List.flatten_singleton]
      · rw [zip_inits_snoc]
        exact List.rel_append each (.cons adds .nil)

theorem refused_of_error {logger : Logger} {stamp : Stamp} {request : Request} {fault : Fault}
    (failed : (logger.perform (.configure stamp request)).1 = .error fault) :
    Refused logger.files stamp request := by
  cases enabled : request.enabled with
  | false =>
      rw [Logger.perform_disabled _ enabled] at failed
      cases failed
  | true =>
      rw [Logger.perform_enabled _ enabled] at failed
      obtain ⟨-, ⟨ends, -⟩ | ⟨cause, -⟩⟩ := reconfigure_cases logger.files stamp request
      · rw [ends] at failed
        cases failed
      · exact cause

/-- Only a text without a form in UTF-8 is lost, and only where lines are texts. -/
theorem line?_isSome {sink : Sink} {stamp : Stamp} {record : Record}
    (written : sink.json = true ∨ ∀ c ∈ record.textLine stamp, c.isSurrogate = false) :
    ∃ line : Text, line? sink stamp record = some (line ++ "\n") := by
  unfold line?
  cases json : sink.json with
  | true => exact ⟨_, rfl⟩
  | false =>
      have clean : (record.textLine stamp ++ "\n").any CodePoint.isSurrogate = false := by
        rw [List.any_append, Bool.or_eq_false_iff]
        refine ⟨?_, by decide⟩
        rw [List.any_eq_false]
        intro c member
        simpa using (written.resolve_left (by simp [json])) c member
      simp only [clean]
      exact ⟨_, rfl⟩

/-- Two folders in turn, a disabled configuration, and a refused one. -/
example :
    let stamp : Stamp := ⟨"2024-01-02", "00:00:00", "2024-01-02T03:04:05+00:00"⟩
    (({} : Logger).performAll
      [.log stamp (warning "CORE" "early"),
        .configure stamp { level := "warn", directory := some "a" },
        .log stamp (warning "CORE" "one"), .log stamp (sessionEvent "too low"),
        .configure stamp { directory := some "b", enabled := false },
        .part stamp "lsplink.lsp.client" .error "failed",
        .configure stamp { level := "loud", directory := some "b/../c" },
        .log stamp (sessionEvent "two"),
        .configure stamp { directory := some "a/error.log" },
        .log stamp (sessionEvent "lost"),
        .configure stamp { directory := some "./a" },
        .log stamp (warning "CORE" "three")]).files.contents =
      ([("a/warning.log", "00:00:00 [CORE    ] WARNING: one\n00:00:00 [CORE    ] WARNING: three\n"),
        ("a/error.log", "00:00:00 [CLIENT  ] failed\n"), ("c/info.log", "00:00:00 [SESSION ] two\n"),
        ("c/warning.log", ""), ("c/error.log", ""), ("a/info.log", "")] : List (Text × Text)) := by
  decide +kernel

end Log

end LanguageSession
