import Mathlib
import LanguageSession.Proofs.Client.Notices
import LanguageSession.Proofs.Client.Wording

/-!
# What listeners are told

Texts that a session tells on its own account are recorded, one record for each and in the same
order; what a server asks to have told is passed on unrecorded.  A session is announced as ready
when its server has accepted it and was to be told so, whether the server took that or not.
-/

namespace LanguageSession

namespace Client

/-! ## Texts -/

/-- The text of a record of the session. -/
def recordedText? : Entry → Option Text
  | .logged note => if note.component = "SESSION" then some note.message else none
  | _ => none

/-- The text that listeners of the log are told. -/
def toldText? : Entry → Option Text
  | .emitted (.log text) => some text
  | _ => none

/-- The text that a server asks to have told. -/
def relayedText? : Entry → Option Text
  | .handling _ message =>
    match notified message with
    | some (.log text) => some text
    | _ => none
  | _ => none

/-- Texts that are told are recorded or relayed, and each list is in order. -/
structure Merges (told recorded relayed : List Text) : Prop where
  parts : ∃ parts : List (Text ⊕ Text), told = parts.map (Sum.elim id id) ∧
    recorded = parts.filterMap Sum.getLeft? ∧ relayed = parts.filterMap Sum.getRight?

section

variable {told recorded relayed : List Text}

theorem merges_nothing : Merges [] [] [] := ⟨[], rfl, rfl, rfl⟩

theorem Merges.append {told' recorded' relayed' : List Text} (first : Merges told recorded relayed)
    (second : Merges told' recorded' relayed') :
    Merges (told ++ told') (recorded ++ recorded') (relayed ++ relayed') := by
  obtain ⟨parts, rfl, rfl, rfl⟩ := first
  obtain ⟨later, rfl, rfl, rfl⟩ := second
  exact ⟨parts ++ later, List.map_append.symm, List.filterMap_append.symm,
    List.filterMap_append.symm⟩

theorem merges_recorded (text : Text) : Merges [text] [text] [] := ⟨[.inl text], rfl, rfl, rfl⟩

theorem merges_relayed (text : Text) : Merges [text] [] [text] := ⟨[.inr text], rfl, rfl, rfl⟩

/-- Where nothing is relayed, what is told is what was recorded. -/
theorem Merges.unrelayed (merges : Merges told recorded []) : told = recorded := by
  obtain ⟨parts, rfl, rfl, nothing⟩ := merges
  have own : ∀ part ∈ parts, Sum.getRight? part = none :=
    List.filterMap_eq_nil_iff.mp nothing.symm
  clear nothing
  induction parts with
  | nil => rfl
  | cons part parts ih =>
      have same := ih fun other member => own other (List.mem_cons_of_mem _ member)
      cases part with
      | inl text => simpa using same
      | inr text => simpa using own (.inr text) List.mem_cons_self

/-- What a journal says of the texts that were told. -/
def Merged (journal : List Entry) : Prop :=
  Merges (journal.filterMap toldText?) (journal.filterMap recordedText?)
    (journal.filterMap relayedText?)

theorem Merged.append {journal added : List Entry} (merged : Merged journal)
    (later : Merged added) : Merged (journal ++ added) := by
  simp only [Merged, List.filterMap_append]
  exact Merges.append merged later

theorem merged_of_silent {added : List Entry} (silent : ∀ entry ∈ added,
    toldText? entry = none ∧ recordedText? entry = none ∧ relayedText? entry = none) :
    Merged added := by
  have nothing {read : Entry → Option Text} (none : ∀ entry ∈ added, read entry = none) :
      added.filterMap read = [] := List.filterMap_eq_nil_iff.mpr none
  rw [Merged, nothing fun entry member => (silent entry member).1,
    nothing fun entry member => (silent entry member).2.1,
    nothing fun entry member => (silent entry member).2.2]
  exact merges_nothing

theorem Loose.silent {entry : Entry} (loose : Loose entry) :
    toldText? entry = none ∧ recordedText? entry = none ∧ relayedText? entry = none := by
  cases entry with
  | logged note => exact ⟨rfl, if_neg loose.1, rfl⟩
  | emitted event => cases loose
  | handling server message =>
      have nothing : notified message = none := loose
      exact ⟨rfl, rfl, by rw [relayedText?, nothing]⟩
  | _ => exact ⟨rfl, rfl, rfl⟩

theorem merged_relayed (server : Nat) {message : Json} {event : Event}
    (notifies : notified message = some event) :
    Merged [.handling server message, .logged (Log.messageIn message), .emitted event] := by
  have unrecorded : (Log.messageIn message).component ≠ "SESSION" := by
    change ("WIRE" : Text) ≠ "SESSION"
    decide
  simp only [Merged, List.filterMap_cons, List.filterMap_nil, toldText?, recordedText?,
    relayedText?, if_neg unrecorded, notifies]
  cases event with
  | log text => exact merges_relayed text
  | ready value => exact merges_nothing
  | diagnostics uri items => exact merges_nothing

theorem Phrased.merged {journal : List Entry} (phrased : Phrased journal) : Merged journal := by
  have unrecorded (old new : Text) : (Log.stateChange old new).component ≠ "SESSION" := by
    change ("CLIENT" : Text) ≠ "SESSION"
    decide
  induction phrased with
  | nothing => exact merges_nothing
  | loose before stands ih => exact ih.append (merged_of_silent (by simpa using stands.silent))
  | told before text ih => exact ih.append (merges_recorded text)
  | relayed before server message notifies ih => exact ih.append (merged_relayed server notifies)
  | changed before old unready ih =>
      refine ih.append (merged_of_silent ?_)
      simp [toldText?, relayedText?, recordedText?, unrecorded]
  | unready before ih =>
      exact ih.append (merged_of_silent (by simp [toldText?, relayedText?, recordedText?]))
  | ready before opens olds few ih =>
      refine ih.append (merged_of_silent ?_)
      simp [or_imp, forall_and, toldText?, relayedText?, recordedText?, unrecorded]

/-- A text that is told has just been recorded, or a server has just sent it to be told. -/
def Sourced (before : List Entry) (entry : Entry) : Prop :=
  ∀ text, entry = .emitted (.log text) →
    (∃ earlier, before = earlier ++ [.logged (Log.sessionEvent text)]) ∨
      ∃ earlier server message,
        before = earlier ++ [.handling server message, .logged (Log.messageIn message)] ∧
          notified message = some (.log text)

theorem sourced_of_untold {entry : Entry} (untold : toldText? entry = none) (before : List Entry) :
    Sourced before entry := by
  rintro text rfl
  cases untold

theorem Obeys.phrase {rule : List Entry → Entry → Prop} {journal first : List Entry} {last : Entry}
    (obeys : Obeys rule journal) (free : ∀ entry ∈ first, ∀ before, rule before entry)
    (allowed : rule (journal ++ first) last) : Obeys rule (journal ++ (first ++ [last])) := by
  rw [← List.append_assoc]
  exact (obeys.idle free).snoc allowed

theorem Phrased.sourced {journal : List Entry} (phrased : Phrased journal) :
    Obeys Sourced journal := by
  have recorded (note : Log.Record) (before : List Entry) : Sourced before (.logged note) :=
    sourced_of_untold rfl before
  induction phrased with
  | nothing => exact obeys_nil
  | loose before stands ih =>
      refine ih.snoc ?_
      rintro text rfl
      exact stands.elim
  | @told journal before text ih =>
      refine @Obeys.phrase _ _ [.logged (Log.sessionEvent text)] _ ih ?_ ?_
      · simpa using recorded _
      · rintro _ ⟨⟩
        exact .inl ⟨journal, rfl⟩
  | @relayed journal before server message event notifies ih =>
      refine @Obeys.phrase _ _ [.handling server message, .logged (Log.messageIn message)] _ ih
        ?_ ?_
      · simpa using ⟨sourced_of_untold rfl, recorded _⟩
      · intro text same
        obtain rfl : event = .log text := by simpa using same
        exact .inr ⟨journal, server, message, rfl, notifies⟩
  | changed before old unready ih => exact ih.snoc (recorded _ _)
  | unready before ih => exact ih.snoc (sourced_of_untold rfl _)
  | ready before opens olds few ih =>
      refine ih.phrase ?_ (sourced_of_untold rfl _)
      simp [recorded]

/-! ## The text of a server -/

/--
In every run the texts that are told are recorded, one record for each and in the same order,
except for those that a server sent to be told: these are passed on unrecorded.
-/
theorem logs_recorded (settings : Settings) (factory : Conduct) (script : List Step) :
    let journal := (play { settings := settings, factory := factory } script).flatMap Turn.entries
    Merges (journal.filterMap toldText?) (journal.filterMap recordedText?)
        (journal.filterMap relayedText?) ∧
      (journal.filterMap relayedText? = [] →
        journal.filterMap toldText? = journal.filterMap recordedText?) ∧
      Obeys Sourced journal := by
  have phrased := phrased_play settings factory script
  refine ⟨phrased.merged, fun unrelayed => ?_, phrased.sourced⟩
  have merges : Merges _ _ _ := phrased.merged
  rw [unrelayed] at merges
  exact merges.unrelayed

/-- A server asks to have a text told. -/
def relayedLog : List Step :=
  [.start "srv" [] none,
    .send none (.object [("id", .nat 1), ("result", .object [])]),
    .subscribe .log ⟨"log", "L", [], none, false⟩,
    .send none (.object [("method", .literal "window/logMessage"),
      ("params", .object [("message", .literal "hello")])])]

theorem relayedLog_unrecorded :
    let journal := (play {} relayedLog).flatMap Turn.entries
    journal.filterMap toldText? ≠ journal.filterMap recordedText? := by
  decide +kernel

/-! ## Open sessions -/

/-- The session is said to be ready now. -/
inductive SaysReady : Entry → Prop
  | record (old : Phase) : SaysReady (.logged (Log.stateChange old.name Phase.ready.name))
  | event : SaysReady (.emitted (.ready true))

/-- A session is said to be ready once its server was to be told so. -/
def Warranted (before : List Entry) (entry : Entry) : Prop :=
  SaysReady entry → ∃ opened changes, before = opened ++ changes ∧ Opening opened ∧
    ∀ change ∈ changes, SaysReady change ∧ ∃ note, change = .logged note

theorem warranted_of_unsaid {entry : Entry} (unsaid : ¬ SaysReady entry) (before : List Entry) :
    Warranted before entry :=
  fun readiness => absurd readiness unsaid

theorem warranted_of_unmarked {note : Log.Record} (unmarked : Unmarked note) (before : List Entry) :
    Warranted before (.logged note) := by
  refine warranted_of_unsaid ?_ before
  rintro ⟨old⟩
  cases unmarked.2 rfl

theorem warranted_of_session (text : Text) (before : List Entry) :
    Warranted before (.logged (Log.sessionEvent text)) := by
  generalize same : Entry.logged (Log.sessionEvent text) = entry
  rintro (old | _)
  · have fields : [] = (Log.stateChange old.name Phase.ready.name).fields :=
      congrArg Log.Record.fields (Entry.logged.inj same)
    cases fields
  · cases same

theorem warranted_of_change {old new : Phase} (unready : new ≠ .ready) (before : List Entry) :
    Warranted before (.logged (Log.stateChange old.name new.name)) := by
  generalize same : Entry.logged (Log.stateChange old.name new.name) = entry
  rintro (other | _)
  · have fields : (Log.stateChange old.name new.name).fields =
        (Log.stateChange other.name Phase.ready.name).fields :=
      congrArg Log.Record.fields (Entry.logged.inj same)
    simp only [Log.stateChange, List.cons.injEq, Prod.mk.injEq, Json.string.injEq] at fields
    exact (unready (Phase.name_injective fields.2.1.2)).elim
  · cases same

theorem Phrased.warranted {journal : List Entry} (phrased : Phrased journal) :
    Obeys Warranted journal := by
  induction phrased with
  | nothing => exact obeys_nil
  | @loose journal entry before stands ih =>
      refine ih.snoc ?_
      cases entry with
      | logged note => exact warranted_of_unmarked stands _
      | emitted event => exact stands.elim
      | _ => exact warranted_of_unsaid (by rintro ⟨⟩) _
  | @told journal before text ih =>
      refine @Obeys.phrase _ _ [.logged (Log.sessionEvent text)] _ ih ?_
        (warranted_of_unsaid (by rintro ⟨⟩) _)
      simpa using warranted_of_session text
  | @relayed journal before server message event notifies ih =>
      refine @Obeys.phrase _ _ [.handling server message, .logged (Log.messageIn message)] _ ih
        ?_ ?_
      · have unmarked : Unmarked (Log.messageIn message) :=
          unmarked_of_component "WIRE" rfl (by decide)
        simpa using ⟨warranted_of_unsaid (by rintro ⟨⟩), warranted_of_unmarked unmarked⟩
      · -- a notification is handed on to its own channel, which is not the one of the session
        rintro ⟨⟩
        exact (notified_channel notifies rfl).elim
  | changed before old unready ih => exact ih.snoc (warranted_of_change unready _)
  | unready before ih => exact ih.snoc (warranted_of_unsaid (by rintro ⟨⟩) _)
  | @ready journal before opens olds few ih =>
      have here (entry : Entry) : Warranted journal entry := fun _ =>
        ⟨journal, [], (List.append_nil _).symm, opens, by simp⟩
      -- between the handshake and the word of it, at most one change is recorded
      rcases olds with _ | ⟨old, _ | ⟨other, olds⟩⟩
      · exact ih.snoc (here _)
      · refine (List.append_assoc journal [_] [_]) ▸ (ih.snoc (here _)).snoc fun _ => ?_
        exact ⟨journal, [_], rfl, opens, List.forall_mem_singleton.mpr ⟨.record old, _, rfl⟩⟩
      · simp at few

theorem Opening.taken {journal : List Entry} (opens : Opening journal)
    (runs : ∀ server, .looked server false ∉ journal)
    (takes : ∀ server, .writeRefused server opening ∉ journal) :
    ∃ server data, .wrote server opening data ∈ journal := by
  obtain ⟨earlier, server, message, later, rfl, -, -, handed | interrupted⟩ := opens
  · cases handed with
    | unserved nobody => cases nobody
    | ended number served => exact (runs number (by simp)).elim
    | taken number data note served => exact ⟨number, data, by simp⟩
  · cases interrupted with
    | refused rest => exact (takes server (by simp)).elim
    | answered data answer rest => exact ⟨server, data, by simp⟩

/--
In every run a session is said to be ready right after its server was to be told that it is open:
whether the server took that, refused it or had ended already.
-/
theorem ready_after_opening (settings : Settings) (factory : Conduct) (script : List Step) :
    let journal := (play { settings := settings, factory := factory } script).flatMap Turn.entries
    Obeys Warranted journal ∧
      ∀ before entry after, journal = before ++ entry :: after → SaysReady entry →
        (∀ server, .looked server false ∉ before) →
        (∀ server, .writeRefused server opening ∉ before) →
        ∃ server data, .wrote server opening data ∈ before := by
  have warranted := (phrased_play settings factory script).warranted
  refine ⟨warranted, fun before entry after split ready runs takes => ?_⟩
  obtain ⟨opened, changes, rfl, opens, -⟩ := warranted before entry after split ready
  obtain ⟨server, data, wrote⟩ := opens.taken
    (fun server member => runs server (List.mem_append_left _ member))
    fun server member => takes server (List.mem_append_left _ member)
  exact ⟨server, data, List.mem_append_left _ wrote⟩

/-- The server refuses to be told that it is open. -/
def refusedOpening : List Step :=
  [.start "srv" [] none,
    .set none none fun conduct => { conduct with refusesWrite := fun _ => some "broken" },
    .send none (.object [("id", .nat 1), ("result", .object [])])]

def tellsOpening : Entry → Bool
  | .wrote _ message _ => (message.member "method").text? = some "initialized"
  | _ => false

theorem refusedOpening_ready :
    ¬ ∀ before entry after,
      (play {} refusedOpening).flatMap Turn.entries = before ++ entry :: after →
      SaysReady entry → ∃ server data, .wrote server opening data ∈ before := by
  intro told
  generalize same : (play {} refusedOpening).flatMap Turn.entries = journal at told
  have announced : journal.any announces = true := by
    rw [← same]
    decide +kernel
  have untold : journal.any tellsOpening = false := by
    rw [← same]
    decide +kernel
  obtain ⟨entry, member, ready⟩ := List.any_eq_true.mp announced
  obtain rfl := announces_iff.mp ready
  obtain ⟨before, after, split⟩ := List.append_of_mem member
  obtain ⟨server, data, wrote⟩ := told before _ after split .event
  have tells : tellsOpening (.wrote server opening data) = true := by
    rw [tellsOpening]
    decide
  rw [split, List.any_append, Bool.or_eq_false_iff] at untold
  exact Bool.false_ne_true (untold.1 ▸ List.any_eq_true.mpr ⟨_, wrote, tells⟩)

end

end Client

end LanguageSession
