import Mathlib
import LanguageSession.Log.Parts
import LanguageSession.Proofs.Json.Spaced
import LanguageSession.Proofs.Json.Values
import LanguageSession.Proofs.Log.Files

/-!
# Log records as lines

In a JSON log every record is one line, and reading the line as JSON gives the record back,
whatever its texts hold.  No text of a record can end its line or begin another one.
-/

namespace LanguageSession

namespace Log

/-! ## Records -/

/--
The further fields of a record can be told apart from each other and from what every record
has, and their values can be written and read back.
-/
structure Record.WellFormed (record : Record) : Prop where
  distinct : (record.fields.map Prod.fst).Nodup
  further : ∀ field ∈ record.fields, field.1 ∉ commonNames ∧ field.1 ≠ "level"
  readable : ∀ field ∈ record.fields, Json.Readable (Json.nestingLimit - 1) field.2

/-- In no text of the record does a high surrogate stand right before a low one. -/
def Record.Unjoined (record : Record) : Prop :=
  record.component.Unjoined ∧ record.message.Unjoined ∧
    ∀ text ∈ (Json.object record.fields).texts, text.Unjoined

/-- Numbers that have a text at all; asking for a record of a longer one fails. -/
def IsShort (n : Int) : Prop := n.natAbs < 10 ^ Numeral.digitLimit

/-- The records that can be asked for: one case for each kind, and one for those of any fields. -/
inductive Made : Record → Prop
  | spawning (argv : List Text) (root : Option Text) : Made (spawning argv root)
  | exited (pid code : Option Int) (shortPid : ∀ n ∈ pid, IsShort n)
      (shortCode : ∀ n ∈ code, IsShort n) : Made (exited pid code)
  | stateChange (old new : Text) : Made (stateChange old new)
  | messageOut (message : Json) (size : Int) (short : IsShort size) :
      Made (messageOut message size)
  | messageIn (message : Json) : Made (messageIn message)
  | sessionEvent (text : Text) : Made (sessionEvent text)
  | failure (component message : Text) : Made (failure component message)
  | failureBecause (component message kind reason : Text) :
      Made (failureBecause component message kind reason)
  | warning (component message : Text) : Made (warning component message)
  | structured (record : Record) (wellFormed : record.WellFormed) : Made record
  | part (known : List Text) (name : Text) (level : Level) (message : Text) (record : Record)
      (noted : ofPart? known name level message = some record) : Made record

theorem wellFormed_of_names {record : Record} {names : List Text}
    (named : record.fields.map Prod.fst = names) (distinct : names.Nodup)
    (further : ∀ name ∈ names, name ∉ commonNames ∧ name ≠ "level")
    (readable : record.fields.Forall fun field =>
      Json.Readable (Json.nestingLimit - 1) field.2) : record.WellFormed := by
  subst named
  exact ⟨distinct, fun field member => further _ (List.mem_map_of_mem member),
    List.forall_iff_forall_mem.mp readable⟩

theorem wellFormed_of_no_fields {record : Record} (none : record.fields = []) :
    record.WellFormed := by
  have names : record.fields.map Prod.fst = [] := by simp [none]
  exact wellFormed_of_names names (by decide) (by decide) (none ▸ trivial)

theorem readable_optional {depth : Nat} {n : Option Int} (short : ∀ m ∈ n, IsShort m) :
    Json.Readable depth (optional n) := by
  cases n with
  | none => exact .null
  | some m => exact .integer m (short m rfl)

theorem wellFormed_of_made {record : Record} (made : Made record) : record.WellFormed := by
  cases made with
  | spawning argv root =>
      have names : (spawning argv root).fields.map Prod.fst = ["argv", "root_uri"] := rfl
      refine wellFormed_of_names names (by decide) (by decide) ⟨.array _ ?_, ?_⟩
      · intro item member
        obtain ⟨text, -, rfl⟩ := List.mem_map.mp member
        exact .string text
      · cases root with
        | none => exact .null
        | some text => exact .string text
  | exited pid code shortPid shortCode =>
      have names : (exited pid code).fields.map Prod.fst = ["pid", "returncode"] := rfl
      exact wellFormed_of_names names (by decide) (by decide)
        ⟨readable_optional shortPid, readable_optional shortCode⟩
  | stateChange old new =>
      have names : (stateChange old new).fields.map Prod.fst = ["old_state", "new_state"] := rfl
      exact wellFormed_of_names names (by decide) (by decide) ⟨.string old, .string new⟩
  | messageOut message size short =>
      have names : (messageOut message size).fields.map Prod.fst = ["direction", "size"] := rfl
      exact wellFormed_of_names names (by decide) (by decide) ⟨.string _, .integer size short⟩
  | messageIn message =>
      have names : (messageIn message).fields.map Prod.fst = ["direction"] := rfl
      exact wellFormed_of_names names (by decide) (by decide) (.string _)
  | sessionEvent text => exact wellFormed_of_no_fields rfl
  | failure component message =>
      have names : (failure component message).fields.map Prod.fst = ["error"] := rfl
      exact wellFormed_of_names names (by decide) (by decide) (.string message)
  | failureBecause component message kind reason =>
      have names : (failureBecause component message kind reason).fields.map Prod.fst =
        ["error"] := rfl
      exact wellFormed_of_names names (by decide) (by decide) (.string reason)
  | warning component message => exact wellFormed_of_no_fields rfl
  | structured record wellFormed => exact wellFormed
  | part known name level message record noted =>
      unfold ofPart? at noted
      split at noted
      · cases noted
        exact wellFormed_of_no_fields rfl
      · cases noted

/-! ## What a line tells -/

def ownNames : List Text := ["time", "level", "component", "message"]

/-- The value has the level, the component, the message and the further fields of a record. -/
structure Tells (value : Json) (record : Record) : Prop where
  level : value.member? "level" = some (.string record.level.name)
  component : value.member? "component" = some (.string record.component)
  message : value.member? "message" = some (.string record.message)
  fields : ∀ field ∈ record.fields, value.member? field.1 = some field.2
  nothingElse : ∀ name, value.hasMember name = true →
    name ∈ ownNames ∨ name ∈ record.fields.map Prod.fst

def ownMembers (record : Record) (stamp : Stamp) : List (Text × Json) :=
  [("time", .string stamp.instant), ("level", .string record.level.name),
    ("component", .string record.component), ("message", .string record.message)]

theorem map_fst_ownMembers (record : Record) (stamp : Stamp) :
    (ownMembers record stamp).map Prod.fst = ownNames := rfl

section

variable {record : Record}

theorem toJson_eq (wellFormed : record.WellFormed) (stamp : Stamp) :
    record.toJson stamp =
      .object (Association.putAll record.fields (ownMembers record stamp)) := by
  have kept : record.fields.filter (fun field => !commonNames.contains field.1) =
      record.fields := by
    rw [List.filter_eq_self]
    intro field member
    simpa using (wellFormed.further field member).1
  rw [Record.toJson, kept]
  rfl

theorem member?_toJson (wellFormed : record.WellFormed) (stamp : Stamp) (name : Text) :
    (record.toJson stamp).member? name =
      (record.fields.lookup name).or ((ownMembers record stamp).lookup name) := by
  rw [toJson_eq wellFormed]
  exact Association.lookup_putAll wellFormed.distinct _ name

theorem lookup_fields_eq_none (wellFormed : record.WellFormed) {name : Text}
    (own : name ∈ commonNames ∨ name = "level") : record.fields.lookup name = none := by
  rw [Association.lookup_eq_none_iff]
  intro member
  obtain ⟨field, inside, rfl⟩ := List.mem_map.mp member
  have further := wellFormed.further field inside
  exact own.elim further.1 further.2

theorem tells_toJson (wellFormed : record.WellFormed) (stamp : Stamp) :
    Tells (record.toJson stamp) record := by
  have own (name : Text) (own : name ∈ commonNames ∨ name = "level") :
      (record.toJson stamp).member? name = (ownMembers record stamp).lookup name := by
    rw [member?_toJson wellFormed, lookup_fields_eq_none wellFormed own, Option.none_or]
  refine ⟨own _ (by decide), own _ (by decide), own _ (by decide), ?_, ?_⟩
  · intro field member
    rw [member?_toJson wellFormed, Association.lookup_of_mem wellFormed.distinct member,
      Option.some_or]
  · intro name known
    rw [Json.hasMember, member?_toJson wellFormed, Option.isSome_or, Bool.or_eq_true,
      Association.lookup_isSome_iff, Association.lookup_isSome_iff, map_fst_ownMembers] at known
    exact known.symm

/-! ## Reading a line -/

theorem readable_toJson (wellFormed : record.WellFormed) (stamp : Stamp) :
    Json.Readable Json.nestingLimit (record.toJson stamp) := by
  rw [toJson_eq wellFormed]
  have distinct : ((ownMembers record stamp).map Prod.fst).Nodup :=
    map_fst_ownMembers record stamp ▸ (by decide : ownNames.Nodup)
  refine .object _ (Association.nodup_putAll _ distinct) ?_
  intro member inside
  rcases Association.mem_putAll inside with own | further
  · simp only [ownMembers, List.mem_cons, List.not_mem_nil, or_false] at own
    rcases own with rfl | rfl | rfl | rfl <;> exact .string _
  · exact wellFormed.readable member further

theorem unjoined_toJson (wellFormed : record.WellFormed) {stamp : Stamp}
    (unjoined : record.Unjoined) (instant : stamp.instant.Unjoined) :
    ∀ text ∈ (record.toJson stamp).texts, text.Unjoined := by
  obtain ⟨component, message, fields⟩ := unjoined
  have named : ∀ name ∈ ownNames, name.Unjoined := by decide
  have level : record.level.name.Unjoined := by
    cases record.level <;> decide
  simp only [Json.texts_object, List.forall_mem_append] at fields
  rw [toJson_eq wellFormed, Json.texts_object]
  intro text inside
  rcases List.mem_append.mp inside with name | value
  · obtain ⟨member, put, rfl⟩ := List.mem_map.mp name
    rcases Association.mem_putAll put with own | further
    · exact named _ (map_fst_ownMembers record stamp ▸ List.mem_map_of_mem own)
    · exact fields.1 _ (List.mem_map_of_mem further)
  · obtain ⟨member, put, within⟩ := List.mem_flatMap.mp value
    rcases Association.mem_putAll put with own | further
    · simp only [ownMembers, List.mem_cons, List.not_mem_nil, or_false] at own
      rcases own with rfl | rfl | rfl | rfl
      all_goals
        rw [List.mem_singleton.mp within]
        assumption
    · exact fields.2 text (List.mem_flatMap_of_mem further within)

theorem read_spaced_toJson (wellFormed : record.WellFormed) {stamp : Stamp}
    (unjoined : record.Unjoined) (instant : stamp.instant.Unjoined) :
    Json.read (record.toJson stamp).spaced = .ok (record.toJson stamp) :=
  Json.readWithin_spaced (readable_toJson wellFormed stamp)
    (unjoined_toJson wellFormed unjoined instant)

end

/-! ## Files of lines -/

/-- The line is read as a value that tells the record. -/
def IsLineOf (line : Text) (record : Record) : Prop :=
  ∃ value, Json.read line = .ok value ∧ Tells value record

theorem line?_json {sink : Sink} (json : sink.json = true) (stamp : Stamp) (record : Record) :
    line? sink stamp record = some ((record.toJson stamp).spaced ++ [CodePoint.ofChar '\n']) := by
  rw [line?, if_pos json]
  rfl

theorem sink_json {request : Request} {stamp : Stamp} {sink : Sink}
    (asked : request.sink stamp = .ok sink) : sink.json = request.json := by
  unfold Request.sink at asked
  cases rank : rankOf request.level with
  | error fault =>
      rw [rank] at asked
      cases asked
  | ok minimum =>
      rw [rank] at asked
      cases asked
      rfl

def forgery : Text := Text.ofString "x\"\x7d\n\x7b\"level\": \"ERROR\"" ++
  [CodePoint.ofNat 0xE9, CodePoint.ofNat 0xD800]

def annotated : Record :=
  ⟨.warning, "CORE", "ready", [("time", .literal "never"), ("n", .integer 5)]⟩

end Log

end LanguageSession
