import Mathlib
import LanguageSession.Proofs.Text.Digits
import LanguageSession.Proofs.Traversal
import LanguageSession.Terminal.Display

/-!
# Diagnostics on the terminal

Whatever a server publishes, diagnostics that are objects have a row each, in order, and all else
is passed over.  Four flaws of a diagnostic keep it from having a row, and then there is no table.
-/

namespace LanguageSession

namespace Terminal

/-! ## One diagnostic -/

/-- A member that is looked into, an empty object where it is missing. -/
def inside (value : Json) (name : Text) : Json := (value.member? name).getD (.object [])

def rangeOf (diagnostic : Json) : Json := inside diagnostic "range"

def startOf (diagnostic : Json) : Json := inside (rangeOf diagnostic) "start"

def lineOf (diagnostic : Json) : Json := inside (startOf diagnostic) "line"

def severityOf (diagnostic : Json) : Json := diagnostic.member "severity"

def isComposite : Json → Bool
  | .array _ => true
  | .object _ => true
  | _ => false

/-- The number of a line for people, nothing if the line is not given by a number. -/
def lineText : Json → Text
  | .integer n => Text.ofInt (n + 1)
  | .bool value => Text.ofInt (if value then 2 else 1)
  | _ => []

/-- The row that a diagnostic has unless it has a flaw. -/
def rowOf (uri : Text) (diagnostic : Json) : List Text :=
  [uri, lineText (lineOf diagnostic),
    "[" ++ (severity (severityOf diagnostic)).style ++ "]" ++
      (severity (severityOf diagnostic)).name ++
      "[/" ++ (severity (severityOf diagnostic)).style ++ "]",
    ((diagnostic.member? "message").getD (.string [])).display]

/-- Why there is no row for a diagnostic, by the first of its flaws. -/
inductive Flaw (diagnostic : Json) : Fault → Prop
  | range (plain : (rangeOf diagnostic).isObject = false) :
      Flaw diagnostic (.noMembers (rangeOf diagnostic).kindName)
  | start (range : (rangeOf diagnostic).isObject = true)
      (plain : (startOf diagnostic).isObject = false) :
      Flaw diagnostic (.noMembers (startOf diagnostic).kindName)
  | severity (range : (rangeOf diagnostic).isObject = true)
      (start : (startOf diagnostic).isObject = true)
      (composite : isComposite (severityOf diagnostic) = true) :
      Flaw diagnostic (.unhashable (severityOf diagnostic).kindName)
  /-- The number of the line has more digits than are ever written. -/
  | line (n : Int) (range : (rangeOf diagnostic).isObject = true)
      (start : (startOf diagnostic).isObject = true)
      (severity : isComposite (severityOf diagnostic) = false)
      (given : lineOf diagnostic = .integer n)
      (long : 10 ^ Numeral.digitLimit ≤ (n + 1).natAbs) : Flaw diagnostic .longNumeral

theorem memberOrEmpty_of_object {value : Json} (object : value.isObject = true) (name : Text) :
    value.memberOrEmpty name = .ok (inside value name) := by
  rw [Json.memberOrEmpty, Json.checkMembers, if_pos object]
  rfl

theorem memberOrEmpty_of_plain {value : Json} (plain : value.isObject = false) (name : Text) :
    value.memberOrEmpty name = .error (.noMembers value.kindName) := by
  rw [Json.memberOrEmpty, Json.checkMembers, if_neg (by simp [plain])]
  rfl

theorem checkKey_eq (value : Json) :
    value.checkKey = if isComposite value then .error (.unhashable value.kindName) else .ok () := by
  cases value <;> rfl

theorem digitCount_le_iff (n : Nat) :
    Double.digitCount n ≤ Numeral.digitLimit ↔ n < 10 ^ Numeral.digitLimit := by
  rw [← Text.length_ofNat_le_iff (by decide)]
  simp [Double.digitCount, Text.ofNat, Text.digits]

theorem lineNumber_of_short {line : Json}
    (short : ∀ n, line = .integer n → (n + 1).natAbs < 10 ^ Numeral.digitLimit) :
    lineNumber line = .ok (lineText line) := by
  cases line with
  | integer n =>
      have short := (digitCount_le_iff _).mpr (short n rfl)
      simp only [lineNumber, lineText, short, if_true]
  | bool value => cases value <;> rfl
  | _ => rfl

theorem lineNumber_of_long {n : Int} (long : 10 ^ Numeral.digitLimit ≤ (n + 1).natAbs) :
    lineNumber (.integer n) = .error .longNumeral := by
  have long : ¬ Double.digitCount (n + 1).natAbs ≤ Numeral.digitLimit := fun short =>
    Nat.not_lt.mpr long ((digitCount_le_iff _).mp short)
  simp only [lineNumber, long, if_false]

section

variable (uri : Text) {diagnostic : Json}

theorem diagnosticRow_of_range (object : diagnostic.isObject = true)
    (plain : (rangeOf diagnostic).isObject = false) :
    diagnosticRow uri diagnostic = .error (.noMembers (rangeOf diagnostic).kindName) := by
  have atRange : diagnostic.memberOrEmpty "range" = .ok (rangeOf diagnostic) :=
    memberOrEmpty_of_object object "range"
  simp only [diagnosticRow, atRange, bind, Except.bind, memberOrEmpty_of_plain plain]

theorem diagnosticRow_of_start (object : diagnostic.isObject = true)
    (range : (rangeOf diagnostic).isObject = true)
    (plain : (startOf diagnostic).isObject = false) :
    diagnosticRow uri diagnostic = .error (.noMembers (startOf diagnostic).kindName) := by
  have atRange : diagnostic.memberOrEmpty "range" = .ok (rangeOf diagnostic) :=
    memberOrEmpty_of_object object "range"
  have atStart : (rangeOf diagnostic).memberOrEmpty "start" = .ok (startOf diagnostic) :=
    memberOrEmpty_of_object range "start"
  simp only [diagnosticRow, atRange, atStart, bind, Except.bind, memberOrEmpty_of_plain plain]

theorem diagnosticRow_of_places (object : diagnostic.isObject = true)
    (range : (rangeOf diagnostic).isObject = true)
    (start : (startOf diagnostic).isObject = true) :
    diagnosticRow uri diagnostic = (do
      (severityOf diagnostic).checkKey
      let line ← lineNumber (lineOf diagnostic)
      return (rowOf uri diagnostic).set 1 line) := by
  have atRange : diagnostic.memberOrEmpty "range" = .ok (rangeOf diagnostic) :=
    memberOrEmpty_of_object object "range"
  have atStart : (rangeOf diagnostic).memberOrEmpty "start" = .ok (startOf diagnostic) :=
    memberOrEmpty_of_object range "start"
  have atLine : (startOf diagnostic).memberOrEmpty "line" = .ok (lineOf diagnostic) :=
    memberOrEmpty_of_object start "line"
  simp only [diagnosticRow, atRange, atStart, atLine, bind, Except.bind]
  rfl

/-- A diagnostic has its row, or the first of its flaws keeps it from having one. -/
theorem diagnosticRow_cases (object : diagnostic.isObject = true) :
    (∀ fault, ¬ Flaw diagnostic fault) ∧
        diagnosticRow uri diagnostic = .ok (rowOf uri diagnostic) ∨
      ∃ fault, Flaw diagnostic fault ∧ diagnosticRow uri diagnostic = .error fault := by
  cases range : (rangeOf diagnostic).isObject with
  | false => exact .inr ⟨_, .range range, diagnosticRow_of_range uri object range⟩
  | true =>
  cases start : (startOf diagnostic).isObject with
  | false => exact .inr ⟨_, .start range start, diagnosticRow_of_start uri object range start⟩
  | true =>
  rw [diagnosticRow_of_places uri object range start, checkKey_eq]
  cases composite : isComposite (severityOf diagnostic) with
  | true => exact .inr ⟨_, .severity range start composite, rfl⟩
  | false =>
  by_cases long : ∃ n, lineOf diagnostic = .integer n ∧ 10 ^ Numeral.digitLimit ≤ (n + 1).natAbs
  · obtain ⟨n, given, long⟩ := long
    refine .inr ⟨_, .line n range start composite given long, ?_⟩
    rw [given, lineNumber_of_long long]
    rfl
  · have short : ∀ n, lineOf diagnostic = .integer n →
        (n + 1).natAbs < 10 ^ Numeral.digitLimit := fun n given =>
      Nat.lt_of_not_le fun tooLong => long ⟨n, given, tooLong⟩
    refine .inl ⟨?_, by rw [lineNumber_of_short short]; rfl⟩
    rintro fault (flaw | ⟨-, flaw⟩ | ⟨-, -, flaw⟩ | ⟨n, -, -, -, given, flaw⟩)
    · simp [range] at flaw
    · simp [start] at flaw
    · simp [composite] at flaw
    · exact Nat.not_le.mpr (short n given) flaw

theorem sound_of_ok {row : List Text} (object : diagnostic.isObject = true)
    (ends : diagnosticRow uri diagnostic = .ok row) :
    (∀ fault, ¬ Flaw diagnostic fault) ∧ row = rowOf uri diagnostic := by
  rcases diagnosticRow_cases uri object with ⟨sound, ends'⟩ | ⟨fault, -, fails⟩
  · exact ⟨sound, Except.ok.inj (ends.symm.trans ends')⟩
  · rw [fails] at ends
    cases ends

theorem flaw_of_error {fault : Fault} (object : diagnostic.isObject = true)
    (fails : diagnosticRow uri diagnostic = .error fault) : Flaw diagnostic fault := by
  rcases diagnosticRow_cases uri object with ⟨-, ends⟩ | ⟨other, flaw, fails'⟩
  · rw [ends] at fails
    cases fails
  · exact Except.error.inj (fails'.symm.trans fails) ▸ flaw

end

/-! ## All diagnostics -/

/-- The diagnostics that are objects, each with its document. -/
def objectsIn (published : List (Text × List Json)) : List (Text × Json) :=
  published.flatMap fun (uri, items) =>
    (items.filter Json.isObject).map fun diagnostic => (uri, diagnostic)

theorem isObject_of_mem {published : List (Text × List Json)} {found : Text × Json}
    (member : found ∈ objectsIn published) : found.2.isObject = true := by
  obtain ⟨entry, -, member⟩ := List.mem_flatMap.mp member
  obtain ⟨diagnostic, kept, rfl⟩ := List.mem_map.mp member
  exact (List.mem_filter.mp kept).2

def asLists (published : List (Text × List Json)) : List (Text × Json) :=
  published.map fun (uri, items) => (uri, .array items)

theorem rows_eq (published : List (Text × List Json)) :
    ((asLists published).mapM fun (uri, found) => diagnosticRows uri found).map List.flatten =
      (objectsIn published).mapM fun (uri, diagnostic) => diagnosticRow uri diagnostic := by
  rw [objectsIn, List.flatMap_def, ← mapM_flatten, asLists, List.mapM_map, List.mapM_map]
  congr 2
  funext ⟨uri, items⟩
  simp only [diagnosticRows, Json.items, Function.comp, List.mapM_map]
  rfl

def nothingPublished : Output := .line "[dim]No diagnostics published[/dim]" []

theorem diagnostics_of_empty {published : List (Text × List Json)}
    (empty : ∀ entry ∈ published, entry.2 = []) :
    diagnostics (asLists published) = .ok nothingPublished := by
  have all : (asLists published).all (fun (_, found) => found.isEmpty) = true := by
    rw [asLists, List.all_map, List.all_eq_true]
    intro entry member
    simp [Json.isEmpty, empty entry member]
  rw [diagnostics, if_pos all]
  rfl

theorem diagnostics_eq_mapM {published : List (Text × List Json)}
    (nonempty : ∃ entry ∈ published, entry.2 ≠ []) :
    diagnostics (asLists published) =
      ((objectsIn published).mapM fun (uri, diagnostic) => diagnosticRow uri diagnostic).map
        (.table "Diagnostics" diagnosticColumns) := by
  have some : ¬ (asLists published).all (fun (_, found) => found.isEmpty) = true := by
    rw [asLists, List.all_map, List.all_eq_true]
    intro all
    obtain ⟨entry, member, filled⟩ := nonempty
    have empty := all entry member
    exact filled (by simpa [Json.isEmpty] using empty)
  rw [diagnostics, if_neg some, ← rows_eq]
  cases (asLists published).mapM fun (uri, found) => diagnosticRows uri found <;> rfl

/-- What becomes of diagnostics with their documents. -/
inductive Displayed (objects : List (Text × Json)) : Except Fault Output → Prop
  /-- There is a row for each of them, in their order. -/
  | table (sound : ∀ found ∈ objects, ∀ fault, ¬ Flaw found.2 fault) :
      Displayed objects (.ok (.table "Diagnostics" diagnosticColumns
        (objects.map fun (uri, diagnostic) => rowOf uri diagnostic)))
  /-- The first of them that has a flaw ends the display. -/
  | flawed {before after : List (Text × Json)} {found : Text × Json} {fault : Fault}
      (parts : objects = before ++ found :: after)
      (sound : ∀ earlier ∈ before, ∀ fault, ¬ Flaw earlier.2 fault)
      (flaw : Flaw found.2 fault) : Displayed objects (.error fault)

theorem displayed_of_nonempty {published : List (Text × List Json)}
    (nonempty : ∃ entry ∈ published, entry.2 ≠ []) :
    Displayed (objectsIn published) (diagnostics (asLists published)) := by
  rw [diagnostics_eq_mapM nonempty]
  rcases all_ok_or_first_error (fun found => diagnosticRow found.1 found.2) (objectsIn published)
    with succeeds | ⟨before, found, after, fault, parts, succeeds, fails⟩
  · have sound : ∀ found ∈ objectsIn published, (∀ fault, ¬ Flaw found.2 fault) ∧
        diagnosticRow found.1 found.2 = .ok (rowOf found.1 found.2) := by
      intro found member
      obtain ⟨row, ends⟩ := succeeds found member
      obtain ⟨sound, rfl⟩ := sound_of_ok found.1 (isObject_of_mem member) ends
      exact ⟨sound, ends⟩
    rw [mapM_eq_map fun found member => (sound found member).2]
    exact .table fun found member => (sound found member).1
  · have object : ∀ other ∈ before ++ found :: after, other.2.isObject = true := by
      intro other member
      exact isObject_of_mem (parts ▸ member)
    rw [parts, mapM_append_of_error succeeds fails]
    refine .flawed rfl (fun earlier member => ?_)
      (flaw_of_error found.1 (object found (by simp)) fails)
    obtain ⟨row, ends⟩ := succeeds earlier member
    exact (sound_of_ok earlier.1 (object earlier (by simp [member])) ends).1

/--
The line that nothing was published is shown if and only if all lists are empty.  Otherwise a
table is shown, with one row for each object in the order of the documents and of their lists,
unless one of the objects has a flaw; then the first that has one ends the display.
-/
theorem diagnostics_of_published (published : List (Text × List Json)) :
    (diagnostics (asLists published) = .ok nothingPublished ↔
      ∀ entry ∈ published, entry.2 = []) ∧
    ((∃ entry ∈ published, entry.2 ≠ []) →
      Displayed (objectsIn published) (diagnostics (asLists published))) := by
  refine ⟨⟨fun shown => ?_, diagnostics_of_empty⟩, displayed_of_nonempty⟩
  by_contra filled
  have nonempty : ∃ entry ∈ published, entry.2 ≠ [] := by simpa using filled
  have displayed := displayed_of_nonempty nonempty
  rw [shown] at displayed
  cases displayed

def startless : Json := .object [("range", .object [("start", .null)])]

theorem startless_undisplayed :
    startless.isObject = true ∧
      diagnostics (asLists [("u", [startless])]) = .error (.noMembers "NoneType") :=
  ⟨rfl, rfl⟩

end Terminal

end LanguageSession
