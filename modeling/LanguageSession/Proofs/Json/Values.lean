import Mathlib
import LanguageSession.Proofs.Association
import LanguageSession.Proofs.Json.Numbers
import LanguageSession.Proofs.Json.Strings
import LanguageSession.Proofs.Json.Texts

/-!
# Values read back

A written value is read back as the same value.  Three things are needed of the value: the
names of an object are distinct, numbers are not longer than the reader takes them, and the
value does not nest deeper than the reader goes.  A form that writes everything outside ASCII
as escapes needs a fourth one: no high surrogate right before a low one.
-/

namespace LanguageSession

/-- The short form of a finite double is read back as this double. -/
def Double.ReadsBack : Double → Prop
  | .finite negative magnitude =>
    Json.readNumber (Json.writeDouble (.finite negative magnitude)) =
      .ok (.float (.finite negative magnitude), [])
  | _ => True

namespace Json

/-- Values that can be written and read back, with so many values inside each other at most. -/
inductive Readable : Nat → Json → Prop
  | null {depth} : Readable depth .null
  | bool {depth} (value : Bool) : Readable depth (.bool value)
  | integer {depth} (n : Int) (short : n.natAbs < 10 ^ Numeral.digitLimit) :
      Readable depth (.integer n)
  | float {depth} (d : Double) (exact : d.ReadsBack) : Readable depth (.float d)
  | string {depth} (text : Text) : Readable depth (.string text)
  | array {depth} (items : List Json) (inside : ∀ item ∈ items, Readable depth item) :
      Readable (depth + 1) (.array items)
  | object {depth} (members : List (Text × Json)) (distinct : (members.map Prod.fst).Nodup)
      (inside : ∀ member ∈ members, Readable depth member.2) :
      Readable (depth + 1) (.object members)

/-! ## Words -/

theorem readNumber_begins {text : Text} {found : Json × Text}
    (h : readNumber text = .ok found) :
    ∃ digit rest, isDigit digit = true ∧
      (text = digit :: rest ∨ text = ch '-' :: digit :: rest) := by
  have begins : ∀ {unsigned : Text} {parts : Text × Text}, readWhole unsigned = some parts →
      ∃ digit rest, unsigned = digit :: rest ∧ isDigit digit = true := by
    intro unsigned parts whole
    cases unsigned with
    | nil => cases whole
    | cons digit rest =>
        refine ⟨digit, rest, rfl, ?_⟩
        simp only [readWhole] at whole
        split at whole
        · next zero => rw [zero]; decide
        · split at whole
          · assumption
          · cases whole
  rw [readNumber_eq] at h
  cases whole : readWhole (takeMinus text).2 with
  | none => simp [whole] at h
  | some parts =>
      obtain ⟨digit, rest, same, isDigit⟩ := begins whole
      refine ⟨digit, rest, isDigit, ?_⟩
      cases text with
      | nil => cases same
      | cons c others =>
          by_cases minus : c = ch '-'
          · have after : others = digit :: rest := by simpa [takeMinus, minus, ch] using same
            exact .inr (by rw [minus, after])
          · exact .inl (by simpa [takeMinus, show ¬ c = CodePoint.ofChar '-' from minus] using same)

theorem startsWith_of_ne {c d : CodePoint} (pattern text : Text) (h : c ≠ d) :
    Text.startsWith (d :: text) (c :: pattern) = false := by
  simp [Text.startsWith, List.isPrefixOf_cons_cons, h]

theorem startsWith_cons (c : CodePoint) (pattern text : Text) :
    Text.startsWith (c :: text) (c :: pattern) = Text.startsWith text pattern := by
  simp [Text.startsWith]

theorem ne_of_isDigit {c digit : CodePoint} (h : isDigit digit = true)
    (other : isDigit c = false) : digit ≠ c := by
  rintro rfl
  rw [h] at other
  cases other

/-- No word begins as a number does. -/
theorem readWord_eq_none {text : Text} {digit : CodePoint} {rest : Text}
    (h : isDigit digit = true) (begins : text = digit :: rest ∨ text = ch '-' :: digit :: rest) :
    readWord text = none := by
  have heads : ∀ word ∈ words, ∃ c pattern, word.1 = c :: pattern ∧ isDigit c = false ∧
      (c = ch '-' → ∃ d others, pattern = d :: others ∧ isDigit d = false) := by
    intro word member
    simp only [words, List.mem_cons, List.not_mem_nil, or_false] at member
    rcases member with rfl | rfl | rfl | rfl | rfl | rfl
    all_goals exact ⟨_, _, rfl, by decide, fun _ => ⟨_, _, rfl, by decide⟩⟩
  have absent : ∀ word ∈ words, text.startsWith word.1 = false := by
    intro word member
    obtain ⟨c, pattern, same, other, second⟩ := heads word member
    rw [same]
    rcases begins with rfl | rfl
    · exact startsWith_of_ne pattern rest (ne_of_isDigit h other).symm
    · by_cases minus : c = ch '-'
      · obtain ⟨d, others, rfl, stop⟩ := second minus
        rw [minus, startsWith_cons]
        exact startsWith_of_ne others rest (ne_of_isDigit h stop).symm
      · exact startsWith_of_ne pattern (digit :: rest) minus
  have none : words.find? (fun word => text.startsWith word.1) = none := by
    rw [List.find?_eq_none]
    intro word member
    simp [absent word member]
  simp [readWord, none]

/-! ## The reader of values, by what stands in front -/

theorem readValue_number {text : Text} {found : Json × Text} (bound depth : Nat)
    (read : readNumber text = .ok found) : readValue (bound + 1) depth text = .ok found := by
  obtain ⟨digit, rest, isDigit, begins⟩ := readNumber_begins read
  have noWord := readWord_eq_none isDigit begins
  rcases begins with rfl | rfl
  · rw [readValue.eq_def]
    simp only [noWord, read]
    rw [if_neg (ne_of_isDigit isDigit (by decide)), if_neg (ne_of_isDigit isDigit (by decide)),
      if_neg (ne_of_isDigit isDigit (by decide))]
  · rw [readValue.eq_def]
    simp only [noWord, read]
    rw [if_neg (by decide), if_neg (by decide), if_neg (by decide)]

theorem readValue_word {c : CodePoint} {text : Text} {found : Json × Text} (bound depth : Nat)
    (string : c ≠ ch '"') (object : c ≠ ch '\x7b') (array : c ≠ ch '[')
    (read : readWord (c :: text) = some found) :
    readValue (bound + 1) depth (c :: text) = .ok found := by
  rw [readValue.eq_def]
  simp only [read]
  rw [if_neg string, if_neg object, if_neg array]

theorem readValue_string {form : Form} {text : Text} (bound depth : Nat) (rest : Text)
    (unjoined : form.ascii = true → text.Unjoined) :
    readValue (bound + 1) depth (writeString form text ++ rest) = .ok (.string text, rest) := by
  have read := readString_writeString (writeString form text ++ rest) rest unjoined
  rw [writeString_eq] at read ⊢
  rw [List.cons_append] at read ⊢
  rw [List.drop_one, List.tail_cons] at read
  rw [readValue.eq_def]
  simp only [read]
  exact if_pos rfl

theorem skipSpace_of_not_isSpace {c : CodePoint} (text : Text) (h : isSpace c = false) :
    skipSpace (c :: text) = c :: text :=
  List.dropWhile_cons_of_neg (by simp [h])

theorem readValue_emptyArray (bound depth : Nat) (rest : Text) :
    readValue (bound + 1) (depth + 1) (ch '[' :: ch ']' :: rest) = .ok (.array [], rest) := by
  rw [readValue.eq_def]
  rfl

theorem readValue_emptyObject (bound depth : Nat) (rest : Text) :
    readValue (bound + 1) (depth + 1) (ch '\x7b' :: ch '\x7d' :: rest) =
      .ok (.object [], rest) := by
  rw [readValue.eq_def]
  rfl

theorem readValue_array {c : CodePoint} (bound depth : Nat) (text : Text)
    (noSpace : isSpace c = false) (closing : c ≠ ch ']') :
    readValue (bound + 1) (depth + 1) (ch '[' :: c :: text) =
      readItems bound depth [] (c :: text) := by
  rw [readValue.eq_def]
  simp only [skipSpace_of_not_isSpace text noSpace, List.head?_cons, Option.some.injEq,
    if_neg closing]
  rfl

theorem readValue_object {c : CodePoint} (bound depth : Nat) (text : Text)
    (noSpace : isSpace c = false) (closing : c ≠ ch '\x7d') :
    readValue (bound + 1) (depth + 1) (ch '\x7b' :: c :: text) =
      readMembers bound depth [] (c :: text) := by
  rw [readValue.eq_def]
  simp only [skipSpace_of_not_isSpace text noSpace, List.head?_cons, Option.some.injEq,
    if_neg closing]
  rfl

/-- After an item the array ends or goes on. -/
theorem readItems_of_readValue {bound depth : Nat} {read : List Json} {text after : Text}
    {item : Json} (h : readValue bound depth text = .ok (item, after)) :
    (∀ rest, after = ch ']' :: rest →
      readItems (bound + 1) depth read text = .ok (.array (read.reverse ++ [item]), rest)) ∧
    (∀ rest, after = ch ',' :: rest →
      readItems (bound + 1) depth read text =
        readItems bound depth (item :: read) (skipSpace rest)) := by
  constructor
  · rintro rest rfl
    rw [readItems, h]
    simp only [skipSpace_of_not_isSpace rest (by decide : isSpace (ch ']') = false)]
    simp
  · rintro rest rfl
    rw [readItems, h]
    simp only [skipSpace_of_not_isSpace rest (by decide : isSpace (ch ',') = false),
      List.head?_cons, Option.some.injEq, List.drop_one, List.tail_cons]
    rw [if_neg (by decide)]
    exact if_pos trivial

/-- After a member the object ends or goes on. -/
theorem readMembers_of_readValue {form : Form} {bound depth : Nat} {name text after : Text}
    {value : Json} (read : List (Text × Json)) (unjoined : form.ascii = true → name.Unjoined)
    (h : readValue bound depth (skipSpace text) = .ok (value, after)) :
    (∀ rest, after = ch '\x7d' :: rest →
      readMembers (bound + 1) depth read (writeString form name ++ ch ':' :: text) =
        .ok (.object (Association.put name value read), rest)) ∧
    (∀ rest, after = ch ',' :: rest →
      readMembers (bound + 1) depth read (writeString form name ++ ch ':' :: text) =
        readMembers bound depth (Association.put name value read) (skipSpace rest)) := by
  have named := readString_writeString (writeString form name ++ ch ':' :: text)
    (ch ':' :: text) unjoined
  have quoted : (writeString form name ++ ch ':' :: text).head? = some (ch '"') := rfl
  have colon := skipSpace_of_not_isSpace text (by decide : isSpace (ch ':') = false)
  constructor
  · rintro rest rfl
    rw [readMembers, if_pos quoted, named]
    simp only [colon, List.head?_cons, List.drop_one, List.tail_cons, h,
      skipSpace_of_not_isSpace rest (by decide : isSpace (ch '\x7d') = false), if_true]
  · rintro rest rfl
    rw [readMembers, if_pos quoted, named]
    simp only [colon, List.head?_cons, List.drop_one, List.tail_cons, h,
      skipSpace_of_not_isSpace rest (by decide : isSpace (ch ',') = false),
      Option.some.injEq, if_true]
    rw [if_neg (by decide)]

/-! ## Written values -/

structure Form.Separates (form : Form) : Prop where
  comma : ∃ blanks, form.comma = ch ',' :: blanks ∧ skipSpace blanks = []
  colon : ∃ blanks, form.colon = ch ':' :: blanks ∧ skipSpace blanks = []

theorem compactForm_separates : compactForm.Separates :=
  ⟨⟨[], rfl, rfl⟩, ⟨[], rfl, rfl⟩⟩

theorem spacedForm_separates : spacedForm.Separates :=
  ⟨⟨[ch ' '], rfl, rfl⟩, ⟨[ch ' '], rfl, rfl⟩⟩

theorem skipSpace_append {blanks : Text} (text : Text) (blank : skipSpace blanks = []) :
    skipSpace (blanks ++ text) = skipSpace text := by
  have empty : blanks.dropWhile isSpace = [] := blank
  rw [skipSpace, List.dropWhile_append, empty]
  rfl

def Form.Keeps (form : Form) (value : Json) : Prop :=
  form.ascii = true → ∀ text ∈ value.texts, text.Unjoined

section

variable {form : Form} {depth : Nat}

theorem Form.Keeps.item {items : List Json} (keeps : form.Keeps (.array items)) {item : Json}
    (member : item ∈ items) : form.Keeps item := by
  intro ascii text inside
  refine keeps ascii text ?_
  rw [texts_array]
  exact List.mem_flatMap_of_mem member inside

theorem Form.Keeps.name {members : List (Text × Json)} (keeps : form.Keeps (.object members))
    {name : Text} {value : Json} (member : (name, value) ∈ members) (ascii : form.ascii = true) :
    name.Unjoined := by
  refine keeps ascii name ?_
  rw [texts_object]
  exact List.mem_append_left _ (List.mem_map_of_mem member)

theorem Form.Keeps.value {members : List (Text × Json)} (keeps : form.Keeps (.object members))
    {member : Text × Json} (inside : member ∈ members) : form.Keeps member.2 := by
  intro ascii text within
  refine keeps ascii text ?_
  rw [texts_object]
  exact List.mem_append_right _ (List.mem_flatMap_of_mem inside within)

/-- The value is read back wherever something follows that may follow a value. -/
def Recovered (form : Form) (depth : Nat) (value : Json) : Prop :=
  ∀ bound rest, 2 * (write form value).length ≤ bound → Follows rest →
    readValue bound depth (write form value ++ rest) = .ok (value, rest)

theorem begins_of_readNumber {text : Text} {found : Json × Text}
    (h : readNumber text = .ok found) :
    ∃ c rest, text = c :: rest ∧ isSpace c = false ∧ c ≠ ch ']' ∧ c ≠ ch '\ufeff' := by
  obtain ⟨digit, rest, isDigit, rfl | rfl⟩ := readNumber_begins h
  · have other : ∀ {c : CodePoint}, Json.isDigit c = false → digit ≠ c := ne_of_isDigit isDigit
    refine ⟨digit, rest, rfl, ?_, other (by decide), other (by decide)⟩
    simp only [isSpace, Bool.or_eq_false_iff, decide_eq_false_iff_not]
    exact ⟨⟨⟨other (by decide), other (by decide)⟩, other (by decide)⟩, other (by decide)⟩
  · exact ⟨ch '-', digit :: rest, rfl, by decide, by decide, by decide⟩

theorem write_begins (form : Form) {value : Json} (h : Readable depth value) :
    ∃ c text, write form value = c :: text ∧ isSpace c = false ∧ c ≠ ch ']' ∧
      c ≠ ch '\ufeff' := by
  cases h with
  | null => exact ⟨_, _, rfl, by decide, by decide, by decide⟩
  | bool value => cases value <;> exact ⟨_, _, rfl, by decide, by decide, by decide⟩
  | integer n short =>
      have read := readNumber_ofInt [] follows_nil short
      rw [List.append_nil] at read
      exact begins_of_readNumber read
  | float d exact =>
      cases d with
      | nan => exact ⟨_, _, rfl, by decide, by decide, by decide⟩
      | infinity negative => cases negative <;> exact ⟨_, _, rfl, by decide, by decide, by decide⟩
      | finite negative magnitude => exact begins_of_readNumber exact
  | string text => exact ⟨_, _, rfl, by decide, by decide, by decide⟩
  | array items inside => cases items <;> exact ⟨_, _, rfl, by decide, by decide, by decide⟩
  | object members distinct inside => cases members <;> exact ⟨_, _, rfl, by decide, by decide, by decide⟩

theorem skipSpace_write (form : Form) {value : Json} (h : Readable depth value) (rest : Text) :
    skipSpace (write form value ++ rest) = write form value ++ rest := by
  obtain ⟨c, text, begins, noSpace, -⟩ := write_begins form h
  rw [begins]
  exact skipSpace_of_not_isSpace (text ++ rest) noSpace

theorem readItems_written (separates : form.Separates) (tail : Text) (rest : List Json)
    (item : Json) (read : List Json) (bound : Nat)
    (each : ∀ value ∈ item :: rest, Readable depth value ∧ Recovered form depth value)
    (enough : 2 * ((write form item).length + (writeItems form rest).length) < bound) :
    readItems bound depth read (write form item ++ (writeItems form rest ++ tail)) =
      .ok (.array (read.reverse ++ item :: rest), tail) := by
  induction rest generalizing item read bound with
  | nil =>
      obtain ⟨bound, rfl⟩ : ∃ smaller, bound = smaller + 1 := ⟨bound - 1, by omega⟩
      have value := (each item (by simp)).2 bound (ch ']' :: tail) (by omega) (follows_bracket tail)
      exact (readItems_of_readValue value).1 tail rfl
  | cons next rest ih =>
      obtain ⟨bound, rfl⟩ : ∃ smaller, bound = smaller + 1 := ⟨bound - 1, by omega⟩
      obtain ⟨blanks, separator, blank⟩ := separates.comma
      have comma : writeItems form (next :: rest) ++ tail =
          ch ',' :: (blanks ++ (write form next ++ (writeItems form rest ++ tail))) := by
        simp [writeItems, separator]
      have size := congrArg List.length comma
      simp only [List.length_append, List.length_cons] at size
      have value := (each item (by simp)).2 bound
        (writeItems form (next :: rest) ++ tail) (by omega) (comma ▸ follows_comma _)
      have later := ih next (item :: read) bound
        (fun value member => each value (List.mem_cons_of_mem item member)) (by omega)
      rw [comma] at value ⊢
      rw [(readItems_of_readValue value).2 _ rfl, skipSpace_append _ blank,
        skipSpace_write form (each next (by simp)).1, later]
      simp

theorem not_mem_of_nodup {name : Text} {value : Json} {read rest : List (Text × Json)}
    (distinct : ((read ++ (name, value) :: rest).map Prod.fst).Nodup) :
    name ∉ read.map Prod.fst := by
  intro member
  rw [List.map_append, List.nodup_append] at distinct
  exact distinct.2.2 name member name (by simp) rfl

/-- What it takes to read the member of an object back. -/
structure RecoveredMember (form : Form) (depth : Nat) (name : Text) (value : Json) : Prop where
  unjoined : form.ascii = true → name.Unjoined
  readable : Readable depth value
  recovered : Recovered form depth value

theorem readMembers_written (separates : form.Separates) (tail : Text)
    (rest : List (Text × Json)) (name : Text) (value : Json) (read : List (Text × Json))
    (bound : Nat)
    (each : ∀ member ∈ (name, value) :: rest, RecoveredMember form depth member.1 member.2)
    (distinct : ((read ++ (name, value) :: rest).map Prod.fst).Nodup)
    (enough : 2 * ((write form value).length + (writeMembers form rest).length) < bound) :
    readMembers bound depth read
        (writeString form name ++
          (form.colon ++ (write form value ++ (writeMembers form rest ++ tail)))) =
      .ok (.object (read ++ (name, value) :: rest), tail) := by
  obtain ⟨colonBlanks, colon, colonBlank⟩ := separates.colon
  -- the members that were read grow as the rest of the text gets shorter
  induction rest generalizing name value read bound with
  | nil =>
      obtain ⟨bound, rfl⟩ : ∃ smaller, bound = smaller + 1 := ⟨bound - 1, by omega⟩
      obtain ⟨unjoined, readable, recovered⟩ : RecoveredMember form depth name value :=
        each (name, value) (by simp)
      have found := recovered bound (ch '\x7d' :: tail) (by omega) (follows_brace tail)
      rw [← skipSpace_write form readable, ← skipSpace_append _ colonBlank] at found
      rw [← Association.put_of_not_mem (not_mem_of_nodup distinct), colon]
      exact (readMembers_of_readValue read unjoined found).1 tail rfl
  | cons next rest ih =>
      obtain ⟨bound, rfl⟩ : ∃ smaller, bound = smaller + 1 := ⟨bound - 1, by omega⟩
      obtain ⟨unjoined, readable, recovered⟩ : RecoveredMember form depth name value :=
        each (name, value) (by simp)
      obtain ⟨nextName, nextValue⟩ := next
      obtain ⟨blanks, separator, blank⟩ := separates.comma
      have comma : writeMembers form ((nextName, nextValue) :: rest) ++ tail =
          ch ',' :: (blanks ++ (writeString form nextName ++
            (form.colon ++ (write form nextValue ++ (writeMembers form rest ++ tail))))) := by
        simp [writeMembers, separator]
      have size := congrArg List.length comma
      simp only [List.length_append, List.length_cons] at size
      have found := recovered bound
        (writeMembers form ((nextName, nextValue) :: rest) ++ tail) (by omega)
        (comma ▸ follows_comma _)
      rw [← skipSpace_write form readable, ← skipSpace_append _ colonBlank] at found
      have later := ih nextName nextValue (read ++ [(name, value)]) bound
        (fun member inside => each member (List.mem_cons_of_mem (name, value) inside))
        (by simpa using distinct) (by omega)
      have goesOn := (readMembers_of_readValue read unjoined found).2 _ comma
      have quoted (others : Text) :
          skipSpace (writeString form nextName ++ others) = writeString form nextName ++ others :=
        skipSpace_of_not_isSpace _ (by decide)
      rw [skipSpace_append _ blank, quoted, Association.put_of_not_mem (not_mem_of_nodup distinct),
        later] at goesOn
      rw [colon]
      simpa using goesOn

theorem recovered_of_step {value : Json} (h : Readable depth value)
    (step : ∀ bound rest, 2 * (write form value).length ≤ bound + 1 → Follows rest →
      readValue (bound + 1) depth (write form value ++ rest) = .ok (value, rest)) :
    Recovered form depth value := by
  intro bound rest enough follows
  obtain ⟨c, text, begins, -⟩ := write_begins form h
  have positive : 0 < (write form value).length := by simp [begins]
  obtain ⟨smaller, rfl⟩ : ∃ smaller, bound = smaller + 1 := ⟨bound - 1, by omega⟩
  exact step smaller rest enough follows

/-- Every value that can be written and read back is read back from a form that keeps its texts. -/
theorem recovered_of_readable (separates : form.Separates) {value : Json}
    (h : Readable depth value) (keeps : form.Keeps value) : Recovered form depth value := by
  -- by induction on what can be read back; only a container needs that of its parts
  induction h with
  | null =>
      refine recovered_of_step .null fun bound rest _ _ => ?_
      exact readValue_word _ _ (by decide) (by decide) (by decide) rfl
  | bool value =>
      refine recovered_of_step (.bool value) fun bound rest _ _ => ?_
      cases value <;> exact readValue_word _ _ (by decide) (by decide) (by decide) rfl
  | integer n short =>
      refine recovered_of_step (.integer n short) fun bound rest _ follows => ?_
      exact readValue_number _ _ (readNumber_ofInt rest follows short)
  | float d exact =>
      refine recovered_of_step (.float d exact) fun bound rest _ follows => ?_
      cases d with
      | nan => exact readValue_word _ _ (by decide) (by decide) (by decide) rfl
      | infinity negative =>
          cases negative <;> exact readValue_word _ _ (by decide) (by decide) (by decide) rfl
      | finite negative magnitude => exact readValue_number _ _ (readNumber_append follows exact)
  | string text =>
      refine recovered_of_step (.string text) fun bound rest _ _ => ?_
      exact readValue_string _ _ rest fun ascii => keeps ascii text (by simp [texts, parts, ownTexts])
  | array items inside ih =>
      refine recovered_of_step (.array items inside) fun bound rest enough _ => ?_
      cases items with
      | nil => exact readValue_emptyArray _ _ rest
      | cons item items =>
          obtain ⟨c, text, begins, noSpace, closing, -⟩ :=
            write_begins form (inside item (by simp))
          have written : write form (.array (item :: items)) ++ rest =
              ch '[' :: (write form item ++ (writeItems form items ++ rest)) := by
            simp [write, ch]
          have size := congrArg List.length written
          simp only [List.length_append, List.length_cons] at size
          have read := readItems_written separates rest items item [] bound
            (fun value member => ⟨inside value member, ih value member (keeps.item member)⟩)
            (by omega)
          rw [begins] at read
          rw [written, begins]
          exact (readValue_array bound _ _ noSpace closing).trans read
  | object members distinct inside ih =>
      refine recovered_of_step (.object members distinct inside) fun bound rest enough _ => ?_
      cases members with
      | nil => exact readValue_emptyObject _ _ rest
      | cons member members =>
          obtain ⟨name, value⟩ := member
          have written : write form (.object ((name, value) :: members)) ++ rest =
              ch '\x7b' :: (writeString form name ++
                (form.colon ++ (write form value ++ (writeMembers form members ++ rest)))) := by
            simp [write, ch]
          have size := congrArg List.length written
          simp only [List.length_append, List.length_cons] at size
          have read := readMembers_written separates rest members name value [] bound
            (fun member inner => ⟨keeps.name inner, inside member inner,
              ih member inner (keeps.value inner)⟩) distinct (by omega)
          rw [written]
          exact (readValue_object bound _ _ (by decide) (by decide)).trans read

theorem readWithin_write (separates : form.Separates) {value : Json} (h : Readable depth value)
    (keeps : form.Keeps value) : readWithin depth (write form value) = .ok value := by
  have read := recovered_of_readable separates h keeps (2 * (write form value).length + 2) []
    (by omega) follows_nil
  have noSpace := skipSpace_write form h []
  rw [List.append_nil] at read noSpace
  have noMark : (write form value).head? ≠ some (ch '\ufeff') := by
    obtain ⟨c, text, begins, -, -, other⟩ := write_begins form h
    simpa [begins] using other
  rw [readWithin, if_neg noMark, noSpace, read]
  rfl

theorem readWithin_compact {value : Json} (h : Readable depth value) :
    readWithin depth (compact value) = .ok value :=
  readWithin_write compactForm_separates h Bool.noConfusion

theorem readWithin_spaced {value : Json} (h : Readable depth value)
    (unjoined : ∀ text ∈ value.texts, text.Unjoined) :
    readWithin depth (spaced value) = .ok value :=
  readWithin_write spacedForm_separates h fun _ => unjoined

end

end Json

end LanguageSession
