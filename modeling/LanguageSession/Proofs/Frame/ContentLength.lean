import Mathlib
import LanguageSession.Text.Case
import LanguageSession.Proofs.Frame.Header
import LanguageSession.Proofs.Number.Numeral

/-!
# The length that a header block declares

A header block is a sequence of lines.  The first line that is named `Content-Length`, in whatever
letters and with whatever blanks, decides about the length, and nothing else in the block does.
-/

namespace LanguageSession

/-! ## Small letters of the first characters -/

namespace Text

/-- Every character is one of the first 256. -/
def IsLatin (text : Text) : Prop := ∀ c ∈ text, c.val < 0x100

def asciiSmall (c : CodePoint) : CodePoint :=
  if 0x41 ≤ c.val && c.val ≤ 0x5A then CodePoint.ofNat (c.val + 32) else c

theorem asciiLower_eq_map (text : Text) : Numeral.asciiLower text = text.map asciiSmall := rfl

/-- What is used of the small form of a latin character. -/
structure HasSmall (c : CodePoint) : Prop where
  /-- In ASCII only the letters `A` to `Z` change. -/
  ascii : c.latinSmall.val < 0x80 ∨ (asciiSmall c).val < 0x80 → c.latinSmall = asciiSmall c
  colon : c.latinSmall = CodePoint.ofChar ':' → c = CodePoint.ofChar ':'
  blank : c.isBlank = true → c.latinSmall = c

theorem hasSmall_of_latin {c : CodePoint} (latin : c.val < 0x100) : HasSmall c := by
  have each : ∀ byte : Fin 0x100,
      let c : CodePoint := ⟨byte.val, byte.isLt.trans (by decide)⟩
      (c.latinSmall.val < 0x80 ∨ (asciiSmall c).val < 0x80 → c.latinSmall = asciiSmall c) ∧
        (c.latinSmall = CodePoint.ofChar ':' → c = CodePoint.ofChar ':') ∧
        (c.isBlank = true → c.latinSmall = c) := by
    decide +kernel
  obtain ⟨ascii, colon, blank⟩ := each ⟨c.val, latin⟩
  exact ⟨ascii, colon, blank⟩

theorem lower_of_latin {text : Text} (latin : text.IsLatin) :
    text.lower = text.map CodePoint.latinSmall := by
  have plain : ∀ c ∈ text, c.val ≠ 0x3A3 := fun c member => by
    have := latin c member
    omega
  rw [lower_eq_flatMap plain, ← List.flatMap_pure_eq_map]
  exact List.flatMap_congr fun c member => CodePoint.toLower_of_latin (latin c member)

theorem startsWith_map_congr {f g : CodePoint → CodePoint} {text pattern : Text}
    (same : ∀ c ∈ text, ∀ d ∈ pattern, d = f c ↔ d = g c) :
    startsWith (text.map f) pattern = startsWith (text.map g) pattern := by
  induction pattern generalizing text with
  | nil => rfl
  | cons d pattern ih =>
      cases text with
      | nil => rfl
      | cons c text =>
          have first : (d == f c) = (d == g c) := by
            rw [Bool.eq_iff_iff, beq_iff_eq, beq_iff_eq]
            exact same c List.mem_cons_self d List.mem_cons_self
          have later := ih fun other member d' member' =>
            same other (List.mem_cons_of_mem c member) d' (List.mem_cons_of_mem d member')
          simp only [startsWith] at later
          simp only [startsWith, List.map_cons, List.isPrefixOf_cons_cons, first, later]

theorem lower_startsWith {text pattern : Text} (latin : text.IsLatin)
    (ascii : ∀ d ∈ pattern, d.val < 0x80) :
    text.lower.startsWith pattern = (Numeral.asciiLower text).startsWith pattern := by
  rw [lower_of_latin latin, asciiLower_eq_map]
  refine startsWith_map_congr fun c member d inside => ?_
  have same := (hasSmall_of_latin (latin c member)).ascii
  have low := ascii d inside
  constructor
  · rintro rfl
    exact same (.inl low)
  · rintro rfl
    exact (same (.inr low)).symm

end Text

namespace Frame

/-! ## Lines -/

/-- The text of a line, one character a byte, without the blanks around it. -/
def lineText (line : Bytes) : Text := (Text.ofBytes line).trim

/-- The name of the header that gives the length, in small letters. -/
def fieldName : Text := "content-length"

/-- A line that gives no length: in small letters it does not begin with the name and a colon. -/
def IsOther (line : Bytes) : Prop := (lineText line).lower.startsWith lengthName = false

/-- Lines in a row as a block: a line feed, or a carriage return and it, ends all but the last. -/
inductive IsBlock : List Bytes → Bytes → Prop
  | last {line : Bytes} (single : 0x0A ∉ line) : IsBlock [line] line
  | lineFeed {line block : Bytes} {lines : List Bytes} (single : 0x0A ∉ line)
      (others : IsBlock lines block) : IsBlock (line :: lines) (line ++ 0x0A :: block)
  | carriageReturn {line block : Bytes} {lines : List Bytes} (single : 0x0A ∉ line)
      (others : IsBlock lines block) : IsBlock (line :: lines) (line ++ 0x0D :: 0x0A :: block)

/-- The line has the name of the length in any letters, a colon and the value, with blanks around. -/
inductive Gives : Bytes → Text → Prop
  | written {line : Bytes} {front name gap value back : Text}
      (same : Text.ofBytes line = front ++ (name ++ CodePoint.ofChar ':' :: (gap ++ value ++ back)))
      (named : name.lower = fieldName) (bare : value.trim = value)
      (before : front.isBlank = true) (between : gap.isBlank = true)
      (after : back.isBlank = true) : Gives line value

theorem isLatin_ofBytes (line : Bytes) : (Text.ofBytes line).IsLatin := by
  intro c member
  obtain ⟨byte, -, rfl⟩ := List.mem_map.mp member
  exact byte.toNat_lt

theorem isLatin_lineText (line : Bytes) : (lineText line).IsLatin := by
  obtain ⟨front, back, parted, -, -⟩ :=
    Text.dropAround_split CodePoint.isBlank (Text.ofBytes line)
  intro c member
  refine isLatin_ofBytes line c ?_
  rw [parted]
  exact List.mem_append_left _ (List.mem_append_right _ member)

theorem lengthName_ascii : ∀ d ∈ lengthName, d.val < 0x80 := by
  simp [lengthName, Text.ofString, CodePoint.ofChar]

theorem lengthValue?_lineText (line : Bytes) :
    lengthValue? (lineText line) =
      if (lineText line).lower.startsWith lengthName then
        some ((lineText line).drop lengthName.length)
      else none := by
  rw [Text.lower_startsWith (isLatin_lineText line) lengthName_ascii]
  rfl

theorem lengthValue?_other {line : Bytes} (other : IsOther line) :
    lengthValue? (lineText line) = none := by
  rw [lengthValue?_lineText, other]
  rfl

theorem ofBytes_single {line : Bytes} (single : 0x0A ∉ line) :
    CodePoint.ofChar '\n' ∉ Text.ofBytes line := by
  intro member
  obtain ⟨byte, inside, same⟩ := List.mem_map.mp member
  have value : byte.toNat = 0x0A := congrArg Fin.val same
  have found : byte = 0x0A := UInt8.toNat_inj.mp value
  exact single (found ▸ inside)

theorem lineText_carriageReturn (line : Bytes) : lineText (line ++ [0x0D]) = lineText line := by
  have blank : ∀ c ∈ Text.ofBytes [0x0D], c.isBlank = true := by
    rintro c (_ | ⟨_, ⟨⟩⟩)
    rfl
  have nothing : ∀ c ∈ ([] : Text), c.isBlank = true := by simp
  have trimmed := Text.dropAround_append (Text.ofBytes line) nothing blank
  rw [List.nil_append] at trimmed
  rw [lineText, Text.ofBytes, List.map_append]
  exact trimmed

theorem headerLines_append (line block : Bytes) (single : 0x0A ∉ line) :
    headerLines (line ++ 0x0A :: block) = lineText line :: headerLines block := by
  have lineFeed : CodePoint.ofByte 0x0A = CodePoint.ofChar '\n' := rfl
  rw [headerLines, Text.ofBytes, List.map_append, List.map_cons, lineFeed,
    Text.splitAt_append_cons]
  change List.map Text.trim (Text.splitAt _ (Text.ofBytes line) ++ _) = _
  rw [Text.splitAt_of_not_mem (ofBytes_single single)]
  rfl

theorem headerLines_of_block {lines : List Bytes} {block : Bytes} (made : IsBlock lines block) :
    headerLines block = lines.map lineText := by
  induction made with
  | last single =>
      rw [headerLines, Text.splitAt_of_not_mem (ofBytes_single single)]
      rfl
  | lineFeed single others ih => rw [headerLines_append _ _ single, ih, List.map_cons]
  | @carriageReturn line block lines single others ih =>
      have whole : 0x0A ∉ line ++ [0x0D] := by simpa using single
      rw [List.append_cons, headerLines_append _ _ whole, ih, lineText_carriageReturn,
        List.map_cons]

/-! ## Lines that give a value -/

theorem length_of_lower {name : Text} (latin : name.IsLatin) :
    name.lower.length = name.length := by
  rw [Text.lower_of_latin latin, List.length_map]

theorem trimStart_of_named {name : Text} (latin : name.IsLatin) (named : name.lower = fieldName)
    (after : Text) : Text.trimStart (name ++ after) = name ++ after := by
  rw [Text.lower_of_latin latin] at named
  obtain ⟨c, rest, rfl, first, -⟩ := List.map_eq_cons_iff.mp named
  refine List.dropWhile_cons_of_neg fun blank => ?_
  have same := (Text.hasSmall_of_latin (latin c List.mem_cons_self)).blank blank
  rw [← same, first] at blank
  exact absurd blank (by decide)

/-- The name, a colon and the rest are what is left of a line that gives a value. -/
theorem lineText_of_gives {line : Bytes} {value : Text} (gives : Gives line value) :
    ∃ name rest : Text, lineText line = name ++ CodePoint.ofChar ':' :: rest ∧
      name.lower = fieldName ∧ rest.trim = value := by
  cases gives with
  | @written front name gap _ back same named bare before between after =>
      have blanks (text : Text) (blank : text.isBlank = true) : ∀ c ∈ text, c.isBlank = true :=
        List.all_eq_true.mp blank
      have latin : name.IsLatin := fun c member => by
        refine isLatin_ofBytes line c ?_
        rw [same]
        exact List.mem_append_right _ (List.mem_append_left _ member)
      refine ⟨name, (gap ++ value ++ back).trimEnd, ?_, named, ?_⟩
      · have colon : (CodePoint.ofChar ':').isBlank = false := by decide
        rw [lineText, same, Text.trim, Text.trimStart,
          List.dropWhile_append_of_pos (blanks front before)]
        have starts := trimStart_of_named latin named (CodePoint.ofChar ':' :: (gap ++ value ++ back))
        rw [Text.trimStart] at starts
        rw [starts]
        exact Text.dropEndWhile_append_cons colon name _
      · calc (gap ++ value ++ back).trimEnd.trim
          _ = (gap ++ value ++ back).trim := Text.dropAround_dropEndWhile _
          _ = value.trim := Text.dropAround_append value (blanks gap between) (blanks back after)
          _ = value := bare

theorem lengthValue?_of_gives {line : Bytes} {value : Text} (gives : Gives line value) :
    ∃ rest : Text, lengthValue? (lineText line) = some rest ∧ rest.trim = value := by
  obtain ⟨name, rest, same, named, trimmed⟩ := lineText_of_gives gives
  have latin : name.IsLatin := fun c member =>
    isLatin_lineText line c (same ▸ List.mem_append_left _ member)
  refine ⟨rest, ?_, trimmed⟩
  have size : (name ++ [CodePoint.ofChar ':']).length = lengthName.length := by
    rw [List.length_append, ← length_of_lower latin, named]
    rfl
  have begins : (lineText line).lower.startsWith lengthName = true := by
    have whole := isLatin_lineText line
    rw [Text.lower_of_latin whole, same, List.map_append, ← Text.lower_of_latin latin, named,
      List.map_cons, Text.startsWith, List.isPrefixOf_iff_prefix]
    exact ⟨rest.map CodePoint.latinSmall, rfl⟩
  rw [lengthValue?_lineText, if_pos begins, same, List.append_cons, List.drop_left' size]

/-! ## Other names -/

theorem takeWhile_append_cons {c : CodePoint} {name : Text} (single : c ∉ name) (rest : Text) :
    (name ++ c :: rest).takeWhile (fun d => d ≠ c) = name := by
  rw [List.takeWhile_append_of_pos, List.takeWhile_cons_of_neg (by simp), List.append_nil]
  exact fun d member => decide_eq_true fun same : d = c => single (same ▸ member)

/-- A line of any other name gives no length, even if its name holds that of the length. -/
theorem isOther_of_name {line : Bytes} {name rest : Text}
    (same : lineText line = name ++ CodePoint.ofChar ':' :: rest)
    (single : CodePoint.ofChar ':' ∉ name) (different : name.lower ≠ fieldName) : IsOther line := by
  have latin := isLatin_lineText line
  have named : name.IsLatin := fun c member => latin c (same ▸ List.mem_append_left _ member)
  have colon : CodePoint.latinSmall (CodePoint.ofChar ':') = CodePoint.ofChar ':' := by
    decide +kernel
  have still : CodePoint.ofChar ':' ∉ name.map CodePoint.latinSmall := by
    intro member
    obtain ⟨c, inside, small⟩ := List.mem_map.mp member
    exact single ((Text.hasSmall_of_latin (named c inside)).colon small ▸ inside)
  rw [IsOther, Bool.eq_false_iff]
  intro begins
  rw [Text.lower_of_latin latin, same, List.map_append, List.map_cons, colon, Text.startsWith,
    List.isPrefixOf_iff_prefix] at begins
  obtain ⟨after, equal⟩ := begins
  have known : CodePoint.ofChar ':' ∉ fieldName := by decide
  -- Both names end at the first colon.
  have front := congrArg (List.takeWhile fun d => d ≠ CodePoint.ofChar ':') equal
  have split : lengthName ++ after = fieldName ++ CodePoint.ofChar ':' :: after := rfl
  rw [split, takeWhile_append_cons known, takeWhile_append_cons still] at front
  exact different (by rw [Text.lower_of_latin named, front])

/-! ## Blocks -/

theorem readLength_of_denotes {value rest : Text} {n : Int} (trimmed : rest.trim = value)
    (denotes : Numeral.Denotes value n) :
    readLength rest = if 0 ≤ n then some n.toNat else none := by
  rw [readLength, trimmed, Numeral.toInt?_eq_some_iff.mpr denotes]
  cases n <;> rfl

theorem readLength_of_not_denotes {value rest : Text} (trimmed : rest.trim = value)
    (none : ∀ n, ¬Numeral.Denotes value n) : readLength rest = some 0 := by
  have refused : Numeral.toInt? value = .none := by
    rw [Option.eq_none_iff_forall_ne_some]
    exact fun n read => none n (Numeral.toInt?_eq_some_iff.mp read)
  rw [readLength, trimmed, refused]
  rfl

section

variable {lines : List Bytes} {block : Bytes}

theorem contentLength_eq (made : IsBlock lines block) :
    contentLength block = ((lines.map lineText).findSome? lengthValue?).bind readLength := by
  rw [contentLength, headerLines_of_block made]

theorem findSome?_other (others : ∀ line ∈ lines, IsOther line) :
    (lines.map lineText).findSome? lengthValue? = none := by
  rw [List.findSome?_eq_none_iff]
  intro text member
  obtain ⟨line, inside, rfl⟩ := List.mem_map.mp member
  exact lengthValue?_other (others line inside)

/-- The first line that gives a value decides, whatever comes after it. -/
theorem contentLength_of_first {before after : List Bytes} {line : Bytes} {value : Text}
    (made : IsBlock (before ++ line :: after) block) (others : ∀ other ∈ before, IsOther other)
    (gives : Gives line value) :
    ∃ rest : Text, contentLength block = readLength rest ∧ rest.trim = value := by
  obtain ⟨rest, found, trimmed⟩ := lengthValue?_of_gives gives
  refine ⟨rest, ?_, trimmed⟩
  rw [contentLength_eq made, List.map_append, List.map_cons, List.findSome?_append,
    findSome?_other others, List.findSome?_cons_of_isSome (by simp [found]), found]
  rfl

end

/-- A line either gives a value or gives none. -/
theorem isOther_or_gives (line : Bytes) : IsOther line ∨ ∃ value, Gives line value := by
  cases begins : (lineText line).lower.startsWith lengthName with
  | false => exact .inl begins
  | true =>
      right
      have latin := isLatin_lineText line
      obtain ⟨front, back, parted, before, after⟩ :=
        Text.dropAround_split CodePoint.isBlank (Text.ofBytes line)
      rw [Text.lower_of_latin latin, Text.startsWith, List.isPrefixOf_iff_prefix] at begins
      have split : lengthName = fieldName ++ [CodePoint.ofChar ':'] := rfl
      obtain ⟨others, equal⟩ := begins
      rw [split, List.append_assoc] at equal
      obtain ⟨name, left, same, named, later⟩ := List.map_eq_append_iff.mp equal.symm
      obtain ⟨c, rest, rfl, colon, -⟩ := List.map_eq_cons_iff.mp later
      -- no other character of one byte has the colon as its lower case
      have single : c = CodePoint.ofChar ':' := by
        refine (Text.hasSmall_of_latin (latin c ?_)).colon colon
        simp [same]
      obtain ⟨gap, blanks, trimmed, between, trailing⟩ :=
        Text.dropAround_split CodePoint.isBlank rest
      -- a trimmed value has no blanks left at its ends
      have bare : (Text.trim rest).trim = Text.trim rest := by
        have again := Text.dropAround_append (Text.trim rest) between trailing
        rw [Text.trim_eq_dropAround rest, ← trimmed] at again
        exact again.symm
      have lowered : Text.lower name = fieldName := by
        rw [Text.lower_of_latin fun d member => latin d (by simp [same, member]), named]
      refine ⟨Text.trim rest, .written ?_ lowered bare (List.all_eq_true.mpr before)
        (List.all_eq_true.mpr between)
        (List.all_eq_true.mpr (List.forall_mem_append.mpr ⟨trailing, after⟩))⟩
      calc Text.ofBytes line
        _ = front ++ lineText line ++ back := parted
        _ = front ++ (name ++ CodePoint.ofChar ':' :: rest) ++ back := by rw [same, single]
        _ = _ := by
          conv_lhs => rw [trimmed]
          simp [Text.trim_eq_dropAround]

/--
The length that a block of lines declares.  Lines that give none are passed over, among them those
of any other name.  The first line that gives a value decides: a whole number is the length, a
negative one is no length, and what denotes no whole number counts as zero.
-/
theorem contentLength_of_lines {lines : List Bytes} {block : Bytes} (made : IsBlock lines block) :
    ((∀ line ∈ lines, IsOther line) → contentLength block = none) ∧
      (∀ before line after value, lines = before ++ line :: after →
        (∀ other ∈ before, IsOther other) → Gives line value →
        (∀ n < 10 ^ Numeral.digitLimit, value = Text.ofNat n → contentLength block = some n) ∧
          (∀ n : Nat, Numeral.Denotes value n → contentLength block = some n) ∧
          (∀ n < 0, Numeral.Denotes value n → contentLength block = none) ∧
          ((∀ n, ¬Numeral.Denotes value n) → contentLength block = some 0)) ∧
      (∀ line (name rest : Text), lineText line = name ++ CodePoint.ofChar ':' :: rest →
        CodePoint.ofChar ':' ∉ name → name.lower ≠ fieldName → IsOther line) ∧
      ∀ line, IsOther line ∨ ∃ value, Gives line value := by
  refine ⟨fun others => ?_, ?_, fun _ _ _ => isOther_of_name, isOther_or_gives⟩
  · rw [contentLength_eq made, findSome?_other others]
    rfl
  · rintro before line after value rfl others gives
    obtain ⟨rest, declared, trimmed⟩ := contentLength_of_first made others gives
    have whole (n : Nat) (denotes : Numeral.Denotes value n) : contentLength block = some n := by
      rw [declared, readLength_of_denotes trimmed denotes, if_pos (Int.natCast_nonneg n)]
      rfl
    refine ⟨?_, whole, ?_, fun none => declared.trans (readLength_of_not_denotes trimmed none)⟩
    · rintro n small rfl
      exact whole n (Numeral.toInt?_eq_some_iff.mp (Numeral.toInt?_ofNat small))
    · intro n negative denotes
      rw [declared, readLength_of_denotes trimmed denotes, if_neg (not_le.mpr negative)]

/-- Of three lines the first has another name, and the second decides. -/
theorem contentLength_of_three_lines :
    contentLength (asciiBytes
      "X-Content-Length: 5\r\n content-LENGTH:\t 1_0 \nContent-Length: 7") = some 10 := by
  let first : Bytes := asciiBytes "X-Content-Length: 5"
  let second : Bytes := asciiBytes " content-LENGTH:\t 1_0 "
  let third : Bytes := asciiBytes "Content-Length: 7"
  have block : asciiBytes "X-Content-Length: 5\r\n content-LENGTH:\t 1_0 \nContent-Length: 7" =
      first ++ 0x0D :: 0x0A :: (second ++ 0x0A :: third) := by decide +kernel
  have made : IsBlock [first, second, third]
      (first ++ 0x0D :: 0x0A :: (second ++ 0x0A :: third)) :=
    .carriageReturn (by decide +kernel) (.lineFeed (by decide +kernel) (.last (by decide +kernel)))
  have other : IsOther first := by
    have name : lineText first = Text.ofString "X-Content-Length" ++ CodePoint.ofChar ':' ::
        Text.ofString " 5" := by decide +kernel
    exact isOther_of_name name (by decide +kernel) (by decide +kernel)
  have gives : Gives second "1_0" := by
    have same : Text.ofBytes second = Text.ofString " " ++ (Text.ofString "content-LENGTH" ++
        CodePoint.ofChar ':' :: (Text.ofString "\t " ++ Text.ofString "1_0" ++ Text.ofString " ")) := by
      decide +kernel
    exact .written same (by decide +kernel) (by decide +kernel) rfl rfl rfl
  have denotes : Numeral.Denotes "1_0" 10 := Numeral.toInt?_eq_some_iff.mp (by decide +kernel)
  rw [block]
  exact ((contentLength_of_lines made).2.1 [first] second [third] "1_0" rfl
    (List.forall_mem_singleton.mpr other) gives).2.1 10 denotes

end Frame

end LanguageSession
