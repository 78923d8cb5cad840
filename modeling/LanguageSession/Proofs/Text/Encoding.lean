import Mathlib
import LanguageSession.Proofs.Text.Digits
import LanguageSession.Proofs.Text.Utf8

/-!
# Texts and strings

A text without surrogates is a string, and its bytes are those of the string.  Encoding
fails exactly at the first run of surrogates, and decoding succeeds exactly on the bytes of
strings.
-/

namespace LanguageSession

namespace Text

theorem ofChar_ofNat {c : CodePoint} (scalar : c.isSurrogate = false) :
    CodePoint.ofChar (Char.ofNat c.val) = c := by
  rw [Utf8.isSurrogate_eq_false_iff] at scalar
  have limit := c.isLt
  have valid : Nat.isValidChar c.val := by
    simp only [Nat.isValidChar]
    omega
  apply Fin.ext
  simp [CodePoint.ofChar, Char.ofNat, valid, Char.ofNatAux, Char.toNat]

theorem ofString_toString {text : Text} (scalar : ∀ c ∈ text, c.isSurrogate = false) :
    ofString (toString text) = text := by
  have each : ∀ c ∈ text, CodePoint.ofChar
      (if c.isSurrogate then Char.ofNat 0xFFFD else Char.ofNat c.val) = c := by
    intro c member
    rw [if_neg (by simp [scalar c member]), ofChar_ofNat (scalar c member)]
  rw [ofString, toString, String.toList_ofList, List.map_map]
  exact (List.map_congr_left each).trans text.map_id

theorem ofNat_eq_ofString (n : Nat) : ofNat n = ofString (ToString.toString n) := by
  simp [ofNat, digits, ofString, ToString.toString, Nat.repr]

theorem ofString_append (s t : String) : ofString (s ++ t) = ofString s ++ ofString t := by
  simp [ofString]

theorem isSurrogate_of_mem_ofString {s : String} {c : CodePoint} (member : c ∈ ofString s) :
    c.isSurrogate = false := by
  obtain ⟨character, -, rfl⟩ := List.mem_map.mp member
  exact CodePoint.isSurrogate_ofChar character

end Text

namespace Utf8

/-! ## The bytes of a string -/

theorem encodeCodePoint_ofChar (character : Char) :
    encodeCodePoint (CodePoint.ofChar character) = String.utf8EncodeChar character := by
  have limit := CodePoint.char_lt_limit character
  have value : (CodePoint.ofChar character).val = character.val.toNat := rfl
  have same : character.toNat = character.val.toNat := rfl
  rw [same] at limit
  simp only [encodeCodePoint, String.utf8EncodeChar, value]
  generalize character.val.toNat = v at limit
  split_ifs with one below two below' three below'' <;> first | omega | skip
  · rfl
  · rw [Nat.add_comm 0xC0, Nat.add_comm 0x80, Nat.mod_eq_of_lt (a := v / 64) (by omega)]
  · rw [Nat.add_comm 0xE0, Nat.add_comm 0x80, Nat.add_comm 0x80,
      Nat.mod_eq_of_lt (a := v / 4096) (by omega)]
  · rw [Nat.add_comm 0xF0, Nat.add_comm 0x80, Nat.add_comm 0x80, Nat.add_comm 0x80,
      Nat.mod_eq_of_lt (a := v / 262144) (by omega)]

theorem bytesOf_ofString (s : String) : bytesOf (Text.ofString s) = s.toUTF8.data.toList := by
  have characters : bytesOf (Text.ofString s) = s.toList.flatMap String.utf8EncodeChar := by
    rw [bytesOf, Text.ofString, List.flatMap_map]
    exact List.flatMap_congr fun character _ => encodeCodePoint_ofChar character
  rw [characters, String.toUTF8_eq_toByteArray, ← String.utf8Encode_toList, List.utf8Encode,
    List.toList_data_toByteArray]

theorem bytesOf_eq_utf8 {text : Text} (scalar : ∀ c ∈ text, c.isSurrogate = false) :
    bytesOf text = (Text.toString text).toUTF8.data.toList := by
  rw [← bytesOf_ofString, Text.ofString_toString scalar]

/-! ## The first run of surrogates -/

/-- Nothing in front of the run is a surrogate, and neither is what follows it. -/
def FirstRun (text : Text) (run : SurrogateRun) : Prop :=
  ∃ before members after, text = before ++ members ++ after ∧
    (∀ c ∈ before, c.isSurrogate = false) ∧ (∀ c ∈ members, c.isSurrogate = true) ∧
    (∀ c ∈ after.head?, c.isSurrogate = false) ∧ members.head? = some run.member ∧
    run.start = before.length ∧ run.last + 1 = before.length + members.length

theorem firstRun_of_findSurrogates {text : Text} {run : SurrogateRun}
    (found : findSurrogates text = some run) : FirstRun text run := by
  unfold findSurrogates at found
  have whole := List.takeWhile_append_dropWhile (p := fun c : CodePoint => !c.isSurrogate) (l := text)
  cases stop : text.dropWhile fun c => !c.isSurrogate with
  | nil => simp [stop] at found
  | cons c rest =>
      -- the run begins where the characters stop that are no surrogates
      have first : c.isSurrogate = true := by
        have head := List.head_dropWhile_not (fun c : CodePoint => !c.isSurrogate)
          (l := text) (by simp [stop])
        simpa [stop] using head
      rw [stop] at found whole
      have same := Option.some.inj found
      refine ⟨text.takeWhile fun c => !c.isSurrogate, c :: rest.takeWhile CodePoint.isSurrogate,
        rest.dropWhile CodePoint.isSurrogate, ?_, ?_, ?_, ?_, ?_, ?_, ?_⟩
      · rw [List.append_assoc, List.cons_append, List.takeWhile_append_dropWhile]
        exact whole.symm
      · intro d member
        simpa using List.mem_takeWhile_imp member
      · intro d member
        rcases List.mem_cons.mp member with rfl | later
        · exact first
        · exact List.mem_takeWhile_imp later
      · intro d head
        have other := List.head?_dropWhile_not CodePoint.isSurrogate rest
        rw [Option.mem_def.mp head] at other
        simpa using other
      · rw [← same]
        rfl
      · rw [← same]
      · rw [← same]
        simp only [List.length_cons]
        omega

theorem findSurrogates_of_firstRun {text : Text} {run : SurrogateRun}
    (first : FirstRun text run) : findSurrogates text = some run := by
  obtain ⟨before, members, after, rfl, plain, surrogate, ended, head, start, last⟩ := first
  cases members with
  | nil => cases head
  | cons c members =>
      rw [List.forall_mem_cons] at surrogate
      have skipped : (before ++ (c :: members) ++ after).dropWhile (fun c => !c.isSurrogate) =
          c :: (members ++ after) := by
        rw [List.append_assoc, List.dropWhile_append_of_pos (by simpa using plain)]
        simp [surrogate.1]
      have taken : (before ++ (c :: members) ++ after).takeWhile (fun c => !c.isSurrogate) =
          before := by
        rw [List.append_assoc, List.takeWhile_append_of_pos (by simpa using plain)]
        simp [surrogate.1]
      have rest : (members ++ after).takeWhile CodePoint.isSurrogate = members := by
        rw [List.takeWhile_append_of_pos surrogate.2]
        cases after with
        | nil => simp
        | cons d after => simp [ended d rfl]
      have final : before.length + members.length = run.last := by
        simp only [List.length_cons] at last
        omega
      unfold findSurrogates
      rw [skipped]
      dsimp only
      rw [taken, rest, final, ← start, Option.some.inj head]

theorem findSurrogates_eq_some_iff {text : Text} {run : SurrogateRun} :
    findSurrogates text = some run ↔ FirstRun text run :=
  ⟨firstRun_of_findSurrogates, findSurrogates_of_firstRun⟩

/-! ## Decoding accepts nothing else -/

def readFrom : Option Unfinished → Bytes → List Piece
  | state, [] => finish state
  | state, byte :: rest => (step state byte).2 ++ readFrom (step state byte).1 rest

theorem foldl_collect (bytes : Bytes) (state : Option Unfinished) (read : List Piece) :
    (bytes.foldl collect (state, read)).2.reverse ++ finish (bytes.foldl collect (state, read)).1 =
      read.reverse ++ readFrom state bytes := by
  induction bytes generalizing state read with
  | nil => rfl
  | cons byte rest ih => simp [collect, readFrom, ih]

theorem pieces_eq_readFrom (bytes : Bytes) : pieces bytes = readFrom none bytes :=
  foldl_collect bytes none []

theorem readPieces_eq_ok {read : List Piece} {position : Nat} {before text : Text}
    (accepted : readPieces read position before = .ok text) :
    ∃ characters, read = characters.map Piece.character ∧ text = before.reverse ++ characters := by
  induction read generalizing position before with
  | nil => exact ⟨[], rfl, by simpa [readPieces] using accepted.symm⟩
  | cons piece read ih =>
      cases piece with
      | malformed bytes defect => cases accepted
      | character c =>
          obtain ⟨characters, rfl, rfl⟩ := ih accepted
          exact ⟨c :: characters, rfl, by simp⟩

theorem goes_on {unfinished : Unfinished} {bytes : Bytes} {text : Text}
    (read : readFrom (some unfinished) bytes = text.map Piece.character) :
    ∃ byte rest, bytes = byte :: rest ∧ unfinished.low ≤ byte.toNat ∧
      byte.toNat ≤ unfinished.high := by
  cases bytes with
  | nil => cases text <;> cases read
  | cons byte rest =>
      refine ⟨byte, rest, rfl, ?_⟩
      by_contra outside
      rw [readFrom, step, if_neg (by simpa using outside)] at read
      cases text <;> cases read

theorem ofNat_eq_byte (byte : UInt8) {n : Nat} (same : n = byte.toNat) : UInt8.ofNat n = byte := by
  rw [same, UInt8.ofNat_toNat]

theorem ofNat_val_of_lt {n : Nat} (limit : n < 0x110000) : (CodePoint.ofNat n).val = n := by
  simp [CodePoint.ofNat, limit]

def BeginsCharacter (bytes : Bytes) : Prop :=
  ∃ c later, c.isSurrogate = false ∧ bytes = encodeCodePoint c ++ later

theorem begins_two {first : UInt8} {bytes : Bytes} {text : Text} (low : 0xC2 ≤ first.toNat)
    (high : first.toNat < 0xE0)
    (read : readFrom none (first :: bytes) = text.map Piece.character) :
    BeginsCharacter (first :: bytes) := by
  rw [readFrom, start_two first low high] at read
  obtain ⟨second, later, rfl, above, below⟩ := goes_on read
  dsimp only at above below
  have value := ofNat_val_of_lt (n := (first.toNat - 0xC0) * 64 + (second.toNat - 0x80)) (by omega)
  refine ⟨_, later, isSurrogate_eq_false_iff.mpr (by rw [value]; omega), ?_⟩
  rw [encodeCodePoint, value, if_neg (by omega), if_pos (by omega),
    ofNat_eq_byte first (by omega), ofNat_eq_byte second (by omega)]
  rfl

theorem begins_three {first : UInt8} {bytes : Bytes} {text : Text} (low : 0xE0 ≤ first.toNat)
    (high : first.toNat < 0xF0)
    (read : readFrom none (first :: bytes) = text.map Piece.character) :
    BeginsCharacter (first :: bytes) := by
  rw [readFrom, start_three first low high] at read
  obtain ⟨second, bytes, rfl, lower, upper⟩ := goes_on read
  dsimp only at lower upper
  rw [List.nil_append, readFrom, step_more lower upper] at read
  obtain ⟨third, later, rfl, above, below⟩ := goes_on read
  dsimp only at above below
  have least : 0x80 ≤ second.toNat ∧ (first.toNat = 0xE0 → 0xA0 ≤ second.toNat) := by
    split at lower <;> omega
  have greatest : second.toNat ≤ 0xBF ∧ (first.toNat = 0xED → second.toNat ≤ 0x9F) := by
    split at upper <;> omega
  have value := ofNat_val_of_lt
    (n := ((first.toNat - 0xE0) * 64 + (second.toNat - 0x80)) * 64 + (third.toNat - 0x80))
    (by omega)
  refine ⟨_, later, isSurrogate_eq_false_iff.mpr (by rw [value]; omega), ?_⟩
  rw [encodeCodePoint, value, if_neg (by omega), if_neg (by omega), if_pos (by omega),
    ofNat_eq_byte first (by omega), ofNat_eq_byte second (by omega),
    ofNat_eq_byte third (by omega)]
  rfl

theorem begins_four {first : UInt8} {bytes : Bytes} {text : Text} (low : 0xF0 ≤ first.toNat)
    (high : first.toNat ≤ 0xF4)
    (read : readFrom none (first :: bytes) = text.map Piece.character) :
    BeginsCharacter (first :: bytes) := by
  rw [readFrom, start_four first low high] at read
  obtain ⟨second, bytes, rfl, lower, upper⟩ := goes_on read
  dsimp only at lower upper
  rw [List.nil_append, readFrom, step_more lower upper] at read
  obtain ⟨third, bytes, rfl, above, below⟩ := goes_on read
  dsimp only at above below
  rw [List.nil_append, readFrom, step_more above below] at read
  obtain ⟨fourth, later, rfl, after, before⟩ := goes_on read
  dsimp only at after before
  have least : 0x80 ≤ second.toNat ∧ (first.toNat = 0xF0 → 0x90 ≤ second.toNat) := by
    split at lower <;> omega
  have greatest : second.toNat ≤ 0xBF ∧ (first.toNat = 0xF4 → second.toNat ≤ 0x8F) := by
    split at upper <;> omega
  have value := ofNat_val_of_lt
    (n := (((first.toNat - 0xF0) * 64 + (second.toNat - 0x80)) * 64 + (third.toNat - 0x80)) * 64 +
      (fourth.toNat - 0x80)) (by omega)
  refine ⟨_, later, isSurrogate_eq_false_iff.mpr (by rw [value]; omega), ?_⟩
  rw [encodeCodePoint, value, if_neg (by omega), if_neg (by omega), if_neg (by omega),
    ofNat_eq_byte first (by omega), ofNat_eq_byte second (by omega),
    ofNat_eq_byte third (by omega), ofNat_eq_byte fourth (by omega)]
  rfl

theorem begins_character {first : UInt8} {bytes : Bytes} {text : Text}
    (read : readFrom none (first :: bytes) = text.map Piece.character) :
    BeginsCharacter (first :: bytes) := by
  by_cases one : first.toNat < 0x80
  · have value : (CodePoint.ofByte first).val = first.toNat := rfl
    refine ⟨CodePoint.ofByte first, bytes, isSurrogate_eq_false_iff.mpr (by omega), ?_⟩
    rw [encodeCodePoint, value, if_pos one, ofNat_eq_byte first rfl, List.singleton_append]
  by_cases stray : first.toNat < 0xC2 ∨ 0xF4 < first.toNat
  · rw [readFrom, start_stray (by omega) stray] at read
    cases text <;> cases read
  by_cases two : first.toNat < 0xE0
  · exact begins_two (by omega) two read
  by_cases three : first.toNat < 0xF0
  · exact begins_three (by omega) three read
  · exact begins_four (by omega) (by omega) read

theorem readFrom_encodeCodePoint {c : CodePoint} (scalar : c.isSurrogate = false) (later : Bytes) :
    readFrom none (encodeCodePoint c ++ later) = .character c :: readFrom none later := by
  have whole := foldl_collect (encodeCodePoint c ++ later) none []
  rw [List.foldl_append, collect_encodeCodePoint [] scalar] at whole
  have rest := foldl_collect later none [.character c]
  rw [rest] at whole
  simpa using whole.symm

theorem encodeCodePoint_ne_nil (c : CodePoint) : encodeCodePoint c ≠ [] := by
  unfold encodeCodePoint
  split_ifs <;> simp

/-- The bytes that became characters are the bytes of these characters. -/
theorem bytesOf_of_readFrom {bytes : Bytes} {text : Text}
    (read : readFrom none bytes = text.map Piece.character) :
    bytes = bytesOf text ∧ ∀ c ∈ text, c.isSurrogate = false := by
  induction size : bytes.length using Nat.strongRecOn generalizing bytes text with
  | ind n ih =>
      cases bytes with
      | nil =>
          cases text with
          | nil => simp [bytesOf]
          | cons c text => cases read
      | cons first bytes =>
          obtain ⟨c, later, scalar, same⟩ := begins_character read
          rw [same, readFrom_encodeCodePoint scalar] at read
          cases text with
          | nil => cases read
          | cons d text =>
              rw [List.map_cons, List.cons.injEq, Piece.character.injEq] at read
              obtain ⟨rfl, read⟩ := read
              have shorter : later.length < n := by
                have longer := List.length_pos_of_ne_nil (encodeCodePoint_ne_nil c)
                rw [← size, same, List.length_append]
                omega
              obtain ⟨rest, scalars⟩ := ih later.length shorter read rfl
              refine ⟨?_, List.forall_mem_cons.mpr ⟨scalar, scalars⟩⟩
              rw [same, bytesOf, List.flatMap_cons, ← bytesOf, ← rest]

/-- The decoder accepts the bytes of strings and nothing else. -/
theorem decode_eq_ok_iff {bytes : Bytes} {text : Text} :
    decode bytes = .ok text ↔
      ∃ s : String, bytes = s.toUTF8.data.toList ∧ text = Text.ofString s := by
  constructor
  · intro decoded
    obtain ⟨_, same, rfl⟩ := readPieces_eq_ok decoded
    obtain ⟨bytes_eq, scalar⟩ := bytesOf_of_readFrom (pieces_eq_readFrom bytes ▸ same)
    refine ⟨Text.toString text, bytes_eq.trans (bytesOf_eq_utf8 scalar), ?_⟩
    exact (Text.ofString_toString scalar).symm
  · rintro ⟨s, rfl, rfl⟩
    rw [← bytesOf_ofString, decode, pieces_bytesOf fun _ => Text.isSurrogate_of_mem_ofString,
      readPieces_characters]
    rfl

end Utf8

end LanguageSession
