import Mathlib
import LanguageSession.Text.Utf8

/-!
# UTF-8 reads back what it writes

The bytes of a code point that is no surrogate take the decoder from rest to rest and
complete exactly this code point, so a text without surrogates is decoded from its bytes.
-/

namespace LanguageSession

namespace Utf8

theorem toNat_ofNat_of_lt {n : Nat} (h : n < 256) : (UInt8.ofNat n).toNat = n := by
  rw [UInt8.toNat_ofNat']
  omega

theorem ofNat_val (c : CodePoint) : CodePoint.ofNat c.val = c := by
  simp [CodePoint.ofNat, c.isLt]

/-! ## Single bytes -/

theorem start_one {byte : UInt8} (h : byte.toNat < 0x80) :
    step none byte = (none, [.character (CodePoint.ofByte byte)]) := by
  simp [step, start, h]

theorem start_two (byte : UInt8) (low : 0xC2 ≤ byte.toNat) (high : byte.toNat < 0xE0) :
    step none byte = (some ⟨byte.toNat - 0xC0, [byte], 0, 0x80, 0xBF⟩, []) := by
  simp only [step, start]
  rw [if_neg (by omega), if_neg (by omega), if_pos high]

/-- The second byte of three may not make the code point smaller than three bytes, or a surrogate. -/
theorem start_three (byte : UInt8) (low : 0xE0 ≤ byte.toNat) (high : byte.toNat < 0xF0) :
    step none byte =
      (some ⟨byte.toNat - 0xE0, [byte], 1, if byte.toNat = 0xE0 then 0xA0 else 0x80,
        if byte.toNat = 0xED then 0x9F else 0xBF⟩, []) := by
  simp only [step, start]
  rw [if_neg (by omega), if_neg (by omega), if_neg (by omega)]
  by_cases first : byte.toNat = 0xE0
  · simp [first]
  · rw [if_neg first]
    by_cases last : byte.toNat = 0xED
    · simp [last]
    · simp [first, last, high]

/-- The second byte of four may not make the code point smaller than four bytes, or too great. -/
theorem start_four (byte : UInt8) (low : 0xF0 ≤ byte.toNat) (high : byte.toNat ≤ 0xF4) :
    step none byte =
      (some ⟨byte.toNat - 0xF0, [byte], 2, if byte.toNat = 0xF0 then 0x90 else 0x80,
        if byte.toNat = 0xF4 then 0x8F else 0xBF⟩, []) := by
  simp only [step, start]
  rw [if_neg (by omega), if_neg (by omega), if_neg (by omega), if_neg (by omega),
    if_neg (by omega), if_neg (by omega)]
  by_cases first : byte.toNat = 0xF0
  · simp [first]
  · rw [if_neg first]
    by_cases last : byte.toNat = 0xF4
    · simp [last]
    · simp [first, last, show byte.toNat < 0xF4 by omega]

/-- The other bytes from 0x80 on start no sequence: its number would be too small or too great. -/
theorem start_stray {byte : UInt8} (high : 0x80 ≤ byte.toNat)
    (stray : byte.toNat < 0xC2 ∨ 0xF4 < byte.toNat) :
    step none byte = (none, [.malformed [byte] .invalidStart]) := by
  simp only [step, start]
  rw [if_neg (by omega)]
  by_cases low : byte.toNat < 0xC2
  · rw [if_pos low]
  · rw [if_neg low, if_neg (by omega), if_neg (by omega), if_neg (by omega), if_neg (by omega),
      if_neg (by omega), if_neg (by omega), if_neg (by omega)]

theorem step_last {value low high : Nat} {seen : Bytes} {byte : UInt8}
    (above : low ≤ byte.toNat) (below : byte.toNat ≤ high) :
    step (some ⟨value, seen, 0, low, high⟩) byte =
      (none, [.character (CodePoint.ofNat (value * 64 + (byte.toNat - 0x80)))]) := by
  simp [step, above, below]

theorem step_more {value low high more : Nat} {seen : Bytes} {byte : UInt8}
    (above : low ≤ byte.toNat) (below : byte.toNat ≤ high) :
    step (some ⟨value, seen, more + 1, low, high⟩) byte =
      (some ⟨value * 64 + (byte.toNat - 0x80), byte :: seen, more, 0x80, 0xBF⟩, []) := by
  simp [step, above, below]

theorem collect_of_step {state next : Option Unfinished} {completed read : List Piece}
    {byte : UInt8} (h : step state byte = (next, completed)) :
    collect (state, read) byte = (next, completed.reverse ++ read) := by
  simp [collect, h]

/-! ## Code points -/

theorem isSurrogate_eq_false_iff {c : CodePoint} :
    c.isSurrogate = false ↔ c.val < 0xD800 ∨ 0xDFFF < c.val := by
  simp [CodePoint.isSurrogate]
  omega

theorem collect_encodeCodePoint {c : CodePoint} (read : List Piece)
    (h : c.isSurrogate = false) :
    (encodeCodePoint c).foldl collect (none, read) = (none, .character c :: read) := by
  rw [isSurrogate_eq_false_iff] at h
  have limit := c.isLt
  unfold encodeCodePoint
  split
  · next one =>
    have value := toNat_ofNat_of_lt (n := c.val) (by omega)
    have same : CodePoint.ofByte (UInt8.ofNat c.val) = c := by
      apply Fin.ext
      simpa [CodePoint.ofByte] using value
    have only : step none (UInt8.ofNat c.val) = (none, [.character c]) := by
      rw [start_one (by omega), same]
    simp [collect_of_step only]
  split
  · next two =>
    have first := toNat_ofNat_of_lt (n := 0xC0 + c.val / 64) (by omega)
    have second := toNat_ofNat_of_lt (n := 0x80 + c.val % 64) (by omega)
    have begun := start_two (UInt8.ofNat (0xC0 + c.val / 64)) (by omega) (by omega)
    have number : (0xC0 + c.val / 64 - 0xC0) * 64 + (0x80 + c.val % 64 - 0x80) = c.val := by omega
    rw [List.foldl_cons, collect_of_step begun, List.foldl_cons,
      collect_of_step (step_last (by omega) (by omega)), first, second, number, ofNat_val]
    rfl
  split
  · next three =>
    have first := toNat_ofNat_of_lt (n := 0xE0 + c.val / 4096) (by omega)
    have second := toNat_ofNat_of_lt (n := 0x80 + c.val / 64 % 64) (by omega)
    have third := toNat_ofNat_of_lt (n := 0x80 + c.val % 64) (by omega)
    have begun := start_three (UInt8.ofNat (0xE0 + c.val / 4096)) (by omega) (by omega)
    have number : ((0xE0 + c.val / 4096 - 0xE0) * 64 + (0x80 + c.val / 64 % 64 - 0x80)) * 64 +
        (0x80 + c.val % 64 - 0x80) = c.val := by omega
    rw [List.foldl_cons, collect_of_step begun, List.foldl_cons,
      collect_of_step (step_more (by split <;> omega) (by split <;> omega)), List.foldl_cons,
      collect_of_step (step_last (by omega) (by omega)), first, second, third, number, ofNat_val]
    rfl
  · next four =>
    have first := toNat_ofNat_of_lt (n := 0xF0 + c.val / 262144) (by omega)
    have second := toNat_ofNat_of_lt (n := 0x80 + c.val / 4096 % 64) (by omega)
    have third := toNat_ofNat_of_lt (n := 0x80 + c.val / 64 % 64) (by omega)
    have fourth := toNat_ofNat_of_lt (n := 0x80 + c.val % 64) (by omega)
    have begun := start_four (UInt8.ofNat (0xF0 + c.val / 262144)) (by omega) (by omega)
    have number : (((0xF0 + c.val / 262144 - 0xF0) * 64 + (0x80 + c.val / 4096 % 64 - 0x80)) * 64 +
        (0x80 + c.val / 64 % 64 - 0x80)) * 64 + (0x80 + c.val % 64 - 0x80) = c.val := by omega
    rw [List.foldl_cons, collect_of_step begun, List.foldl_cons,
      collect_of_step (step_more (by split <;> omega) (by split <;> omega)), List.foldl_cons,
      collect_of_step (step_more (by omega) (by omega)), List.foldl_cons,
      collect_of_step (step_last (by omega) (by omega)), first, second, third, fourth, number,
      ofNat_val]
    rfl

/-! ## Texts -/

theorem collect_bytesOf {text : Text} (read : List Piece)
    (h : ∀ c ∈ text, c.isSurrogate = false) :
    (bytesOf text).foldl collect (none, read) =
      (none, (text.map Piece.character).reverse ++ read) := by
  induction text generalizing read with
  | nil => rfl
  | cons c rest ih =>
      rw [bytesOf, List.flatMap_cons, List.foldl_append, collect_encodeCodePoint read (h c (by simp))]
      rw [← bytesOf, ih _ fun d member => h d (by simp [member])]
      simp

theorem pieces_bytesOf {text : Text} (h : ∀ c ∈ text, c.isSurrogate = false) :
    pieces (bytesOf text) = text.map Piece.character := by
  simp [pieces, collect_bytesOf [] h, finish]

theorem readPieces_characters (text : Text) (position : Nat) (read : Text) :
    readPieces (text.map Piece.character) position read = .ok (read.reverse ++ text) := by
  induction text generalizing position read with
  | nil => simp [readPieces]
  | cons c rest ih => simp [readPieces, ih]

theorem findSurrogates_eq_none_iff {text : Text} :
    findSurrogates text = none ↔ ∀ c ∈ text, c.isSurrogate = false := by
  unfold findSurrogates
  cases found : text.dropWhile fun c => !c.isSurrogate with
  | nil => simpa [List.dropWhile_eq_nil_iff] using found
  | cons c rest =>
      simp only [reduceCtorEq, false_iff, not_forall]
      have here : c ∈ text := (List.dropWhile_sublist _).mem (by rw [found]; simp)
      have stop := List.head_dropWhile_not (fun c : CodePoint => !c.isSurrogate)
        (l := text) (by simp [found])
      exact ⟨c, here, by simpa [found] using stop⟩

theorem bytesOf_of_encode {text : Text} {bytes : Bytes} (h : encode text = .ok bytes) :
    (∀ c ∈ text, c.isSurrogate = false) ∧ bytes = bytesOf text := by
  unfold encode at h
  split at h
  · cases h
  · next none => exact ⟨findSurrogates_eq_none_iff.mp none, by simpa using h.symm⟩

theorem decode_of_encode {text : Text} {bytes : Bytes} (h : encode text = .ok bytes) :
    decode bytes = .ok text := by
  obtain ⟨scalar, rfl⟩ := bytesOf_of_encode h
  rw [decode, pieces_bytesOf scalar, readPieces_characters]
  rfl

end Utf8

@[simp] theorem CodePoint.isSurrogate_ofChar (character : Char) :
    (ofChar character).isSurrogate = false := by
  have valid := character.valid
  simp only [UInt32.isValidChar, Nat.isValidChar] at valid
  have same : (ofChar character).val = character.val.toNat := rfl
  rw [Utf8.isSurrogate_eq_false_iff, same]
  omega

end LanguageSession
