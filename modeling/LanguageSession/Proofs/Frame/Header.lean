import Mathlib
import LanguageSession.Frame.Encode
import LanguageSession.Frame.Header
import LanguageSession.Proofs.Frame.Chunks
import LanguageSession.Proofs.Text.Digits
import LanguageSession.Proofs.Text.Splitting

/-!
# The header of a written frame

The header that is written in front of a body is found again, and it declares the length
of the body.  A length has at most as many digits as whole numbers may have.
-/

namespace LanguageSession

/-! ## Removing blanks -/

namespace Text

theorem dropWhile_of_all {p : CodePoint → Bool} {text : Text}
    (h : ∀ c ∈ text, p c = false) : text.dropWhile p = text := by
  cases text with
  | nil => rfl
  | cons c rest => rw [List.dropWhile_cons_of_neg (by simp [h c])]

theorem dropEndWhile_append {p : CodePoint → Bool} (before : Text) {text : Text}
    (some : text ≠ []) (h : ∀ c ∈ text, p c = false) :
    dropEndWhile p (before ++ text) = before ++ text := by
  obtain ⟨front, last, rfl⟩ := List.eq_nil_or_concat text |>.resolve_left some
  have stops : p last = false := h last (by simp)
  simp [dropEndWhile, stops]

theorem isBlank_of_isDecimal {c : CodePoint} (h : IsDecimal c) : c.isBlank = false := by
  obtain ⟨low, high⟩ := h
  simp only [CodePoint.isBlank, blankRanges, List.any_cons, List.any_nil, Bool.or_false,
    Bool.or_eq_false_iff, Bool.and_eq_false_iff, decide_eq_false_iff_not]
  omega

theorem trim_ofNat (n : Nat) : trim (ofNat n) = ofNat n := by
  have noBlank : ∀ c ∈ ofNat n, c.isBlank = false :=
    fun c member => isBlank_of_isDecimal (isDecimal_of_mem_ofNat member)
  rw [trim, trimStart, dropWhile_of_all noBlank]
  exact dropEndWhile_append [] (ofNat_ne_nil n) noBlank

end Text

/-! ## Numbers written as digits -/

namespace Numeral

open Text

theorem digit?_of_isDecimal {c : CodePoint} (h : IsDecimal c) :
    c.digit? = some (c.val - 0x30) := by
  obtain ⟨low, high⟩ := h
  simp [CodePoint.digit?, zeroDigits, low, high]

theorem takeDigits_of_isDecimal {digits : Text} (h : ∀ c ∈ digits, IsDecimal c) :
    takeDigits digits = (Json.digitValues digits, []) := by
  induction digits with
  | nil => rfl
  | cons c rest ih =>
      have first := digit?_of_isDecimal (h c (by simp))
      have later := ih fun d member => h d (by simp [member])
      cases rest with
      | nil => simp [takeDigits, first, Json.digitValues]
      | cons next others =>
          have plain : next ≠ CodePoint.ofChar '_' := by
            rintro rfl
            have bounds := (h (CodePoint.ofChar '_') (by simp)).2
            exact absurd bounds (by decide)
          rw [takeDigits, first]
          simp [plain, later, Json.digitValues]

theorem isPadding_of_isDecimal {c : CodePoint} (h : IsDecimal c) : isPadding c = false := by
  simp [isPadding, isBlank_of_isDecimal h]

theorem strip_ofNat (n : Nat) : strip (ofNat n) = ofNat n := by
  have noPadding : ∀ c ∈ ofNat n, isPadding c = false :=
    fun c member => isPadding_of_isDecimal (isDecimal_of_mem_ofNat member)
  rw [strip, dropWhile_of_all noPadding]
  exact dropEndWhile_append [] (ofNat_ne_nil n) noPadding

theorem takeSign_ofNat (n : Nat) : takeSign (ofNat n) = (false, ofNat n) := by
  cases same : ofNat n with
  | nil => rfl
  | cons c rest =>
      obtain ⟨low, high⟩ := isDecimal_of_mem_ofNat (n := n) (c := c) (by simp [same])
      have minus : c ≠ CodePoint.ofChar '-' := by
        rintro rfl
        exact absurd low (by decide)
      have plus : c ≠ CodePoint.ofChar '+' := by
        rintro rfl
        exact absurd low (by decide)
      simp [takeSign, minus, plus]

theorem toInt?_ofNat {n : Nat} (h : n < 10 ^ digitLimit) : toInt? (ofNat n) = some (n : Int) := by
  have short : (Json.digitValues (ofNat n)).length ≤ digitLimit := by
    rw [Json.digitValues, List.length_map]
    exact (length_ofNat_le_iff (by decide)).mpr h
  have number : ofDigits (Json.digitValues (ofNat n)) = n := numberOf_ofNat n
  have digits := takeDigits_of_isDecimal fun c (member : c ∈ ofNat n) =>
    isDecimal_of_mem_ofNat member
  rw [toInt?, strip_ofNat, takeSign_ofNat]
  simp only [digits]
  cases values : Json.digitValues (ofNat n) with
  | nil => simp [Json.digitValues, ofNat_ne_nil] at values
  | cons first rest =>
      rw [values] at short number
      simp only [if_pos short, number, Bool.false_eq_true, if_false]

end Numeral

/-! ## The header -/

namespace Frame

open Text

def headerLine (length : Nat) : Text := Text.ofString "Content-Length: " ++ Text.ofNat length

theorem header_eq (length : Nat) : header length = asciiBytes (headerLine length) ++ separator :=
  rfl

theorem headerLine_bounds {length : Nat} {c : CodePoint} (h : c ∈ headerLine length) :
    0x20 ≤ c.val ∧ c.val < 0x80 := by
  rw [headerLine, List.mem_append] at h
  rcases h with name | digit
  · have bounds : ∀ c ∈ Text.ofString "Content-Length: ", 0x20 ≤ c.val ∧ c.val < 0x80 := by
      simp [Text.ofString, CodePoint.ofChar]
    exact bounds c name
  · obtain ⟨low, high⟩ := isDecimal_of_mem_ofNat digit
    omega

theorem ofBytes_asciiBytes {text : Text} (h : ∀ c ∈ text, c.val < 0x80) :
    Text.ofBytes (asciiBytes text) = text := by
  have same : ∀ c ∈ text, CodePoint.ofByte (UInt8.ofNat c.val) = c := by
    intro c member
    have small := h c member
    apply Fin.ext
    simp only [CodePoint.ofByte, UInt8.toNat_ofNat']
    omega
  rw [Text.ofBytes, asciiBytes, List.map_map]
  exact (List.map_congr_left same).trans (List.map_id text)

theorem findSeparator_line {line : Bytes} (rest : Bytes) (start : Nat)
    (h : (0x0D : UInt8) ∉ line) :
    findSeparator (line ++ separator ++ rest) start = some (start + line.length) := by
  induction line generalizing start with
  | nil => simp [separator, findSeparator, atSeparator]
  | cons byte line ih =>
      rw [List.mem_cons, not_or] at h
      have elsewhere : atSeparator (byte :: line ++ separator ++ rest) = false := by
        have size : 4 ≤ (line ++ separator ++ rest).length + 1 := by
          simp [separator]
          omega
        cases tail : line ++ separator ++ rest with
        | nil => simp [separator] at tail
        | cons second more =>
            obtain _ | ⟨third, _ | ⟨fourth, more⟩⟩ := more
            · simp [List.cons_append, tail, atSeparator]
            · simp [List.cons_append, tail, atSeparator]
            · simp [List.cons_append, tail, atSeparator, Ne.symm h.1]
      simp only [List.cons_append, findSeparator] at elsewhere ⊢
      rw [elsewhere, if_neg Bool.false_ne_true, ih (start + 1) h.2]
      simp only [List.length_cons]
      congr 1
      omega

theorem headerLines_header (length : Nat) :
    headerLines (asciiBytes (headerLine length)) = [headerLine length] := by
  have oneLine : CodePoint.ofChar '\n' ∉ headerLine length := by
    intro member
    exact absurd (headerLine_bounds member).1 (by decide)
  have noBlank : ∀ c ∈ Text.ofNat length, c.isBlank = false :=
    fun c member => isBlank_of_isDecimal (isDecimal_of_mem_ofNat member)
  have trimmed : (headerLine length).trim = headerLine length := by
    have start : trimStart (headerLine length) = headerLine length :=
      List.dropWhile_cons_of_neg (by decide)
    rw [Text.trim, start]
    exact dropEndWhile_append _ (ofNat_ne_nil length) noBlank
  rw [headerLines, ofBytes_asciiBytes fun c member => (headerLine_bounds member).2,
    splitAt_of_not_mem oneLine, List.map_singleton, trimmed]

theorem lengthValue?_headerLine (length : Nat) :
    lengthValue? (headerLine length) = some (CodePoint.ofChar ' ' :: Text.ofNat length) := by
  have named : (Numeral.asciiLower (headerLine length)).startsWith lengthName = true := by
    rw [Text.startsWith, List.isPrefixOf_iff_prefix, Numeral.asciiLower, headerLine,
      List.map_append]
    exact ⟨CodePoint.ofChar ' ' :: Numeral.asciiLower (Text.ofNat length), rfl⟩
  rw [lengthValue?, if_pos named]
  rfl

theorem contentLength_header {length : Nat} (h : length < 10 ^ Numeral.digitLimit) :
    contentLength (asciiBytes (headerLine length)) = some length := by
  have value : Text.trim (CodePoint.ofChar ' ' :: Text.ofNat length) = Text.ofNat length := by
    have blank : (CodePoint.ofChar ' ').isBlank = true := by decide
    rw [Text.trim, trimStart, List.dropWhile_cons_of_pos blank]
    exact trim_ofNat length
  rw [contentLength, headerLines_header]
  simp [lengthValue?_headerLine, readLength, value, Numeral.toInt?_ofNat h]

/-- A written frame is found at the start of a buffer, whatever comes after it. -/
theorem front_wrap {body : Bytes} (rest : Bytes) (h : body.length < 10 ^ Numeral.digitLimit) :
    front (wrap body ++ rest) = .frame body rest := by
  have noReturn : (0x0D : UInt8) ∉ asciiBytes (headerLine body.length) := by
    intro member
    obtain ⟨c, inLine, same⟩ := List.mem_map.mp member
    have bounds := headerLine_bounds inLine
    have value := congrArg UInt8.toNat same
    simp only [UInt8.toNat_ofNat'] at value
    have : (0x0D : UInt8).toNat = 13 := rfl
    omega
  have found := findSeparator_line (body ++ rest) 0 noReturn
  have block := contentLength_header h
  rw [wrap, header_eq, List.append_assoc, front, found]
  simp only [Nat.zero_add, List.append_assoc, List.take_left', block]
  rw [← List.append_assoc, List.drop_left' (by simp)]
  rw [if_pos (hasBytes_iff.mpr (by simp))]
  simp

end Frame

end LanguageSession
