import Mathlib
import LanguageSession.Json.Reader
import LanguageSession.Json.Writer

/-!
# Strings read back

A written string is read back as the same text.  Where every character outside ASCII is
written as escapes, a high surrogate and a low one after it would be read as one character,
so such a text must not hold the two next to each other.  In other forms no escape names a
surrogate, and the reader has nothing to join.
-/

namespace LanguageSession

namespace Json

def quotationMark : CodePoint := CodePoint.ofChar '"'

def backslash : CodePoint := CodePoint.ofChar '\\'

/-! ## The reader, by what stands in front -/

theorem readString_quotationMark (opening rest read : Text) (afterHigh : Bool) :
    readString opening (quotationMark :: rest) afterHigh read = .ok (read.reverse, rest) := by
  rw [readString.eq_def]
  exact if_pos rfl

theorem readString_plain {c : CodePoint} (opening rest read : Text) (afterHigh : Bool)
    (quote : c ≠ quotationMark) (slash : c ≠ backslash) (printable : 0x20 ≤ c.val) :
    readString opening (c :: rest) afterHigh read = readString opening rest false (c :: read) := by
  rw [readString.eq_def]
  exact (if_neg quote).trans ((if_neg slash).trans (if_neg (by omega)))

theorem readString_shortEscape {letter character : CodePoint} (opening rest read : Text)
    (afterHigh : Bool) (other : letter ≠ CodePoint.ofChar 'u')
    (escape : shortEscape? letter = some character) :
    readString opening (backslash :: letter :: rest) afterHigh read =
      readString opening rest false (character :: read) := by
  rw [readString.eq_def]
  refine (if_neg (by decide)).trans ((if_pos rfl).trans ((if_neg other).trans ?_))
  rw [escape]

theorem readString_unitEscape {first second third fourth unit : CodePoint} (opening others : Text)
    (next : CodePoint) (read : Text) (afterHigh : Bool)
    (named : codeUnit? first second third fourth = some unit) :
    readString opening
        (backslash :: CodePoint.ofChar 'u' :: first :: second :: third :: fourth :: next :: others)
        afterHigh read =
      readString opening (next :: others) unit.isHighSurrogate (pushUnit unit afterHigh read) := by
  rw [readString.eq_def]
  refine (if_neg (by decide)).trans ((if_pos rfl).trans ((if_pos rfl).trans ?_))
  simp only [named]

/-! ## Escapes of code units -/

def hexDigit (n : Nat) : CodePoint := CodePoint.ofChar n.digitChar

theorem hexValue?_hexDigit {n : Nat} (h : n < 16) : hexValue? (hexDigit n) = some n := by
  interval_cases n <;> rfl

theorem hex_one {n : Nat} (h : n < 16) : Text.hex 1 n = [hexDigit n] := by
  simp [Text.hex, Text.digits, Text.padZeros, Nat.toDigits_of_lt_base h, hexDigit]

theorem hex_succ {width : Nat} (positive : 0 < width) (n : Nat) :
    Text.hex (width + 1) n = Text.hex width (n / 16) ++ [hexDigit (n % 16)] := by
  by_cases single : n < 16
  · have nought : n / 16 = 0 := Nat.div_eq_of_lt single
    obtain ⟨width, rfl⟩ : ∃ smaller, width = smaller + 1 := ⟨width - 1, by omega⟩
    simp [Text.hex, Text.digits, Text.padZeros, Nat.toDigits_of_lt_base single, nought,
      Nat.mod_eq_of_lt single, List.replicate_succ', hexDigit]
  · simp [Text.hex, Text.digits, Text.padZeros, hexDigit,
      Nat.toDigits_of_base_le (by decide : 1 < 16) (by omega : 16 ≤ n)]

theorem unitEscape_eq {n : Nat} (h : n < 0x10000) :
    unitEscape n = [backslash, CodePoint.ofChar 'u', hexDigit (n / 16 / 16 / 16),
      hexDigit (n / 16 / 16 % 16), hexDigit (n / 16 % 16), hexDigit (n % 16)] := by
  rw [unitEscape, hex_succ (by decide), hex_succ (by decide), hex_succ (by decide),
    hex_one (by omega)]
  rfl

theorem codeUnit?_hexDigit {n : Nat} (h : n < 0x10000) :
    codeUnit? (hexDigit (n / 16 / 16 / 16)) (hexDigit (n / 16 / 16 % 16)) (hexDigit (n / 16 % 16))
      (hexDigit (n % 16)) = some (CodePoint.ofNat n) := by
  simp only [codeUnit?, hexValue?_hexDigit (Nat.mod_lt _ (by decide : 16 > 0)),
    hexValue?_hexDigit (by omega : n / 16 / 16 / 16 < 16), Option.bind_eq_bind,
    Option.bind_some, Option.some.injEq]
  congr 1
  omega

theorem readString_unit {n : Nat} (h : n < 0x10000) (opening others : Text)
    (next : CodePoint) (read : Text) (afterHigh : Bool) :
    readString opening (unitEscape n ++ next :: others) afterHigh read =
      readString opening (next :: others) (CodePoint.ofNat n).isHighSurrogate
        (pushUnit (CodePoint.ofNat n) afterHigh read) := by
  rw [unitEscape_eq h]
  exact readString_unitEscape opening others next read afterHigh (codeUnit?_hexDigit h)

theorem pushUnit_apart {unit : CodePoint} {afterHigh : Bool} (read : Text)
    (apart : afterHigh = true → unit.isLowSurrogate = false) :
    pushUnit unit afterHigh read = unit :: read := by
  cases afterHigh with
  | false => rfl
  | true => simp [pushUnit, apart rfl]

theorem pushUnit_pair {unit : CodePoint} (high : CodePoint) (read : Text)
    (low : unit.isLowSurrogate = true) :
    pushUnit unit true (high :: read) = joinSurrogates high unit :: read := by
  simp [pushUnit, low]

theorem ofNat_val (c : CodePoint) : CodePoint.ofNat c.val = c := by
  simp [CodePoint.ofNat, c.isLt]

/-- The two code units of a character beyond the first 65536 are read as this character. -/
theorem readString_unitPair {c : CodePoint} (large : 0x10000 ≤ c.val) (opening others : Text)
    (next : CodePoint) (read : Text) (afterHigh : Bool) :
    readString opening (unitEscape (0xD800 + (c.val - 0x10000) / 1024) ++
        unitEscape (0xDC00 + (c.val - 0x10000) % 1024) ++ next :: others) afterHigh read =
      readString opening (next :: others) false (c :: read) := by
  have limit := c.isLt
  have high_value : (CodePoint.ofNat (0xD800 + (c.val - 0x10000) / 1024)).val =
      0xD800 + (c.val - 0x10000) / 1024 := by
    rw [CodePoint.ofNat, dif_pos (by omega)]
  have low_value : (CodePoint.ofNat (0xDC00 + (c.val - 0x10000) % 1024)).val =
      0xDC00 + (c.val - 0x10000) % 1024 := by
    rw [CodePoint.ofNat, dif_pos (by omega)]
  -- from here on, only the values of the two units matter
  generalize highUnit : CodePoint.ofNat (0xD800 + (c.val - 0x10000) / 1024) = high at high_value
  generalize lowUnit : CodePoint.ofNat (0xDC00 + (c.val - 0x10000) % 1024) = low at low_value
  have joined : joinSurrogates high low = c := by
    have value : 0x10000 + (high.val - 0xD800) * 1024 + (low.val - 0xDC00) = c.val := by omega
    rw [joinSurrogates, value, ofNat_val]
  have high_first : high.isHighSurrogate = true ∧ high.isLowSurrogate = false := by
    simp [CodePoint.isHighSurrogate, CodePoint.isLowSurrogate, high_value]
    omega
  have low_second : low.isHighSurrogate = false ∧ low.isLowSurrogate = true := by
    simp [CodePoint.isHighSurrogate, CodePoint.isLowSurrogate, low_value]
    omega
  obtain ⟨slash, others', same⟩ : ∃ slash others', unitEscape (0xDC00 + (c.val - 0x10000) % 1024) ++
      next :: others = slash :: others' := ⟨_, _, rfl⟩
  rw [List.append_assoc, same, readString_unit (by omega), highUnit, ← same,
    pushUnit_apart read fun _ => high_first.2, readString_unit (by omega), lowUnit,
    high_first.1, low_second.1, pushUnit_pair high read low_second.2, joined]

/-! ## Characters -/

theorem letterEscape?_eq_some {c : CodePoint} {escape : Text}
    (h : letterEscape? c = some escape) :
    ∃ letter, escape = [backslash, letter] ∧ letter ≠ CodePoint.ofChar 'u' ∧
      shortEscape? letter = some c := by
  unfold letterEscape? at h
  split_ifs at h with quote slash newline carriage tab feed back
  all_goals rw [← Option.some.inj h]
  · exact ⟨CodePoint.ofChar '"', rfl, by decide, by rw [quote]; rfl⟩
  · exact ⟨CodePoint.ofChar '\\', rfl, by decide, by rw [slash]; rfl⟩
  · exact ⟨CodePoint.ofChar 'n', rfl, by decide, congrArg some (Fin.ext newline.symm)⟩
  · exact ⟨CodePoint.ofChar 'r', rfl, by decide, congrArg some (Fin.ext carriage.symm)⟩
  · exact ⟨CodePoint.ofChar 't', rfl, by decide, congrArg some (Fin.ext tab.symm)⟩
  · exact ⟨CodePoint.ofChar 'f', rfl, by decide, congrArg some (Fin.ext feed.symm)⟩
  · exact ⟨CodePoint.ofChar 'b', rfl, by decide, congrArg some (Fin.ext back.symm)⟩

theorem lt_of_letterEscape? {c : CodePoint} {escape : Text} (h : letterEscape? c = some escape) :
    c.val < 0x80 := by
  unfold letterEscape? at h
  split_ifs at h with quote slash
  · rw [quote]
    decide
  · rw [slash]
    decide
  all_goals omega

theorem letterEscape?_eq_none {c : CodePoint} (h : letterEscape? c = none) :
    c ≠ quotationMark ∧ c ≠ backslash := by
  unfold letterEscape? at h
  split_ifs at h with quote slash
  exact ⟨quote, slash⟩

theorem isHighSurrogate_of_lt {c : CodePoint} (small : c.val < 0xD800) :
    c.isHighSurrogate = false := by
  simp [CodePoint.isHighSurrogate]
  omega

theorem isHighSurrogate_of_large {c : CodePoint} (large : 0x10000 ≤ c.val) :
    c.isHighSurrogate = false := by
  simp [CodePoint.isHighSurrogate]
  omega

/-- A high surrogate that was written as an escape is joined with no low one after it. -/
theorem readString_writeCharacter (form : Form) (opening : Text) (c next : CodePoint)
    (others read : Text) {afterHigh : Bool}
    (apart : afterHigh = true → c.isLowSurrogate = false) :
    readString opening (writeCharacter form c ++ next :: others) afterHigh read =
      readString opening (next :: others) (form.ascii && c.isHighSurrogate) (c :: read) := by
  unfold writeCharacter
  cases escape : letterEscape? c with
  | some text =>
      obtain ⟨letter, rfl, other, short⟩ := letterEscape?_eq_some escape
      have small := lt_of_letterEscape? escape
      rw [isHighSurrogate_of_lt (by omega), Bool.and_false]
      exact readString_shortEscape opening (next :: others) read afterHigh other short
  | none =>
      obtain ⟨quote, slash⟩ := letterEscape?_eq_none escape
      dsimp only
      -- a control character and one above ASCII are both escaped by their units; any other
      -- stands for itself
      split_ifs with control ascii
      · rw [readString_unit (by omega), ofNat_val, pushUnit_apart read apart,
          isHighSurrogate_of_lt (by omega), Bool.and_false]
      · simp only [Bool.and_eq_true, decide_eq_true_eq] at ascii
        rw [ascii.1, Bool.true_and, unitEscapes]
        split_ifs with single
        · rw [readString_unit single, ofNat_val, pushUnit_apart read apart]
        · rw [readString_unitPair (by omega), isHighSurrogate_of_large (by omega)]
      · have plain := readString_plain opening (next :: others) read afterHigh quote slash (by omega)
        have single : (form.ascii && c.isHighSurrogate) = false := by
          cases written : form.ascii with
          | false => rfl
          | true =>
              have small : ¬ 0x7E < c.val := by simpa [written] using ascii
              rw [Bool.true_and, isHighSurrogate_of_lt (by omega)]
        rw [single]
        exact plain

/-! ## Whole strings -/

end Json

/-- No high surrogate stands right before a low one. -/
def Text.Unjoined (text : Text) : Prop :=
  text.IsChain fun c d => c.isHighSurrogate = true → d.isLowSurrogate = false

instance (text : Text) : Decidable text.Unjoined := inferInstanceAs (Decidable (List.IsChain _ _))

namespace Json

theorem readString_written (form : Form) (opening text rest read : Text) {afterHigh : Bool}
    (unjoined : form.ascii = true → text.Unjoined)
    (apart : afterHigh = true → ∀ c ∈ text.head?, c.isLowSurrogate = false) :
    readString opening (text.flatMap (writeCharacter form) ++ quotationMark :: rest)
      afterHigh read = .ok (read.reverse ++ text, rest) := by
  induction text generalizing read afterHigh with
  | nil => simpa using readString_quotationMark opening rest read afterHigh
  | cons c text ih =>
      rw [List.flatMap_cons, List.append_assoc]
      cases tail : text.flatMap (writeCharacter form) ++ quotationMark :: rest with
      | nil => simp at tail
      | cons next others =>
          have later : (form.ascii && c.isHighSurrogate) = true →
              ∀ d ∈ text.head?, d.isLowSurrogate = false := by
            intro high d first
            rw [Bool.and_eq_true] at high
            exact (List.isChain_cons.mp (unjoined high.1)).1 d first high.2
          rw [readString_writeCharacter form opening c next others read fun after => apart after c rfl,
            ← tail, ih (c :: read) (fun ascii => (List.isChain_cons.mp (unjoined ascii)).2) later]
          simp

theorem writeString_eq (form : Form) (text : Text) :
    writeString form text =
      quotationMark :: (text.flatMap (writeCharacter form) ++ [quotationMark]) := rfl

theorem readString_writeString {form : Form} {text : Text} (opening rest : Text)
    (unjoined : form.ascii = true → text.Unjoined) :
    readString opening ((writeString form text ++ rest).drop 1) false [] =
      .ok (text, rest) := by
  have read := readString_written form opening text rest [] unjoined (Bool.noConfusion : false = true → _)
  rw [writeString_eq]
  simpa using read

end Json

end LanguageSession
