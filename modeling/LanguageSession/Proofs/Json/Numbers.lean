import Mathlib
import LanguageSession.Json.Writer
import LanguageSession.Proofs.Text.Digits

/-!
# Numbers read back

A number ends where something follows that cannot go on with it: a comma, the end of an
array or an object, or the end of the text.  What the reader makes of a number does not
depend on what follows.
-/

namespace LanguageSession

namespace Json

open Text

def Follows (rest : Text) : Prop :=
  ∀ c ∈ rest.head?, c = CodePoint.ofChar ',' ∨ c = CodePoint.ofChar ']' ∨
    c = CodePoint.ofChar '\x7d'

theorem follows_nil : Follows [] := by
  simp [Follows]

theorem follows_comma (rest : Text) : Follows (CodePoint.ofChar ',' :: rest) := by
  simp [Follows]

theorem follows_bracket (rest : Text) : Follows (CodePoint.ofChar ']' :: rest) := by
  simp [Follows]

theorem follows_brace (rest : Text) : Follows (CodePoint.ofChar '\x7d' :: rest) := by
  simp [Follows]

theorem Follows.cases {rest : Text} (h : Follows rest) :
    rest = [] ∨ ∃ c others, rest = c :: others ∧ isDigit c = false ∧
      c ≠ CodePoint.ofChar '.' ∧ c ≠ CodePoint.ofChar 'e' ∧ c ≠ CodePoint.ofChar 'E' ∧
      c ≠ CodePoint.ofChar '-' ∧ c ≠ CodePoint.ofChar '+' := by
  cases rest with
  | nil => exact .inl rfl
  | cons c others =>
      rcases h c rfl with rfl | rfl | rfl
      all_goals exact .inr ⟨_, others, rfl, by decide⟩

theorem isDigit_iff {c : CodePoint} : isDigit c = true ↔ IsDecimal c := by
  simp [isDigit, IsDecimal]

/-! ## The parts of a number -/

theorem takeWhile_isDigit_append {rest : Text} (text : Text) (h : Follows rest) :
    (text ++ rest).takeWhile isDigit = text.takeWhile isDigit ∧
      (text ++ rest).dropWhile isDigit = text.dropWhile isDigit ++ rest := by
  induction text with
  | nil =>
      rcases h.cases with rfl | ⟨c, others, rfl, stop, -⟩
      · simp
      · simp [stop]
  | cons c text ih =>
      cases digit : isDigit c <;> simp [digit, ih]

theorem head?_append {rest : Text} (text : Text) (h : Follows rest) :
    (text ++ rest).head?.any isDigit = text.head?.any isDigit := by
  cases text with
  | nil =>
      rcases h.cases with rfl | ⟨c, others, rfl, stop, -⟩
      · simp
      · simp [stop]
  | cons c text => simp

theorem readWhole_append {text rest whole after : Text} (h : Follows rest)
    (read : readWhole text = some (whole, after)) :
    readWhole (text ++ rest) = some (whole, after ++ rest) := by
  cases text with
  | nil => simp [readWhole] at read
  | cons c text =>
      obtain ⟨digits, others⟩ := takeWhile_isDigit_append text h
      simp only [readWhole, List.cons_append, digits, others] at read ⊢
      split at read
      · next zero =>
        rw [if_pos zero]
        cases read
        rfl
      · next nonzero =>
        rw [if_neg nonzero]
        split at read
        · next digit =>
          rw [if_pos digit]
          cases read
          rfl
        · cases read

/-- An optional part of a number, when more text follows. -/
def extended {α : Type} (rest : Text) (part : Option (α × Text)) : Option (α × Text) :=
  part.map fun (found, left) => (found, left ++ rest)

@[simp] theorem extended_fst {α : Type} (rest : Text) (part : Option (α × Text)) :
    (extended rest part).map Prod.fst = part.map Prod.fst := by
  cases part <;> rfl

@[simp] theorem extended_snd {α : Type} (rest text : Text) (part : Option (α × Text)) :
    ((extended rest part).map Prod.snd).getD (text ++ rest) =
      (part.map Prod.snd).getD text ++ rest := by
  cases part <;> rfl

@[simp] theorem extended_isNone {α : Type} (rest : Text) (part : Option (α × Text)) :
    (extended rest part).isNone = part.isNone := by
  cases part <;> rfl

theorem readFraction_append {rest : Text} (text : Text) (h : Follows rest) :
    readFraction (text ++ rest) =
      extended rest (readFraction text) := by
  cases text with
  | nil =>
      rcases h.cases with rfl | ⟨c, others, rfl, -, point, -⟩
      · rfl
      · simp [readFraction, ch, point, extended]
  | cons c text =>
      obtain ⟨digits, others⟩ := takeWhile_isDigit_append text h
      simp only [readFraction, List.cons_append, head?_append text h, digits, others]
      split <;> rfl

theorem takeSign_append {rest : Text} (text : Text) (h : Follows rest) :
    Numeral.takeSign (text ++ rest) =
      ((Numeral.takeSign text).1, (Numeral.takeSign text).2 ++ rest) := by
  cases text with
  | nil =>
      rcases h.cases with rfl | ⟨c, others, rfl, -, -, -, -, minus, plus⟩
      · rfl
      · simp [Numeral.takeSign, minus, plus]
  | cons c text =>
      simp only [Numeral.takeSign, List.cons_append]
      split_ifs <;> rfl

theorem readExponent_append {rest : Text} (text : Text) (h : Follows rest) :
    readExponent (text ++ rest) =
      extended rest (readExponent text) := by
  cases text with
  | nil =>
      rcases h.cases with rfl | ⟨c, others, rfl, -, -, small, capital, -⟩
      · rfl
      · simp [readExponent, ch, small, capital, extended]
  | cons c text =>
      obtain ⟨digits, others⟩ := takeWhile_isDigit_append (Numeral.takeSign text).2 h
      simp only [readExponent, List.cons_append, takeSign_append text h,
        head?_append _ h, digits, others]
      split
      · split <;> rfl
      · rfl

/-! ## Whole numbers and doubles -/

def takeMinus : Text → Bool × Text
  | [] => (false, [])
  | c :: rest => if c = CodePoint.ofChar '-' then (true, rest) else (false, c :: rest)

/-- The number of a sign, the digits before the point and what follows them. -/
def numberFrom (opening : Text) (negative : Bool) (whole afterWhole : Text) : Reading Json :=
  let fraction := readFraction afterWhole
  let afterFraction := (fraction.map Prod.snd).getD afterWhole
  let exponent := readExponent afterFraction
  let rest := (exponent.map Prod.snd).getD afterFraction
  if fraction.isNone && exponent.isNone then
    if whole.length ≤ Numeral.digitLimit then
      let n : Int := numberOf whole
      .ok (.integer (if negative then -n else n), rest)
    else .error ⟨.longInteger whole.length, opening⟩
  else
    let fractionDigits := (fraction.map Prod.fst).getD []
    let power := (exponent.map Prod.fst).getD 0 - fractionDigits.length
    .ok (.float (Double.ofDecimal negative (numberOf (whole ++ fractionDigits)) power), rest)

theorem readNumber_eq (opening : Text) :
    readNumber opening =
      match readWhole (takeMinus opening).2 with
      | none => .error ⟨.expectedValue, opening⟩
      | some (whole, afterWhole) =>
        numberFrom opening (takeMinus opening).1 whole afterWhole := by
  cases opening with
  | nil => rfl
  | cons c rest =>
      by_cases minus : c = CodePoint.ofChar '-'
      · subst minus
        rfl
      · have sign : takeMinus (c :: rest) = (false, c :: rest) := if_neg minus
        rw [sign, readNumber]
        simp only [ch, minus, if_false]
        rfl

theorem numberFrom_append {opening afterWhole rest left whole : Text} {negative : Bool}
    {value : Json} (opening' : Text) (h : Follows rest)
    (read : numberFrom opening negative whole afterWhole = .ok (value, left)) :
    numberFrom opening' negative whole (afterWhole ++ rest) = .ok (value, left ++ rest) := by
  simp only [numberFrom, readFraction_append _ h, readExponent_append _ h, extended_fst,
    extended_snd, extended_isNone] at read ⊢
  split at read
  · next plain =>
    rw [if_pos plain]
    split at read
    · next short =>
      rw [if_pos short]
      cases read
      rfl
    · cases read
  · next fractional =>
    rw [if_neg fractional]
    cases read
    rfl

theorem takeMinus_append {text : Text} (rest : Text) (h : text ≠ []) :
    takeMinus (text ++ rest) = ((takeMinus text).1, (takeMinus text).2 ++ rest) := by
  cases text with
  | nil => contradiction
  | cons c text =>
      simp only [takeMinus, List.cons_append]
      split_ifs <;> rfl

theorem readNumber_append {text rest left : Text} {value : Json} (h : Follows rest)
    (read : readNumber text = .ok (value, left)) :
    readNumber (text ++ rest) = .ok (value, left ++ rest) := by
  rw [readNumber_eq] at read ⊢
  have begun : text ≠ [] := by
    rintro rfl
    cases read
  cases whole : readWhole (takeMinus text).2 with
  | none => simp [whole] at read
  | some parts =>
      simp only [whole] at read
      simp only [takeMinus_append rest begun, readWhole_append h whole]
      exact numberFrom_append (text ++ rest) h read

/-! ## Written whole numbers -/

theorem readWhole_ofNat (n : Nat) : readWhole (ofNat n) = some (ofNat n, []) := by
  have digits : ∀ c ∈ ofNat n, isDigit c = true :=
    fun c member => isDigit_iff.mpr (isDecimal_of_mem_ofNat member)
  rcases Nat.eq_zero_or_pos n with rfl | positive
  · rfl
  · obtain ⟨first, rest, same, low, high⟩ := ofNat_eq_cons positive
    rw [same] at digits ⊢
    have nonzero : first ≠ ch '0' := by
      rintro rfl
      exact absurd low (by decide)
    have later : ∀ c ∈ rest, isDigit c = true := fun c member => digits c (by simp [member])
    simp only [readWhole, if_neg nonzero, digits first (by simp), if_true,
      List.takeWhile_eq_self_iff.mpr later, List.dropWhile_eq_nil_iff.mpr later]

theorem takeMinus_ofNat (n : Nat) : takeMinus (ofNat n) = (false, ofNat n) := by
  cases same : ofNat n with
  | nil => rfl
  | cons c rest =>
      have low := (isDecimal_of_mem_ofNat (n := n) (c := c) (by simp [same])).1
      refine if_neg ?_
      rintro rfl
      exact absurd low (by decide)

theorem takeMinus_ofInt (n : Int) :
    takeMinus (ofInt n) = (decide (n < 0), ofNat n.natAbs) := by
  unfold ofInt
  split
  · next negative =>
    rw [decide_eq_true negative]
    rfl
  · next natural =>
    rw [decide_eq_false natural]
    exact takeMinus_ofNat n.natAbs

theorem readNumber_ofInt {n : Int} (rest : Text) (h : Follows rest)
    (short : n.natAbs < 10 ^ Numeral.digitLimit) :
    readNumber (ofInt n ++ rest) = .ok (.integer n, rest) := by
  have digits : (ofNat n.natAbs).length ≤ Numeral.digitLimit :=
    (length_ofNat_le_iff (by decide)).mpr short
  have alone : readNumber (ofInt n) = .ok (.integer n, []) := by
    rw [readNumber_eq, takeMinus_ofInt]
    simp only [readWhole_ofNat, numberFrom, readFraction, readExponent, digits, numberOf_ofNat,
      Option.map_none, Option.getD_none, Option.isNone_none, Bool.and_self, if_true,
      decide_eq_true_eq]
    congr 3
    split <;> omega
  simpa using readNumber_append h alone

end Json

end LanguageSession
