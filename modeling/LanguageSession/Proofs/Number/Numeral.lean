import Mathlib
import LanguageSession.Proofs.Text.Trimming

/-!
# Texts that denote whole numbers

The grammar of whole numbers: blanks, perhaps a sign, digits with single underscores between
them, blanks.  The reader of whole numbers accepts exactly these texts, unless they have too many
digits, and reads the number that they denote.
-/

namespace LanguageSession

namespace Numeral

/-! ## Digits -/

/-- Digits, single underscores between them, and the values of the digits. -/
inductive Spells : Text → List Nat → Prop
  | last {c : CodePoint} {digit : Nat} (is : c.digit? = some digit) : Spells [c] [digit]
  | next {c : CodePoint} {digit : Nat} {rest : Text} {digits : List Nat}
      (is : c.digit? = some digit) (later : Spells rest digits) :
      Spells (c :: rest) (digit :: digits)
  | apart {c : CodePoint} {digit : Nat} {rest : Text} {digits : List Nat}
      (is : c.digit? = some digit) (later : Spells rest digits) :
      Spells (c :: CodePoint.ofChar '_' :: rest) (digit :: digits)

theorem Spells.begins {text : Text} {digits : List Nat} (spells : Spells text digits) :
    ∃ c rest first others, text = c :: rest ∧ digits = first :: others ∧ c.digit? = some first := by
  cases spells with
  | last is => exact ⟨_, _, _, _, rfl, rfl, is⟩
  | next is later => exact ⟨_, _, _, _, rfl, rfl, is⟩
  | apart is later => exact ⟨_, _, _, _, rfl, rfl, is⟩

theorem Spells.ends {text : Text} {digits : List Nat} (spells : Spells text digits) :
    ∀ c ∈ text.getLast?, ∃ digit, c.digit? = some digit := by
  induction spells with
  | last is => simpa using ⟨_, is⟩
  | next is later ih =>
      obtain ⟨c, rest, -, -, rfl, -⟩ := later.begins
      simpa using ih
  | apart is later ih =>
      obtain ⟨c, rest, -, -, rfl, -⟩ := later.begins
      simpa using ih

theorem takeDigits_of_spells {text : Text} {digits : List Nat} (spells : Spells text digits) :
    takeDigits text = (digits, []) := by
  induction spells with
  | last is => simp [takeDigits, is]
  | next is later ih =>
      obtain ⟨c, rest, first, -, rfl, -, digit⟩ := later.begins
      have plain : c ≠ CodePoint.ofChar '_' := by
        rintro rfl
        have none : (CodePoint.ofChar '_').digit? = none := by decide
        rw [none] at digit
        cases digit
      simp [takeDigits, is, plain, ih]
  | apart is later ih =>
      obtain ⟨c, rest, first, others, rfl, rfl, -⟩ := later.begins
      simp [takeDigits, is, ih]

theorem takeDigits_nothing {text left : Text} (taken : takeDigits text = ([], left)) :
    left = text := by
  cases text with
  | nil => simpa [takeDigits] using taken.symm
  | cons c rest =>
      rw [takeDigits] at taken
      split at taken
      · cases taken
        rfl
      · split at taken <;> cases taken

/-- Digits are taken to the end of a text only if it is nothing but digits. -/
theorem spells_of_takeDigits {text : Text} {digits : List Nat} (some : digits ≠ [])
    (taken : takeDigits text = (digits, [])) : Spells text digits := by
  induction text using takeDigits.induct generalizing digits with
  | case1 => cases taken; contradiction
  | case2 c rest none =>
      rw [takeDigits, none] at taken
      cases taken
  | case3 c digit is =>
      rw [takeDigits, is] at taken
      cases taken
      exact .last is
  | case4 c digit is next others after left taken' later later' =>
      rw [takeDigits, is] at taken
      simp only [taken'] at taken
      cases taken
      -- an underscore may stand between two digits, but not at the end
      by_cases underscore : next = CodePoint.ofChar '_'
      · subst underscore
        rw [if_pos rfl] at taken'
        rcases found : takeDigits others with ⟨_ | ⟨first, rest⟩, last⟩
        · rw [found] at taken'
          cases taken'
        · rw [found] at taken'
          cases taken'
          exact .apart is (later (by simp) found)
      · rw [if_neg underscore] at taken'
        refine .next is (later' ?_ taken')
        rintro rfl
        cases takeDigits_nothing taken'

/-! ## Whole numbers -/

/-- An optional sign; `true` for a minus. -/
inductive IsSign : Text → Bool → Prop
  | none : IsSign [] false
  | plus : IsSign [CodePoint.ofChar '+'] false
  | minus : IsSign [CodePoint.ofChar '-'] true

def signed (negative : Bool) (n : Nat) : Int := if negative then -n else n

/-- The text is that of a whole number, with at most as many digits as there may be. -/
inductive Denotes : Text → Int → Prop
  | whole {front mark body back : Text} {negative : Bool} {digits : List Nat}
      (before : ∀ c ∈ front, isPadding c = true) (sign : IsSign mark negative)
      (spells : Spells body digits) (short : digits.length ≤ digitLimit)
      (after : ∀ c ∈ back, isPadding c = true) :
      Denotes (front ++ (mark ++ body) ++ back) (signed negative (ofDigits digits))

theorem isPadding_eq_false {c : CodePoint} (visible : c.isBlank = false) : isPadding c = false := by
  rw [isPadding, visible, Bool.false_and]

/-- A sign and digits have no blanks around them. -/
theorem strip_spells {mark body : Text} {negative : Bool} {digits : List Nat}
    (sign : IsSign mark negative) (spells : Spells body digits) :
    strip (mark ++ body) = mark ++ body := by
  obtain ⟨c, rest, first, -, rfl, -, digit⟩ := spells.begins
  rw [Text.strip_eq_dropAround]
  refine Text.dropAround_eq_self ?_ ?_
  · cases sign with
    | none => simpa using isPadding_eq_false (Text.isBlank_of_digit? digit)
    | plus => simpa using (by decide : isPadding (CodePoint.ofChar '+') = false)
    | minus => simpa using (by decide : isPadding (CodePoint.ofChar '-') = false)
  · intro last member
    rw [List.getLast?_append_of_ne_nil _ (by simp)] at member
    obtain ⟨digit', is⟩ := spells.ends last member
    exact isPadding_eq_false (Text.isBlank_of_digit? is)

theorem takeSign_spells {mark body : Text} {negative : Bool} {digits : List Nat}
    (sign : IsSign mark negative) (spells : Spells body digits) :
    takeSign (mark ++ body) = (negative, body) := by
  cases sign with
  | plus => rfl
  | minus => rfl
  | none =>
      obtain ⟨c, rest, first, -, rfl, -, digit⟩ := spells.begins
      have other (sign : CodePoint) (none : sign.digit? = none) : c ≠ sign := by
        rintro rfl
        rw [none] at digit
        cases digit
      rw [List.nil_append, takeSign, if_neg (other _ (by decide)), if_neg (other _ (by decide))]

theorem takeSign_split (text : Text) :
    ∃ mark, IsSign mark (takeSign text).1 ∧ text = mark ++ (takeSign text).2 := by
  cases text with
  | nil => exact ⟨[], .none, rfl⟩
  | cons c rest =>
      rw [takeSign]
      split
      · next minus => exact ⟨_, .minus, by rw [minus]; rfl⟩
      · split
        · next plus => exact ⟨_, .plus, by rw [plus]; rfl⟩
        · exact ⟨[], .none, rfl⟩

theorem toInt?_eq_some_iff {text : Text} {n : Int} : toInt? text = some n ↔ Denotes text n := by
  constructor
  · intro read
    obtain ⟨front, back, parted, before, after⟩ := Text.dropAround_split isPadding text
    obtain ⟨mark, sign, marked⟩ := takeSign_split (strip text)
    rw [toInt?] at read
    rcases taken : takeDigits (takeSign (strip text)).2 with ⟨_ | ⟨digit, digits⟩, _ | ⟨c, left⟩⟩
    all_goals simp only [taken] at read
    · cases read
    · cases read
    · split at read
      · next short =>
        cases read
        have whole := Denotes.whole before sign (spells_of_takeDigits (by simp) taken) short after
        rw [← marked, Text.strip_eq_dropAround, ← parted] at whole
        exact whole
      · cases read
    · cases read
  · rintro ⟨before, sign, spells, short, after⟩
    obtain ⟨-, -, first, others, -, rfl, -⟩ := spells.begins
    rw [toInt?, Text.strip_eq_dropAround, Text.dropAround_append _ before after,
      ← Text.strip_eq_dropAround, strip_spells sign spells, takeSign_spells sign spells]
    simp only [takeDigits_of_spells spells, if_pos short]
    rfl

end Numeral

end LanguageSession
