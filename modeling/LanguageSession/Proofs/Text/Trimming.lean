import Mathlib
import LanguageSession.Number.Numeral

/-!
# Trimming

What satisfies a test is removed at both ends of a text.  More of it around the text changes
nothing, and what is left neither begins nor ends with it.
-/

namespace LanguageSession

namespace Text

def dropAround (p : CodePoint → Bool) (text : Text) : Text := dropEndWhile p (text.dropWhile p)

theorem trim_eq_dropAround (text : Text) : text.trim = dropAround CodePoint.isBlank text := rfl

theorem strip_eq_dropAround (text : Text) : Numeral.strip text = dropAround Numeral.isPadding text :=
  rfl

section

variable {p : CodePoint → Bool}

theorem dropEndWhile_append_of_all (text : Text) {back : Text} (all : ∀ c ∈ back, p c = true) :
    dropEndWhile p (text ++ back) = dropEndWhile p text := by
  rw [dropEndWhile, dropEndWhile, List.reverse_append, List.dropWhile_append_of_pos]
  exact fun c member => all c (List.mem_reverse.mp member)

theorem dropEndWhile_append_cons {c : CodePoint} (stays : p c = false) (before after : Text) :
    dropEndWhile p (before ++ c :: after) = before ++ c :: dropEndWhile p after := by
  rw [dropEndWhile, dropEndWhile, List.reverse_append, List.reverse_cons, List.append_assoc,
    List.dropWhile_append, List.singleton_append, List.dropWhile_cons_of_neg (by simp [stays])]
  split
  · next nothing => simp [List.isEmpty_iff.mp nothing]
  · simp

theorem dropAround_append (core : Text) {front back : Text} (before : ∀ c ∈ front, p c = true)
    (after : ∀ c ∈ back, p c = true) :
    dropAround p (front ++ core ++ back) = dropAround p core := by
  rw [dropAround, List.append_assoc, List.dropWhile_append_of_pos before, List.dropWhile_append]
  split
  · next nothing =>
    rw [List.dropWhile_eq_nil_iff.mpr after, dropAround, List.isEmpty_iff.mp nothing]
  · rw [dropEndWhile_append_of_all _ after, dropAround]

theorem dropAround_split (p : CodePoint → Bool) (text : Text) :
    ∃ front back, text = front ++ dropAround p text ++ back ∧ (∀ c ∈ front, p c = true) ∧
      ∀ c ∈ back, p c = true := by
  refine ⟨text.takeWhile p, (text.dropWhile p).rtakeWhile p, ?_, ?_, ?_⟩
  · have ends : dropAround p text ++ (text.dropWhile p).rtakeWhile p = text.dropWhile p :=
      List.rdropWhile_append_rtakeWhile
    rw [List.append_assoc, ends, List.takeWhile_append_dropWhile]
  · exact fun c => List.mem_takeWhile_imp
  · exact fun c => List.mem_rtakeWhile_imp

theorem dropAround_dropEndWhile (text : Text) :
    dropAround p (dropEndWhile p text) = dropAround p text := by
  have parted : dropEndWhile p text ++ text.rtakeWhile p = text :=
    List.rdropWhile_append_rtakeWhile
  conv_rhs => rw [← parted, ← List.nil_append (dropEndWhile p text)]
  exact (dropAround_append _ (by simp) fun c => List.mem_rtakeWhile_imp).symm

theorem dropAround_eq_self {text : Text} (first : ∀ c ∈ text.head?, p c = false)
    (last : ∀ c ∈ text.getLast?, p c = false) : dropAround p text = text := by
  cases text with
  | nil => rfl
  | cons c rest =>
      have starts : p c = false := first c rfl
      have ends : p ((c :: rest).getLast (by simp)) = false :=
        last _ (List.getLast?_eq_some_getLast _)
      rw [dropAround, List.dropWhile_cons_of_neg (by simp [starts])]
      exact List.rdropWhile_eq_self_iff.mpr fun _ => by simp [ends]

end

/-! ## Digits and blanks -/

/-- No digit of any script is a blank. -/
theorem isBlank_of_digit? {c : CodePoint} {digit : Nat} (is : c.digit? = some digit) :
    c.isBlank = false := by
  obtain ⟨first, found, -⟩ := Option.map_eq_some_iff.mp is
  have bounds := List.find?_some found
  have apart : ∀ first ∈ zeroDigits, ∀ range ∈ blankRanges,
      first + 9 < range.1 ∨ range.2 < first := by decide
  have outside := apart first (List.mem_of_find?_eq_some found)
  simp only [Bool.and_eq_true, decide_eq_true_eq] at bounds
  simp only [CodePoint.isBlank, List.any_eq_false, Bool.and_eq_true, decide_eq_true_eq]
  intro range member within
  have := outside range member
  omega

end Text

end LanguageSession
