import Mathlib
import LanguageSession.Text.Basic

/-!
# Cutting texts

A text is cut at every occurrence of a character, and nowhere else.
-/

namespace LanguageSession

namespace Text

theorem splitAt_of_not_mem {separator : CodePoint} {text : Text} (h : separator ∉ text) :
    splitAt separator text = [text] := by
  induction text with
  | nil => rfl
  | cons c rest ih =>
      rw [List.mem_cons, not_or] at h
      simp [splitAt, ih h.2, Ne.symm h.1]

theorem splitAt_eq_cons (separator : CodePoint) (text : Text) :
    ∃ piece pieces, splitAt separator text = piece :: pieces := by
  cases text with
  | nil => exact ⟨_, _, rfl⟩
  | cons c rest =>
      rw [splitAt]
      split
      · exact ⟨_, _, rfl⟩
      · split <;> exact ⟨_, _, rfl⟩

theorem splitAt_append_cons (separator : CodePoint) (before after : Text) :
    splitAt separator (before ++ separator :: after) =
      splitAt separator before ++ splitAt separator after := by
  induction before with
  | nil =>
      obtain ⟨piece, pieces, same⟩ := splitAt_eq_cons separator after
      simp [splitAt, same]
  | cons c before ih =>
      obtain ⟨piece, pieces, same⟩ := splitAt_eq_cons separator before
      rw [List.cons_append, splitAt, ih, splitAt, same, List.cons_append]
      dsimp only
      split <;> rfl

theorem splitAt_flatMap {separator : CodePoint} {pieces : List Text}
    (outside : ∀ piece ∈ pieces, separator ∉ piece) :
    splitAt separator (pieces.flatMap fun piece => piece ++ [separator]) = pieces ++ [[]] := by
  induction pieces with
  | nil => rfl
  | cons piece pieces ih =>
      rw [List.forall_mem_cons] at outside
      rw [List.flatMap_cons, List.append_assoc, List.singleton_append, splitAt_append_cons,
        splitAt_of_not_mem outside.1, ih outside.2]
      rfl

end Text

end LanguageSession
