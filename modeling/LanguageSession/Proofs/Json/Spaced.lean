import Mathlib
import LanguageSession.Proofs.Json.Strings
import LanguageSession.Proofs.Text.Plain

/-!
# The spaced form

In the spaced form a value stands on one line of printable ASCII characters, whatever
characters its texts hold.
-/

namespace LanguageSession

namespace Json

open Text (plain_append plain_cons)

theorem plain_hexDigit {n : Nat} (h : n < 16) :
    0x20 ≤ (hexDigit n).val ∧ (hexDigit n).val ≤ 0x7E := by
  interval_cases n <;> decide

theorem plain_unitEscape {n : Nat} (h : n < 0x10000) : (unitEscape n).Plain := by
  rw [unitEscape_eq h]
  simp only [plain_cons, Text.plain_nil, and_true]
  exact ⟨by decide, by decide, plain_hexDigit (by omega), plain_hexDigit (by omega),
    plain_hexDigit (by omega), plain_hexDigit (by omega)⟩

theorem plain_unitEscapes (c : CodePoint) : (unitEscapes c).Plain := by
  have limit := c.isLt
  unfold unitEscapes
  split
  · exact plain_unitEscape (by omega)
  · exact plain_append.mpr ⟨plain_unitEscape (by omega), plain_unitEscape (by omega)⟩

theorem plain_letterEscape? {c : CodePoint} {escape : Text} (h : letterEscape? c = some escape) :
    escape.Plain := by
  unfold letterEscape? at h
  split_ifs at h
  all_goals
    rw [← Option.some.inj h]
    decide

theorem plain_writeCharacter (c : CodePoint) : (writeCharacter spacedForm c).Plain := by
  unfold writeCharacter
  cases escape : letterEscape? c with
  | some text => exact plain_letterEscape? escape
  | none =>
      dsimp only
      split_ifs with control wide
      · exact plain_unitEscape (by omega)
      · exact plain_unitEscapes c
      · have narrow : ¬ 0x7E < c.val := by simpa [spacedForm] using wide
        exact plain_cons.mpr ⟨by omega, Text.plain_nil⟩

theorem plain_writeString (text : Text) : (writeString spacedForm text).Plain := by
  have inside : Text.Plain (text.flatMap (writeCharacter spacedForm)) := by
    intro c member
    obtain ⟨d, -, written⟩ := List.mem_flatMap.mp member
    exact plain_writeCharacter d c written
  rw [writeString_eq, plain_cons, plain_append]
  exact ⟨by decide, inside, by decide⟩

theorem plain_comma : Text.Plain spacedForm.comma := by decide

theorem plain_colon : Text.Plain spacedForm.colon := by decide

mutual

theorem plain_spaced : ∀ value : Json, value.spaced.Plain
  | .null => (by decide : Text.Plain "null")
  | .bool true => (by decide : Text.Plain "true")
  | .bool false => (by decide : Text.Plain "false")
  | .integer n => Text.plain_ofInt n
  | .float d => plain_writeDouble d
  | .string text => plain_writeString text
  | .array [] => (by decide : Text.Plain "[]")
  | .array (item :: rest) =>
    plain_cons.mpr ⟨by decide, plain_append.mpr ⟨plain_spaced item, plain_writeItems rest⟩⟩
  | .object [] => (by decide : Text.Plain [CodePoint.ofChar '\x7b', CodePoint.ofChar '\x7d'])
  | .object ((name, value) :: rest) => by
    rw [spaced, write, plain_cons, plain_append, plain_append, plain_append]
    exact ⟨by decide, ⟨⟨plain_writeString name, plain_colon⟩, plain_spaced value⟩,
      plain_writeMembers rest⟩
  | .foreign _ => Text.plain_nil

theorem plain_writeItems : ∀ items : List Json, (writeItems spacedForm items).Plain
  | [] => by decide
  | item :: rest => by
    rw [writeItems, plain_append, plain_append]
    exact ⟨⟨plain_comma, plain_spaced item⟩, plain_writeItems rest⟩

theorem plain_writeMembers : ∀ members : List (Text × Json),
    (writeMembers spacedForm members).Plain
  | [] => by decide
  | (name, value) :: rest => by
    rw [writeMembers, plain_append, plain_append, plain_append, plain_append]
    exact ⟨⟨⟨⟨plain_comma, plain_writeString name⟩, plain_colon⟩, plain_spaced value⟩,
      plain_writeMembers rest⟩

end

end Json

end LanguageSession
