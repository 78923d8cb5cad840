import Mathlib
import LanguageSession.Child.Pipe
import LanguageSession.Proofs.Text.Ascii
import LanguageSession.Proofs.Text.Splitting

/-!
# Lines of error output

Error output is cut into lines as bytes, and each line is decoded on its own.  The lines are those
of the text that the whole output is decoded to, since no sequence goes on over a line feed.
-/

namespace LanguageSession

namespace Text

theorem trim_eq_nil_iff {text : Text} : text.trim = [] ↔ text.isBlank = true := by
  rw [trim, trimEnd, trimStart, List.reverse_eq_nil_iff, List.dropWhile_eq_nil_iff, isBlank,
    List.all_eq_true]
  constructor
  · intro blank c member
    by_contra visible
    obtain ⟨before, after, rfl⟩ := List.append_of_mem member
    have kept : c ∈ ((before ++ c :: after).dropWhile CodePoint.isBlank).reverse := by
      rw [List.mem_reverse, List.dropWhile_append]
      split
      · simp [visible]
      · simp
    exact visible (blank c kept)
  · intro blank c member
    exact blank c ((List.dropWhile_sublist _).subset (List.mem_reverse.mp member))

/-- A text without the line feeds and carriage returns at its end. -/
def withoutLineEnd (text : Text) : Text :=
  text.dropEndWhile fun c => c = CodePoint.ofChar '\r' || c = CodePoint.ofChar '\n'

def visibleLine (text : Text) : List Text :=
  [withoutLineEnd text].filter fun line => line.trim ≠ []

/-- A text cut at its line feeds, without what ends the lines and without blank lines. -/
def visibleLines (text : Text) : List Text :=
  ((splitAt (CodePoint.ofChar '\n') text).map withoutLineEnd).filter fun line => line.trim ≠ []

theorem visibleLines_of_not_mem {text : Text} (outside : CodePoint.ofChar '\n' ∉ text) :
    visibleLines text = visibleLine text := by
  rw [visibleLines, splitAt_of_not_mem outside, List.map_singleton, visibleLine]

theorem visibleLines_append_cons {before : Text} (after : Text)
    (outside : CodePoint.ofChar '\n' ∉ before) :
    visibleLines (before ++ CodePoint.ofChar '\n' :: after) =
      visibleLine before ++ visibleLines after := by
  rw [visibleLines, splitAt_append_cons, splitAt_of_not_mem outside, List.map_append,
    List.map_singleton, List.filter_append, visibleLine, visibleLines]

theorem visibleLine_append_lineFeed (text : Text) :
    visibleLine (text ++ [CodePoint.ofChar '\n']) = visibleLine text := by
  simp [visibleLine, withoutLineEnd, dropEndWhile]

end Text

namespace Child

open Text (visibleLine visibleLines withoutLineEnd)

theorem lines_append_cons {line : Bytes} (rest : Bytes) (outside : lineFeed ∉ line) :
    lines (line ++ lineFeed :: rest) = (line ++ [lineFeed]) :: lines rest := by
  induction line with
  | nil => simp [lines]
  | cons byte line ih =>
      rw [List.mem_cons, not_or] at outside
      rw [List.cons_append, lines, if_neg (Ne.symm outside.1), ih outside.2]
      rfl

theorem lines_of_not_mem {data : Bytes} (some : data ≠ []) (outside : lineFeed ∉ data) :
    lines data = [data] := by
  induction data with
  | nil => exact absurd rfl some
  | cons byte rest ih =>
      rw [List.mem_cons, not_or] at outside
      rw [lines, if_neg (Ne.symm outside.1)]
      cases rest with
      | nil => rfl
      | cons next rest => rw [ih (by simp) outside.2]

theorem filterMap_lineText?_cons (line : Bytes) (others : List Bytes) :
    (line :: others).filterMap lineText? =
      visibleLine (Utf8.decodeLossy line) ++ others.filterMap lineText? := by
  have same : lineText? line = if (withoutLineEnd (Utf8.decodeLossy line)).isBlank then none
      else some (withoutLineEnd (Utf8.decodeLossy line)) := rfl
  by_cases blank : (withoutLineEnd (Utf8.decodeLossy line)).isBlank = true
  · simp [same, blank, visibleLine, Text.trim_eq_nil_iff]
  · simp [same, blank, visibleLine, Text.trim_eq_nil_iff]

theorem decodeLossy_append_lineFeed (before after : Bytes) :
    Utf8.decodeLossy (before ++ lineFeed :: after) =
      Utf8.decodeLossy before ++ CodePoint.ofChar '\n' :: Utf8.decodeLossy after :=
  Utf8.decodeLossy_append_ascii (by decide) before after

theorem lineFeed_not_mem_decodeLossy {line : Bytes} (outside : lineFeed ∉ line) :
    CodePoint.ofChar '\n' ∉ Utf8.decodeLossy line := by
  intro decoded
  obtain ⟨byte, member, same⟩ := Utf8.mem_of_mem_decodeLossy decoded (by decide)
  have value : byte.toNat = lineFeed.toNat := congrArg (fun c : CodePoint => c.val) same
  exact outside (UInt8.toNat_inj.mp value ▸ member)

/-- The lines of some bytes, each decoded on its own, are the lines of the decoded bytes. -/
theorem filterMap_lines (data : Bytes) :
    (lines data).filterMap lineText? = visibleLines (Utf8.decodeLossy data) := by
  induction size : data.length using Nat.strongRecOn generalizing data with
  | ind n ih =>
      by_cases found : lineFeed ∈ data
      · obtain ⟨line, rest, rfl, outside⟩ := List.eq_append_cons_of_mem found
        have shorter : rest.length < n := by
          rw [← size, List.length_append, List.length_cons]
          omega
        rw [lines_append_cons rest outside, filterMap_lineText?_cons, ih rest.length shorter rest rfl,
          decodeLossy_append_lineFeed line rest,
          Text.visibleLines_append_cons _ (lineFeed_not_mem_decodeLossy outside)]
        congr 1
        rw [decodeLossy_append_lineFeed line []]
        exact Text.visibleLine_append_lineFeed (Utf8.decodeLossy line)
      · rw [Text.visibleLines_of_not_mem (lineFeed_not_mem_decodeLossy found)]
        cases data with
        | nil => rfl
        | cons byte rest =>
            rw [lines_of_not_mem (by simp) found, filterMap_lineText?_cons, List.filterMap_nil,
              List.append_nil]

end Child

end LanguageSession
