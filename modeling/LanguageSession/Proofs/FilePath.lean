import Mathlib
import LanguageSession.FilePath
import LanguageSession.Proofs.Text.Ascii
import LanguageSession.Proofs.Text.Plain
import LanguageSession.Proofs.Text.Splitting

/-!
# Files of one folder

The shortest path of a file that is named in a folder is that of the folder with the name
of the file behind it, so that files of different names have different paths.
-/

namespace LanguageSession

namespace Lossless

theorem encodeCodePoint_of_ascii {c : CodePoint} (ascii : c.val < 0x80) :
    encodeCodePoint c = [UInt8.ofNat c.val] := by
  have none : keptByte? c = none := if_neg (by simp; omega)
  rw [encodeCodePoint, none, Utf8.encodeCodePoint]
  exact if_pos ascii

theorem decode_append_ascii {c : CodePoint} (ascii : c.val < 0x80) (before after : Bytes) :
    decode (before ++ encodeCodePoint c ++ after) = decode before ++ c :: decode after := by
  have byte : (UInt8.ofNat c.val).toNat = c.val := by
    rw [UInt8.toNat_ofNat', Nat.mod_eq_of_lt (by omega)]
  have same : CodePoint.ofByte (UInt8.ofNat c.val) = c := Fin.ext byte
  rw [encodeCodePoint_of_ascii ascii, List.append_assoc, List.singleton_append, decode,
    Utf8.pieces_append_ascii (fun _ _ _ => rfl) (byte.trans_lt ascii), List.append_assoc, same]
  rfl

end Lossless

namespace FilePath

theorem givenBack_append_cons {c : CodePoint} (ascii : c.val < 0x80) (before after : Text) :
    givenBack (before ++ c :: after) = givenBack before ++ c :: givenBack after := by
  rw [givenBack, List.flatMap_append, List.flatMap_cons, ← List.append_assoc]
  exact Lossless.decode_append_ascii ascii _ _

theorem givenBack_of_plain {name : Text} (plain : name.Plain) : givenBack name = name := by
  induction name with
  | nil => rfl
  | cons c rest ih =>
      rw [Text.plain_cons] at plain
      have split := givenBack_append_cons (by omega : c.val < 0x80) [] rest
      rw [ih plain.2] at split
      exact split

/-- A name of a file, which is a part of a path and leads on. -/
structure IsName (name : Text) : Prop where
  plain : name.Plain
  single : slash ∉ name
  nonempty : name ≠ []
  moves : name ≠ [dot]
  downward : name ≠ upward

def folderPath (folder : Text) : Text :=
  (follow (start (folder ++ [slash])) (parts folder)).flatMap fun part => part ++ [slash]

section

variable {name : Text} (isName : IsName name)

include isName

theorem parts_append_slash (before : Text) :
    parts (before ++ slash :: name) = parts before ++ [name] := by
  rw [parts, Text.splitAt_append_cons, Text.splitAt_of_not_mem isName.single, List.filter_append,
    List.filter_singleton]
  simp [isName.nonempty, isName.moves, parts]

theorem follow_snoc (origin : Place) (names : List Text) :
    follow origin (names ++ [name]) = follow origin names ++ [name] := by
  induction names generalizing origin with
  | nil => exact if_neg isName.downward
  | cons part names ih =>
      rw [List.cons_append, follow, follow]
      split
      · exact ih (above origin)
      · exact ih (origin ++ [part])

theorem pathTo_snoc (folder : Place) :
    pathTo (folder ++ [name]) = folder.flatMap (fun part => part ++ [slash]) ++ name := by
  have joined (names : List Text) : Text.join [slash] (names ++ [name]) =
      names.flatMap (fun part => part ++ [slash]) ++ name := by
    induction names with
    | nil => simp [Text.join]
    | cons part names ih =>
        obtain ⟨next, others, same⟩ : ∃ next others, names ++ [name] = next :: others :=
          List.exists_cons_of_ne_nil (by simp)
        rw [List.cons_append, same, Text.join, List.intercalate_cons_cons, ← same,
          ← Text.join, ih, List.flatMap_cons]
        simp
  rw [← joined, pathTo.eq_3 (folder ++ [name]) (by simp)]
  intro root
  have last := congrArg List.getLast? root
  exact isName.nonempty (by simpa using last)

theorem place_append_slash (before : Text) :
    place (before ++ slash :: name) =
      follow (start (before ++ [slash])) (parts before) ++ [name] := by
  have same : start (before ++ slash :: name) = start (before ++ [slash]) := by
    cases before <;> rfl
  rw [place, parts_append_slash isName, follow_snoc isName, same]

theorem normal_append_slash (before : Text) :
    normal (before ++ slash :: name) = folderPath before ++ name := by
  rw [normal, place_append_slash isName, pathTo_snoc isName, folderPath]

end

end FilePath

end LanguageSession
