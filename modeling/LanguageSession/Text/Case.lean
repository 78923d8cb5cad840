import LanguageSession.Text.CaseTable

/-!
Upper and lower case of texts.  Every character is mapped by the table, with one
rule that looks around: a capital sigma at the end of a word becomes the final
form of the small letter.
-/

namespace LanguageSession

namespace CodePoint

private def inRanges (ranges : List (Nat × Nat)) (c : CodePoint) : Bool :=
  ranges.any fun range => range.1 ≤ c.val && c.val ≤ range.2

def isCased (c : CodePoint) : Bool := inRanges casedRanges c

def isCaseIgnorable (c : CodePoint) : Bool := inRanges caseIgnorableRanges c

private def mapped? (rows : List (Nat × Nat × Nat × Int)) (c : CodePoint) : Option CodePoint :=
  rows.findSome? fun (first, last, stride, offset) =>
    if first ≤ c.val && c.val ≤ last && (c.val - first) % stride == 0 then
      some (CodePoint.ofNat ((c.val : Int) + offset).toNat)
    else none

def toUpper (c : CodePoint) : Text :=
  match longCapitals.lookup c.val with
  | some capitals => capitals.map CodePoint.ofNat
  | none => [(mapped? upperRows c).getD c]

/-- The dotted capital I becomes a dotted small letter, written with two code points. -/
def toLower (c : CodePoint) : Text :=
  if c.val = 0x130 then "i\u0307" else [(mapped? lowerRows c).getD c]

/-- The small letter of a capital letter among the first 256 characters. -/
def latinSmall (c : CodePoint) : CodePoint :=
  if 0x41 ≤ c.val ∧ c.val ≤ 0x5A ∨ 0xC0 ≤ c.val ∧ c.val ≤ 0xDE ∧ c.val ≠ 0xD7 then
    CodePoint.ofNat (c.val + 32)
  else c

private theorem mapped?_eq_none {rows : List (Nat × Nat × Nat × Int)} {c : CodePoint}
    (above : ∀ row ∈ rows, c.val < row.1) : mapped? rows c = none := by
  rw [mapped?, List.findSome?_eq_none_iff]
  intro row member
  have := above row member
  simp [Nat.not_le_of_lt this]

theorem toLower_of_latin {c : CodePoint} (latin : c.val < 0x100) : c.toLower = [latinSmall c] := by
  have rows : lowerRows = [(0x41, 0x5A, 1, 32), (0xC0, 0xD6, 1, 32), (0xD8, 0xDE, 1, 32)] ++
      lowerRows.drop 3 := rfl
  have above : (lowerRows.drop 3).all (fun row => 0x100 ≤ row.1) = true := by decide +kernel
  have none : mapped? (lowerRows.drop 3) c = none := mapped?_eq_none fun row member => by
    have := of_decide_eq_true (List.all_eq_true.mp above row member)
    omega
  have found : mapped? lowerRows c =
      mapped? [(0x41, 0x5A, 1, 32), (0xC0, 0xD6, 1, 32), (0xD8, 0xDE, 1, 32)] c := by
    rw [rows, mapped?, List.findSome?_append, ← mapped?, ← mapped?, none, Option.or_none]
  have offset : ((c.val : Int) + 32).toNat = c.val + 32 := by omega
  rw [toLower, if_neg (by omega), found, latinSmall]
  simp only [mapped?, List.findSome?_cons, List.findSome?_nil, offset, Nat.mod_one, beq_self_eq_true,
    Bool.and_eq_true, decide_eq_true_eq, and_true]
  by_cases capital : 0x41 ≤ c.val ∧ c.val ≤ 0x5A ∨ 0xC0 ≤ c.val ∧ c.val ≤ 0xDE ∧ c.val ≠ 0xD7
  · rw [if_pos capital]
    by_cases ascii : 0x41 ≤ c.val ∧ c.val ≤ 0x5A
    · rw [if_pos ascii, Option.getD_some]
    by_cases first : 0xC0 ≤ c.val ∧ c.val ≤ 0xD6
    · rw [if_neg ascii, if_pos first, Option.getD_some]
    have second : 0xD8 ≤ c.val ∧ c.val ≤ 0xDE := by omega
    rw [if_neg ascii, if_neg first, if_pos second, Option.getD_some]
  · rw [if_neg capital, if_neg (by omega), if_neg (by omega), if_neg (by omega), Option.getD_none]

end CodePoint

namespace Text

/-- Is the nearest character that counts a letter with case? -/
private def meetsLetter (text : Text) : Bool :=
  match text.dropWhile CodePoint.isCaseIgnorable with
  | [] => false
  | c :: _ => c.isCased

/-- `before` holds the characters already read, nearest first. -/
private def lowerFrom (before : Text) : Text → Text
  | [] => []
  | c :: rest =>
    let small : Text :=
      if c.val = 0x3A3 then
        if meetsLetter before && !meetsLetter rest then "ς" else "σ"
      else c.toLower
    small ++ lowerFrom (c :: before) rest

def lower (text : Text) : Text := lowerFrom [] text

private theorem lowerFrom_eq_flatMap {before text : Text} (plain : ∀ c ∈ text, c.val ≠ 0x3A3) :
    lowerFrom before text = text.flatMap CodePoint.toLower := by
  induction text generalizing before with
  | nil => rfl
  | cons c rest ih =>
    rw [lowerFrom, if_neg (plain c List.mem_cons_self), List.flatMap_cons,
      ih fun other member => plain other (List.mem_cons_of_mem c member)]

theorem lower_eq_flatMap {text : Text} (plain : ∀ c ∈ text, c.val ≠ 0x3A3) :
    text.lower = text.flatMap CodePoint.toLower := lowerFrom_eq_flatMap plain

def upper (text : Text) : Text := text.flatMap CodePoint.toUpper

end Text

end LanguageSession
