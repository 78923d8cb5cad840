import Mathlib
import LanguageSession.FilePath
import LanguageSession.Log.Parts

/-!
# Names of parts

Whatever other names are known, a name that goes on from that of the program by parts with
something in them belongs to the program.
-/

namespace LanguageSession

namespace Log

open FilePath (dot)

def dotted (parts : List Text) : Text := parts.flatMap fun part => dot :: part

theorem dotted_snoc (parts : List Text) (last : Text) :
    dotted (parts ++ [last]) = dotted parts ++ dot :: last := by
  simp [dotted]

theorem beforeDot?_snoc {before tail : Text} (nonempty : before ≠ []) (whole : dot ∉ tail) :
    beforeDot? (before ++ dot :: tail) = some before := by
  have passed : ∀ c ∈ tail.reverse, decide (c ≠ CodePoint.ofChar '.') = true := by
    intro c member
    have different : c ≠ dot := fun same => whole (same ▸ List.mem_reverse.mp member)
    exact decide_eq_true different
  have split : (before ++ dot :: tail).reverse = tail.reverse ++ dot :: before.reverse := by simp
  have dropped : (before ++ dot :: tail).reverse.dropWhile (fun c => c ≠ CodePoint.ofChar '.') =
      dot :: before.reverse := by
    rw [split, List.dropWhile_append_of_pos passed, List.dropWhile_cons_of_neg (by decide)]
  have filled : before.reverse.isEmpty = false := by simpa using nonempty
  rw [beforeDot?, dropped]
  simp [filled]

theorem belongs_of_beforeDot? {name before : Text} (known : List Text)
    (found : beforeDot? name = some before) :
    belongs known name =
      if before = programName then true
      else if known.contains before then belongs known before
      else belongs known before.dropLast := by
  rw [belongs]
  split
  · next none =>
    rw [found] at none
    cases none
  · next other cut =>
    cases found.symm.trans cut
    rfl

/-- What stands before the last dot ends in a part, which may be known, or lose its last letter. -/
theorem belongs_dotted (known : List Text) {parts : List Text} {tail : Text}
    (proper : ∀ part ∈ parts, part ≠ [] ∧ dot ∉ part) (whole : dot ∉ tail) :
    belongs known (programName ++ dotted parts ++ dot :: tail) = true := by
  induction parts using List.reverseRecOn generalizing tail with
  | nil =>
      rw [belongs_of_beforeDot? known (beforeDot?_snoc (by decide) whole), if_pos]
      exact List.append_nil programName
  | append_singleton before last ih =>
      have ⟨filled, single⟩ := proper last (by simp)
      have fewer : ∀ part ∈ before, part ≠ [] ∧ dot ∉ part := fun part member =>
        proper part (List.mem_append_left _ member)
      have nonempty : programName ++ dotted (before ++ [last]) ≠ [] :=
        List.append_ne_nil_of_left_ne_nil (by decide) _
      have cut : (programName ++ dotted (before ++ [last])).dropLast =
          programName ++ dotted before ++ dot :: last.dropLast := by
        rw [dotted_snoc, ← List.append_assoc, List.dropLast_append_of_ne_nil (List.cons_ne_nil _ _),
          List.dropLast_cons_of_ne_nil filled]
      rw [belongs_of_beforeDot? known (beforeDot?_snoc nonempty whole)]
      split
      · rfl
      · split
        · rw [dotted_snoc, ← List.append_assoc]
          exact ih fewer single
        · rw [cut]
          exact ih fewer fun member => single (List.mem_of_mem_dropLast member)

theorem ofPart?_dotted (known : List Text) {parts : List Text}
    (proper : ∀ part ∈ parts, part ≠ [] ∧ dot ∉ part) (level : Level) (message : Text) :
    ofPart? known (programName ++ dotted parts) level message =
      some (note level ((components.lookup (programName ++ dotted parts)).getD "SYSTEM")
        message) := by
  refine if_pos ?_
  cases parts using List.reverseRecOn with
  | nil => simp [dotted]
  | append_singleton before last =>
      have single : dot ∉ last := (proper last (by simp)).2
      have fewer : ∀ part ∈ before, part ≠ [] ∧ dot ∉ part := fun part member =>
        proper part (List.mem_append_left _ member)
      rw [dotted_snoc, ← List.append_assoc, belongs_dotted _ fewer single, Bool.or_true]

end Log

end LanguageSession
