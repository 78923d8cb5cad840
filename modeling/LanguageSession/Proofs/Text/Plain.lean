import Mathlib
import LanguageSession.Json.Writer
import LanguageSession.Proofs.Text.Digits

/-!
# Plain text

Numbers are written with printable ASCII characters, whatever their value.
-/

namespace LanguageSession

namespace Text

/-- Printable ASCII characters only, so on one line. -/
def Plain (text : Text) : Prop := ∀ c ∈ text, 0x20 ≤ c.val ∧ c.val ≤ 0x7E

instance (text : Text) : Decidable (Plain text) := List.decidableBAll _ text

@[simp] theorem plain_nil : Plain [] := by
  simp [Plain]

@[simp] theorem plain_cons {c : CodePoint} {text : Text} :
    Plain (c :: text) ↔ (0x20 ≤ c.val ∧ c.val ≤ 0x7E) ∧ Plain text := List.forall_mem_cons

@[simp] theorem plain_append {text later : Text} :
    Plain (text ++ later) ↔ Plain text ∧ Plain later := List.forall_mem_append

theorem Plain.sublist {text shorter : Text} (plain : Plain text) (kept : shorter.Sublist text) :
    Plain shorter := fun c member => plain c (kept.subset member)

theorem Plain.ascii {text : Text} (plain : Plain text) : ∀ c ∈ text, c.val < 0x80 :=
  fun c member => (plain c member).2.trans_lt (by decide)

theorem Plain.lineFeed_not_mem {text : Text} (plain : Plain text) :
    CodePoint.ofChar '\n' ∉ text :=
  fun member => absurd (plain _ member).1 (by decide)

theorem plain_replicate (n : Nat) {c : CodePoint} (plain : 0x20 ≤ c.val ∧ c.val ≤ 0x7E) :
    Plain (List.replicate n c) := fun _ member => List.eq_of_mem_replicate member ▸ plain

theorem plain_ofNat (n : Nat) : Plain (ofNat n) := by
  intro c member
  have bounds := isDecimal_of_mem_ofNat member
  exact ⟨le_trans (by decide) bounds.1, bounds.2.trans (by decide)⟩

theorem plain_ofInt (n : Int) : Plain (ofInt n) := by
  unfold ofInt
  split
  · exact plain_cons.mpr ⟨by decide, plain_ofNat _⟩
  · exact plain_ofNat _

end Text

namespace Double

open Text

theorem plain_layout {digits : Text} (plain : Plain digits) (point : Int) :
    Plain (layout digits point) := by
  have noughts (n : Nat) : Plain (List.replicate n (CodePoint.ofChar '0')) :=
    plain_replicate n (by decide)
  have taken (n : Nat) : Plain (digits.take n) := plain.sublist (List.take_sublist n digits)
  have dropped (n : Nat) : Plain (digits.drop n) := plain.sublist (List.drop_sublist n digits)
  have exponent (n : Nat) : Plain (padZeros 2 (ofNat n)) :=
    plain_append.mpr ⟨noughts _, plain_ofNat n⟩
  unfold layout
  dsimp only
  split
  · split
    · exact plain_cons.mpr ⟨by decide, plain_cons.mpr ⟨by decide, plain_append.mpr ⟨noughts _, plain⟩⟩⟩
    · split
      · exact plain_append.mpr ⟨plain_append.mpr ⟨plain, noughts _⟩, by decide⟩
      · exact plain_append.mpr ⟨taken _, plain_cons.mpr ⟨by decide, dropped _⟩⟩
  · refine plain_append.mpr ⟨plain_append.mpr ⟨taken _, ?_⟩,
      plain_cons.mpr ⟨by decide, plain_cons.mpr ⟨?_, exponent _⟩⟩⟩
    · split
      · exact plain_nil
      · exact plain_cons.mpr ⟨by decide, dropped _⟩
    · split <;> decide

theorem plain_signed {text : Text} (plain : Plain text) (negative : Bool) :
    Plain (signed negative text) := by
  unfold signed
  split
  · exact plain_cons.mpr ⟨by decide, plain⟩
  · exact plain

theorem shortest_digits (magnitude : Nat) : ∃ n point, shortest magnitude = (ofNat n, point) := by
  -- The number must stay unevaluated, so the definition is opened as a function.
  have each : ∀ f : Nat → Text × Int, f = shortest → ∃ n point, f magnitude = (ofNat n, point) := by
    intro f same
    delta shortest at same
    have value := congrFun same magnitude
    extract_lets point found at value
    generalize found.getD ((neighbours magnitude point 17).headD 0, 17) = chosen at value
    obtain ⟨digits, places⟩ := chosen
    exact ⟨_, _, value⟩
  exact each shortest rfl

theorem plain_finiteText (negative : Bool) (magnitude : Nat) :
    Plain (finiteText negative magnitude) := by
  obtain ⟨n, point, same⟩ := shortest_digits magnitude
  unfold finiteText
  rw [same]
  apply plain_signed
  split
  · exact (by decide : Plain "0.0")
  · exact plain_layout (plain_ofNat n) point

end Double

namespace Json

theorem plain_writeDouble (d : Double) : (writeDouble d).Plain := by
  cases d with
  | nan => exact (by decide : Text.Plain "NaN")
  | infinity negative => exact Double.plain_signed (by decide : Text.Plain "Infinity") negative
  | finite negative magnitude => exact Double.plain_finiteText negative magnitude.val

end Json

end LanguageSession
