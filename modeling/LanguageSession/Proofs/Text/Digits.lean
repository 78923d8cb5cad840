import Mathlib
import LanguageSession.Json.Reader

/-!
# Decimal digits

A number is written with the digits `0` to `9`, without a zero in front, and its digits
read back as the number.
-/

namespace LanguageSession

namespace Text

def IsDecimal (c : CodePoint) : Prop := 0x30 ≤ c.val ∧ c.val ≤ 0x39

def numberOf (digits : Text) : Nat := Numeral.ofDigits (Json.digitValues digits)

def decimalDigit (n : Nat) : CodePoint := CodePoint.ofChar n.digitChar

theorem decimalDigit_val {n : Nat} (h : n < 10) : (decimalDigit n).val = 0x30 + n :=
  Nat.toNat_digitChar_of_lt_ten h

theorem decimalDigit_isDecimal {n : Nat} (h : n < 10) : IsDecimal (decimalDigit n) := by
  rw [IsDecimal, decimalDigit_val h]
  omega

theorem ofNat_of_lt {n : Nat} (h : n < 10) : ofNat n = [decimalDigit n] := by
  simp [ofNat, digits, Nat.toDigits_of_lt_base h, decimalDigit]

theorem ofNat_of_le {n : Nat} (h : 10 ≤ n) : ofNat n = ofNat (n / 10) ++ [decimalDigit (n % 10)] := by
  simp [ofNat, digits, Nat.toDigits_of_base_le (by decide) h, decimalDigit]

theorem ofNat_ne_nil (n : Nat) : ofNat n ≠ [] := by
  simp [ofNat, digits]

theorem ofNat_induction {motive : Nat → Prop} (small : ∀ n, n < 10 → motive n)
    (large : ∀ n, 10 ≤ n → motive (n / 10) → motive n) (n : Nat) : motive n := by
  induction n using Nat.strongRecOn with
  | ind n ih =>
      by_cases h : n < 10
      · exact small n h
      · exact large n (by omega) (ih (n / 10) (by omega))

theorem isDecimal_of_mem_ofNat {n : Nat} {c : CodePoint} (h : c ∈ ofNat n) : IsDecimal c := by
  induction n using ofNat_induction with
  | small n lt =>
      rw [ofNat_of_lt lt, List.mem_singleton] at h
      exact h ▸ decimalDigit_isDecimal lt
  | large n le ih =>
      rw [ofNat_of_le le, List.mem_append, List.mem_singleton] at h
      rcases h with before | rfl
      · exact ih before
      · exact decimalDigit_isDecimal (by omega)

theorem numberOf_append_singleton (digits : Text) (c : CodePoint) :
    numberOf (digits ++ [c]) = numberOf digits * 10 + (c.val - 0x30) := by
  simp [numberOf, Numeral.ofDigits, Json.digitValues]

@[simp] theorem numberOf_ofNat (n : Nat) : numberOf (ofNat n) = n := by
  induction n using ofNat_induction with
  | small n lt =>
      rw [ofNat_of_lt lt, ← List.nil_append [decimalDigit n], numberOf_append_singleton,
        decimalDigit_val lt]
      simp [numberOf, Numeral.ofDigits, Json.digitValues]
  | large n le ih =>
      rw [ofNat_of_le le, numberOf_append_singleton, ih, decimalDigit_val (by omega)]
      omega

theorem ofNat_eq_cons {n : Nat} (h : 0 < n) :
    ∃ first rest, ofNat n = first :: rest ∧ 0x31 ≤ first.val ∧ first.val ≤ 0x39 := by
  induction n using ofNat_induction with
  | small n lt =>
      refine ⟨decimalDigit n, [], ofNat_of_lt lt, ?_⟩
      rw [decimalDigit_val lt]
      omega
  | large n le ih =>
      obtain ⟨first, rest, same, bounds⟩ := ih (by omega)
      exact ⟨first, rest ++ [decimalDigit (n % 10)], by rw [ofNat_of_le le, same]; rfl, bounds⟩

theorem length_ofNat_le_iff {n count : Nat} (h : 0 < count) :
    (ofNat n).length ≤ count ↔ n < 10 ^ count := by
  simp [ofNat, digits, Nat.length_toDigits_le_iff (by decide : 1 < 10) h]

end Text

end LanguageSession
