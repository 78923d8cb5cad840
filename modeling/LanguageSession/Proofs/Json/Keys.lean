import Mathlib
import LanguageSession.Json.Key
import LanguageSession.Proofs.Registry

/-!
# Which values are the same key

A number is a key by its exact value, whatever kind of number it is.  Every finite double has an
exact value, and but for the sign of zero the value tells the double.
-/

namespace LanguageSession

namespace Double

/-! ## Exact values -/

/-- How many times the least positive double a magnitude is. -/
def steps (magnitude : Nat) : Nat := significand magnitude * 2 ^ (scale magnitude + 1074).toNat

theorem steps_fields {exponent fraction : Nat} (bound : fraction < binade) :
    steps (exponent * binade + fraction) =
      if exponent = 0 then fraction else (binade + fraction) * 2 ^ (exponent - 1) := by
  have positive : 0 < binade := by decide
  have quotient : (exponent * binade + fraction) / binade = exponent := by
    simp [Nat.add_div, Nat.div_eq_of_lt bound, Nat.mod_lt _ positive, positive]
  have remainder : (exponent * binade + fraction) % binade = fraction := by
    simp [Nat.add_mod, Nat.mod_eq_of_lt bound]
  simp only [steps, significand, scale, quotient, remainder]
  split
  · next zero => simp [zero]
  · congr 2
    omega

/-- The next magnitude is more, also where the exponent changes. -/
theorem steps_lt_succ (magnitude : Nat) : steps magnitude < steps (magnitude + 1) := by
  have positive : 0 < binade := by decide
  have below := Nat.mod_lt magnitude positive
  have fields : magnitude = magnitude / binade * binade + magnitude % binade := by
    rw [Nat.mul_comm, Nat.div_add_mod]
  generalize magnitude / binade = exponent at fields
  generalize magnitude % binade = fraction at fields below
  subst fields
  rw [steps_fields below]
  -- a full fraction carries into the exponent, where each step is worth twice as much
  by_cases carry : fraction + 1 = binade
  · have next : exponent * binade + fraction + 1 = (exponent + 1) * binade + 0 := by
      rw [Nat.add_assoc, carry, Nat.succ_mul, Nat.add_zero]
    rw [next, steps_fields positive, if_neg (Nat.succ_ne_zero exponent), Nat.add_zero,
      Nat.add_sub_cancel]
    split
    · next zero => simpa [zero] using below
    · next nonzero =>
      obtain ⟨power, rfl⟩ := Nat.exists_eq_succ_of_ne_zero nonzero
      rw [Nat.succ_sub_one, Nat.pow_succ, Nat.mul_comm (2 ^ power), ← Nat.mul_assoc]
      exact Nat.mul_lt_mul_of_pos_right (by omega) (Nat.two_pow_pos power)
  · have next : fraction + 1 < binade := by omega
    rw [Nat.add_assoc, steps_fields next]
    split
    · omega
    · exact Nat.mul_lt_mul_of_pos_right (by omega) (Nat.two_pow_pos _)

theorem steps_zero : steps 0 = 0 := by
  have fields : steps (0 * binade + 0) = 0 := steps_fields (by decide)
  rwa [Nat.zero_mul] at fields

theorem steps_strictMono : StrictMono steps := strictMono_nat_of_lt_succ steps_lt_succ

theorem units_eq (negative : Bool) (magnitude : Nat) :
    units negative magnitude = if negative then -(steps magnitude : Int) else steps magnitude := rfl

/-- But for the sign of zero, equal values are equal doubles. -/
theorem eq_of_units_eq {negative negative' : Bool} {magnitude magnitude' : Nat}
    (same : units negative magnitude = units negative' magnitude') (nonzero : magnitude ≠ 0) :
    negative = negative' ∧ magnitude = magnitude' := by
  have more : 0 < steps magnitude := by
    have least := steps_strictMono (Nat.pos_of_ne_zero nonzero)
    omega
  have agree : steps magnitude = steps magnitude' → magnitude = magnitude' :=
    fun equal => steps_strictMono.injective equal
  rw [units_eq, units_eq] at same
  cases negative <;> cases negative' <;> simp only [if_true, if_false, Bool.false_eq_true] at same
  · exact ⟨rfl, agree (by omega)⟩
  · omega
  · omega
  · exact ⟨rfl, agree (by omega)⟩

/-- How many times the least positive double one is. -/
def perOne : Nat := 2 ^ 1074

theorem perOne_pos : 0 < perOne := by
  unfold perOne
  positivity

/-- The exact value of a finite double. -/
def value (negative : Bool) (magnitude : Nat) : ℚ := units negative magnitude / perOne

theorem ratio_steps (magnitude : Nat) :
    (ratio magnitude).1 * perOne = steps magnitude * (ratio magnitude).2 ∧
      0 < (ratio magnitude).2 := by
  have least : -1074 ≤ scale magnitude := by
    have natural := Int.natCast_nonneg (magnitude / binade)
    unfold scale
    split <;> omega
  unfold ratio steps perOne
  cases known : scale magnitude with
  | ofNat e =>
      have exponent : (Int.ofNat e + 1074).toNat = e + 1074 := by
        simp only [Int.ofNat_eq_natCast]
        omega
      rw [exponent]
      refine ⟨?_, Nat.one_pos⟩
      simp only [Nat.pow_eq, Nat.pow_add, Nat.mul_one, Nat.mul_assoc]
  | negSucc e =>
      rw [known] at least
      have exponent : (Int.negSucc e + 1074).toNat + (e + 1) = 1074 := by omega
      refine ⟨?_, Nat.two_pow_pos _⟩
      simp only [Nat.pow_eq]
      rw [Nat.mul_assoc, ← Nat.pow_add, exponent]

theorem ratio_whole_iff (magnitude k : Nat) :
    ((ratio magnitude).1 % (ratio magnitude).2 = 0 ∧ (ratio magnitude).1 / (ratio magnitude).2 = k) ↔
      steps magnitude = k * perOne := by
  obtain ⟨cross, positive⟩ := ratio_steps magnitude
  generalize (ratio magnitude).1 = numerator at cross ⊢
  generalize (ratio magnitude).2 = denominator at cross positive ⊢
  constructor
  · rintro ⟨whole, rfl⟩
    obtain ⟨k, rfl⟩ := Nat.dvd_of_mod_eq_zero whole
    rw [Nat.mul_div_cancel_left k positive]
    refine Nat.eq_of_mul_eq_mul_right positive (cross.symm.trans ?_)
    rw [Nat.mul_assoc, Nat.mul_comm]
  · intro same
    rw [same, Nat.mul_right_comm] at cross
    rw [Nat.eq_of_mul_eq_mul_right perOne_pos cross]
    exact ⟨Nat.mul_mod_left k denominator, Nat.mul_div_cancel k positive⟩

theorem value_eq_iff {negative : Bool} {magnitude : Nat} {n : Int} :
    value negative magnitude = n ↔ units negative magnitude = n * perOne := by
  have positive : (perOne : ℚ) ≠ 0 := Nat.cast_ne_zero.mpr perOne_pos.ne'
  rw [value, div_eq_iff positive]
  exact_mod_cast Iff.rfl

/-- A finite double is the whole number that its value is, if it is one. -/
theorem toInt?_eq_some_iff {negative : Bool} {magnitude : Fin magnitudeLimit} {n : Int} :
    toInt? (.finite negative magnitude) = some n ↔ value negative magnitude.val = n := by
  have whole := ratio_whole_iff magnitude.val
  have positive := perOne_pos
  rw [value_eq_iff, units_eq, toInt?]
  by_cases divides : (ratio magnitude.val).1 % (ratio magnitude.val).2 = 0
  · have same := (whole _).mp ⟨divides, rfl⟩
    simp only [divides, if_true, Option.some.injEq]
    rw [same, Nat.cast_mul]
    have cancel (m : Int) : m = n ↔ m * perOne = n * perOne :=
      (Int.mul_eq_mul_right_iff (by omega)).symm
    rw [cancel]
    cases negative
    · rfl
    · rw [if_pos rfl, if_pos rfl, Int.neg_mul]
  · simp only [divides, if_false, reduceCtorEq, false_iff]
    intro same
    have multiple : steps magnitude.val = n.natAbs * perOne := by
      have absolute := congrArg Int.natAbs same
      rw [Int.natAbs_mul, Int.natAbs_natCast] at absolute
      split at absolute
      · rwa [Int.natAbs_neg, Int.natAbs_natCast] at absolute
      · rwa [Int.natAbs_natCast] at absolute
    exact divides ((whole n.natAbs).mpr multiple).1

theorem value_injective {negative negative' : Bool} {magnitude magnitude' : Nat}
    (same : value negative magnitude = value negative' magnitude') (nonzero : magnitude ≠ 0) :
    negative = negative' ∧ magnitude = magnitude' := by
  have positive : (perOne : ℚ) ≠ 0 := Nat.cast_ne_zero.mpr perOne_pos.ne'
  rw [value, value, div_left_inj' positive] at same
  exact eq_of_units_eq (Int.cast_injective same) nonzero

end Double

/-! ## Keys -/

/-- What a value is as a key: a number by its exact value. -/
inductive Key where
  | null
  | number (value : ℚ)
  | infinity (negative : Bool)
  | undefined
  | text (text : Text)
  deriving DecidableEq

def Double.key : Double → Key
  | .finite negative magnitude => .number (value negative magnitude.val)
  | .infinity negative => .infinity negative
  | .nan => .undefined

@[simp] theorem Double.key_ne_null (d : Double) : d.key ≠ .null := by
  cases d <;> nofun

@[simp] theorem Double.key_ne_text (d : Double) (text : Text) : d.key ≠ .text text := by
  cases d <;> nofun

theorem Double.toInt?_of_key {d : Double} {n : Int} (same : d.key = .number n) :
    d.toInt? = some n := by
  cases d with
  | finite negative magnitude => exact toInt?_eq_some_iff.mpr (Key.number.inj same)
  | infinity negative => cases same
  | nan => cases same

/-- But for whole numbers, doubles with one key are one double. -/
theorem Double.eq_of_key_eq {d other : Double} (fraction : d.toInt? = none)
    (same : d.key = other.key) : d = other := by
  cases d with
  | finite negative magnitude =>
      -- the two zeros share a key, but they are whole numbers
      have nonzero : magnitude.val ≠ 0 := by
        intro zero
        have whole : value negative magnitude.val = (0 : Int) := by
          rw [value_eq_iff, units_eq, zero, steps_zero, Nat.cast_zero, neg_zero, ite_self, zero_mul]
        rw [toInt?_eq_some_iff.mpr whole] at fraction
        cases fraction
      cases other with
      | finite negative' magnitude' =>
          obtain ⟨rfl, equal⟩ := value_injective (Key.number.inj same) nonzero
          rw [Fin.ext equal]
      | infinity negative' => cases same
      | nan => cases same
  | infinity negative =>
      cases other with
      | infinity negative' => rw [Key.infinity.inj same]
      | _ => cases same
  | nan =>
      cases other with
      | nan => rfl
      | _ => cases same

namespace Json

/-- The key that a value is; lists, objects and what is no value of JSON are none. -/
def key? : Json → Option Key
  | .null => some .null
  | .bool value => some (.number (if value then 1 else 0))
  | .integer n => some (.number n)
  | .float d => some d.key
  | .string text => some (.text text)
  | _ => none

end Json

def Json.Number.key : Json.Number → Key
  | .whole n => .number n
  | .fraction d => d.key

namespace Json

theorem key?_of_number {value : Json} {number : Number} (known : value.number? = some number) :
    value.key? = some number.key := by
  cases value with
  | bool value =>
      cases known
      cases value <;> simp [key?, Number.key]
  | integer n =>
      cases known
      rfl
  | float d =>
      simp only [number?] at known
      split at known
      · next n whole =>
        cases known
        cases d with
        | finite negative magnitude =>
            exact congrArg (fun q => some (Key.number q)) (Double.toInt?_eq_some_iff.mp whole)
        | infinity negative => cases whole
        | nan => cases whole
      · cases known
        rfl
  | null => cases known
  | string text => cases known
  | array items => cases known
  | object members => cases known
  | foreign kind => cases known

/-- A double that is kept as it is equals no whole number. -/
theorem toInt?_of_fraction {value : Json} {d : Double} (known : value.number? = some (.fraction d)) :
    d.toInt? = none := by
  cases value with
  | float other =>
      simp only [number?] at known
      split at known
      · cases known
      · next none =>
        cases known
        exact none
  | bool value => cases known
  | integer n => cases known
  | null => cases known
  | string text => cases known
  | array items => cases known
  | object members => cases known
  | foreign kind => cases known

theorem number_eq_of_key_eq {value value' : Json} {number number' : Number}
    (known : value.number? = some number) (known' : value'.number? = some number')
    (same : number.key = number'.key) : number = number' := by
  cases number with
  | whole n =>
      cases number' with
      | whole m => exact congrArg Number.whole (Int.cast_injective (Key.number.inj same))
      | fraction d =>
          have fraction := toInt?_of_fraction known'
          rw [Double.toInt?_of_key same.symm] at fraction
          cases fraction
  | fraction d =>
      have fraction := toInt?_of_fraction known
      cases number' with
      | whole m =>
          rw [Double.toInt?_of_key same] at fraction
          cases fraction
      | fraction d' => rw [Double.eq_of_key_eq fraction same]

theorem number?_of_key {value other : Json} {number : Number}
    (known : value.number? = some number) (same : other.key? = some number.key) :
    other.number? = some number := by
  have numeric : number.key ≠ .null ∧ ∀ text, number.key ≠ .text text := by
    cases number with
    | whole n => exact ⟨nofun, nofun⟩
    | fraction d => exact ⟨d.key_ne_null, d.key_ne_text⟩
  cases known' : other.number? with
  | some number' =>
      rw [key?_of_number known'] at same
      rw [number_eq_of_key_eq known' known (Option.some.inj same)]
  | none =>
      cases other with
      | null => exact absurd (Option.some.inj same).symm numeric.1
      | string text => exact absurd (Option.some.inj same).symm (numeric.2 text)
      | bool value => cases known'
      | integer n => cases known'
      | float d =>
          simp only [number?] at known'
          split at known' <;> cases known'
      | array items => cases same
      | object members => cases same
      | foreign kind => cases same

/-- Values are the same key exactly if both are one. -/
theorem sameKey_iff {value other : Json} :
    value.sameKey other = true ↔ ∃ key, value.key? = some key ∧ other.key? = some key := by
  cases known : value.number? with
  | some number =>
      rw [sameKey_of_number known, decide_eq_true_eq, key?_of_number known]
      constructor
      · exact fun same => ⟨_, rfl, key?_of_number same⟩
      · rintro ⟨key, own, same⟩
        exact number?_of_key known (same.trans own.symm)
  | none =>
      cases value with
      | null => cases other <;> simp [sameKey, key?, number?]
      | string text => cases other <;> simp [sameKey, key?, number?, eq_comm]
      | bool value => cases known
      | integer n => cases known
      | float d =>
          simp only [number?] at known
          split at known <;> cases known
      | array items => simp [sameKey, key?, number?]
      | object members => simp [sameKey, key?, number?]
      | foreign kind => simp [sameKey, key?, number?]

example : (Json.float (.ofInt 1)).sameKey (.bool true) = true ∧
    (Json.float (.finite true ⟨0, by decide⟩)).sameKey (.integer 0) = true ∧
    (Json.string "1").sameKey (.integer 1) = false := by decide +kernel

end Json

end LanguageSession
