import Mathlib
import FilterAssist.Binary64.Basic

set_option autoImplicit false

/-!
Rounding to 53 binary digits. It depends on the quotient alone, and what it gives it leaves as it is. Comparing
finite numbers is comparing the rationals they stand for, and small integers stand for themselves.
-/
namespace FilterAssist.Binary64

theorem round_quotient_scaled (factor numerator denominator : Nat) (positive : 0 < factor) :
    roundQuotient (factor * numerator) (factor * denominator) = roundQuotient numerator denominator := by
  have quotient := Nat.mul_div_mul_left numerator denominator positive
  have remainder : 2 * (factor * numerator % (factor * denominator)) = factor * (2 * (numerator % denominator)) := by
    rw [Nat.mul_mod_mul_left]
    ring
  simp only [roundQuotient, quotient, remainder, Nat.mul_lt_mul_left positive, Nat.mul_right_inj positive.ne']

theorem round_units_scaled (factor numerator denominator : Nat) (positive : 0 < factor) :
    roundUnits (factor * numerator) (factor * denominator) = roundUnits numerator denominator := by
  simp only [roundUnits, Nat.mul_div_mul_left numerator denominator positive, Nat.mul_assoc,
    round_quotient_scaled factor _ _ positive]

theorem of_quotient_scaled (negative : Bool) (factor numerator denominator : Nat) (positive : 0 < factor) :
    ofQuotient negative (factor * numerator) (factor * denominator) = ofQuotient negative numerator denominator := by
  simp only [ofQuotient, round_units_scaled factor numerator denominator positive]

theorem round_quotient_bound (numerator denominator : Nat) :
    roundQuotient numerator denominator ≤ numerator / denominator + 1 := by
  unfold roundQuotient
  dsimp only
  split <;> omega

theorem round_quotient_whole (factor denominator : Nat) (positive : 0 < denominator) :
    roundQuotient (factor * denominator) denominator = factor := by
  simp only [roundQuotient, Nat.mul_mod_left, Nat.mul_div_cancel factor positive]
  exact if_neg (by omega)

theorem round_units_form (numerator denominator : Nat) :
    ∃ significand exponent, significand ≤ 2 ^ 53 ∧ roundUnits numerator denominator = significand * 2 ^ exponent := by
  let exponent := (numerator / denominator).log2 - 52
  refine ⟨roundQuotient numerator (denominator * 2 ^ exponent), exponent, ?_, rfl⟩
  have bound := round_quotient_bound numerator (denominator * 2 ^ exponent)
  have large : numerator / denominator < 2 ^ 53 * 2 ^ exponent := by
    rw [← Nat.pow_add]
    exact Nat.lt_of_lt_of_le Nat.lt_log2_self (Nat.pow_le_pow_right (by decide) (by omega))
  have small : numerator / (denominator * 2 ^ exponent) < 2 ^ 53 := by
    rw [← Nat.div_div_eq_div_mul]
    exact (Nat.div_lt_iff_lt_mul (Nat.pow_pos (by decide))).mpr large
  omega

theorem round_units_fixed (significand exponent : Nat) (fits : significand ≤ 2 ^ 53) :
    roundUnits (significand * 2 ^ exponent) 1 = significand * 2 ^ exponent := by
  obtain ⟨units, shape⟩ : ∃ units, units = significand * 2 ^ exponent := ⟨_, rfl⟩
  rw [← shape]
  -- The last of the 53 digits is worth a power of two that divides the number.
  have divides : 2 ^ (units.log2 - 52) ∣ units := by
    by_cases low : units.log2 - 52 ≤ exponent
    · exact (Dvd.dvd.mul_left (Nat.pow_dvd_pow 2 low) significand).trans (dvd_of_eq shape.symm)
    · have nonzero : units ≠ 0 := by
        intro zero
        simp [zero] at low
      have most : units ≤ 2 ^ (53 + exponent) := by
        rw [shape, Nat.pow_add]
        exact Nat.mul_le_mul_right _ fits
      have least : 2 ^ (53 + exponent) ≤ units :=
        Nat.le_trans (Nat.pow_le_pow_right (by decide) (by omega)) (Nat.log2_self_le nonzero)
      have power : units = 2 ^ (53 + exponent) := Nat.le_antisymm most least
      rw [power, Nat.log2_two_pow]
      exact Nat.pow_dvd_pow 2 (by omega)
  obtain ⟨factor, parts⟩ := divides
  have whole := round_quotient_whole factor (2 ^ (units.log2 - 52)) (Nat.pow_pos (by decide))
  rw [Nat.mul_comm factor, ← parts] at whole
  rw [roundUnits, Nat.div_one, Nat.one_mul, Nat.pow_eq, whole, Nat.mul_comm, ← parts]

theorem round_units_again (numerator denominator : Nat) :
    roundUnits (roundUnits numerator denominator) 1 = roundUnits numerator denominator := by
  obtain ⟨significand, exponent, fits, form⟩ := round_units_form numerator denominator
  rw [form, round_units_fixed significand exponent fits]

def Rounded (number : Binary64) : Prop :=
  ∀ negative units, number = .finite negative units → roundUnits units 1 = units ∧ units < unitsLimit

theorem of_quotient_rounded (negative : Bool) (numerator denominator : Nat) :
    (ofQuotient negative numerator denominator).Rounded := by
  intro sign units same
  by_cases inside : roundUnits numerator denominator < unitsLimit
  · rw [ofQuotient, if_pos inside] at same
    obtain ⟨_, rfl⟩ := finite.inj same
    exact ⟨round_units_again numerator denominator, inside⟩
  · rw [ofQuotient, if_neg inside] at same
    cases same

theorem units_per_one : unitsPerOne = 2 ^ 1074 := by decide +kernel

theorem units_limit : unitsLimit = 2 ^ 2098 := by decide +kernel

theorem units_per_one_positive : 0 < unitsPerOne := by
  rw [units_per_one]
  positivity

def toRat? : Binary64 → Option ℚ
  | .finite negative units => some (signedUnits negative units / unitsPerOne)
  | _ => none

theorem le_to_rat (a b : Binary64) (p q : ℚ) (left : a.toRat? = some p) (right : b.toRat? = some q) :
    a.le b = true ↔ p ≤ q := by
  have one : (0 : ℚ) < unitsPerOne := by exact_mod_cast units_per_one_positive
  cases a with
  | nan => cases left
  | infinite negative => cases left
  | finite negative units =>
      cases b with
      | nan => cases right
      | infinite other => cases right
      | finite other more =>
          cases left
          cases right
          rw [div_le_div_iff_of_pos_right one, Int.cast_le, le, decide_eq_true_eq]

theorem power_bound (n size exponent limit : Nat) (small : n ≤ 2 ^ size) (room : size + exponent < limit) :
    n * 2 ^ exponent < 2 ^ limit :=
  calc n * 2 ^ exponent ≤ 2 ^ size * 2 ^ exponent := Nat.mul_le_mul_right _ small
    _ = 2 ^ (size + exponent) := (Nat.pow_add 2 size exponent).symm
    _ < 2 ^ limit := Nat.pow_lt_pow_right (by decide) room

theorem of_int_small (n : Int) (small : n.natAbs ≤ 2 ^ 53) :
    ofInt n = .finite (decide (n < 0)) (n.natAbs * unitsPerOne) := by
  have same : roundUnits (n.natAbs * unitsPerOne) 1 = n.natAbs * unitsPerOne := by
    rw [units_per_one]
    exact round_units_fixed n.natAbs 1074 small
  have inside : n.natAbs * unitsPerOne < unitsLimit := by
    rw [units_per_one, units_limit]
    exact power_bound n.natAbs 53 1074 2098 small (by decide)
  rw [ofInt, ofQuotient, same, if_pos inside]

theorem of_int_to_rat (n : Int) (small : n.natAbs ≤ 2 ^ 53) : (ofInt n).toRat? = some (n : ℚ) := by
  have one : (unitsPerOne : ℚ) ≠ 0 := by exact_mod_cast units_per_one_positive.ne'
  have signed : signedUnits (decide (n < 0)) (n.natAbs * unitsPerOne) = n * unitsPerOne := by
    generalize unitsPerOne = units
    by_cases negative : n < 0
    · have size : (n.natAbs : Int) = -n := by omega
      simp [signedUnits, negative, size]
    · have size : (n.natAbs : Int) = n := by omega
      simp [signedUnits, negative, size]
  rw [of_int_small n small, toRat?, signed, Int.cast_mul, Int.cast_natCast, mul_div_cancel_right₀ _ one]

end FilterAssist.Binary64
