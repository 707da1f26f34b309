import MotorTariff.Binary64.Text
import MotorTariff.Json.Number
import MotorTariff.Proofs.Binary64.Nearest
import MotorTariff.Proofs.Decimal.HalfAway

/-!
# What operations on doubles return

The magnitude of a double is a rational number, and every operation returns the rounding of the
exact result on magnitudes. Rounding does not even double a magnitude and halves none from one on,
which bounds every double that stands for a decimal.
-/

set_option autoImplicit false

namespace MotorTariff.Binary64

-- Powers are the core library's own, also where other libraries define some.
attribute [local instance (high)] instPowNat

open Rounding

def magnitude (x : Binary64) : Rat := x.units / unitsPerOne

/-- The magnitude of the double nearest to this magnitude. -/
def rounded (q : Rat) : Rat := nearest (q * unitsPerOne) / unitsPerOne

section Magnitude

variable (x y : Binary64)

theorem units_eq_magnitude_mul : (x.units : Rat) = x.magnitude * unitsPerOne := by
  rw [magnitude, div_mul_cancel₀ _ units_per_one_pos.ne']

theorem magnitude_nonneg : 0 ≤ x.magnitude :=
  div_nonneg (Nat.cast_nonneg _) units_per_one_pos.le

theorem magnitude_with_sign (negative : Bool) :
    (x.withSign negative).magnitude = x.magnitude := rfl

theorem is_zero_iff_magnitude : x.isZero = true ↔ x.magnitude = 0 := by
  rw [isZero, beq_iff_eq, magnitude, div_eq_zero_iff, or_iff_left units_per_one_pos.ne',
    Nat.cast_eq_zero]

theorem magnitude_of_rounded_units {numerator denominator : Nat} (positive : 0 < denominator)
    {q : Rat} (exact : (numerator : Rat) / denominator = q * unitsPerOne)
    (rounds : x.units = roundUnits numerator denominator) : x.magnitude = rounded q := by
  rw [magnitude, rounds, round_units_eq_nearest numerator positive, exact, rounded]

theorem magnitude_of_nat (n : Nat) : (ofNat n).magnitude = rounded n := by
  refine magnitude_of_rounded_units _ Nat.one_pos ?_ rfl
  push_cast
  rw [div_one]

theorem magnitude_add : (x.addMagnitudes y).magnitude = rounded (x.magnitude + y.magnitude) := by
  refine magnitude_of_rounded_units _ Nat.one_pos ?_ rfl
  push_cast
  rw [div_one, add_mul, ← units_eq_magnitude_mul, ← units_eq_magnitude_mul]

theorem magnitude_mul : (x.mul y).magnitude = rounded (x.magnitude * y.magnitude) := by
  have positive := units_per_one_pos
  refine magnitude_of_rounded_units _ (by exact_mod_cast positive) ?_ rfl
  push_cast
  rw [units_eq_magnitude_mul x, units_eq_magnitude_mul y, div_eq_iff positive.ne']
  ring

theorem magnitude_div (nonzero : y.magnitude ≠ 0) :
    (x.div y).magnitude = rounded (x.magnitude / y.magnitude) := by
  have positive := units_per_one_pos
  have divisor : 0 < y.units := by
    rw [Nat.pos_iff_ne_zero]
    intro zero
    rw [magnitude, zero, Nat.cast_zero, zero_div] at nonzero
    exact nonzero rfl
  refine magnitude_of_rounded_units _ divisor ?_ rfl
  push_cast
  rw [units_eq_magnitude_mul x, units_eq_magnitude_mul y]
  field_simp

theorem magnitude_round_to_integer :
    x.roundToInteger.magnitude = rounded (halfAway x.magnitude) := by
  have positive := units_per_one_pos
  refine magnitude_of_rounded_units _ Nat.one_pos ?_ rfl
  rw [magnitude, half_away_quotient x.units (by exact_mod_cast positive)]
  push_cast
  rw [div_one]

end Magnitude

section Bounds

variable {q : Rat}

theorem rounded_nonneg (nonneg : 0 ≤ q) : 0 ≤ rounded q :=
  div_nonneg (nearest_nonneg (mul_nonneg nonneg units_per_one_pos.le)) units_per_one_pos.le

theorem one_le_units_per_one : (1 : Rat) ≤ unitsPerOne := by
  rw [units_per_one_cast]
  exact one_le_pow₀ (by norm_num)

theorem rounded_le (nonneg : 0 ≤ q) : rounded q ≤ 2 * q + 1 := by
  have positive := units_per_one_pos
  have units := nearest_le_double (mul_nonneg nonneg positive.le)
  rw [rounded, div_le_iff₀ positive]
  linarith [one_le_units_per_one]

theorem abs_rounded_sub_le (normal : 2 ^ 52 ≤ q * unitsPerOne) : |rounded q - q| ≤ q / 2 ^ 53 := by
  have positive := units_per_one_pos
  have share := abs_nearest_sub_le_share normal
  have scaled : |rounded q - q| * unitsPerOne = |nearest (q * unitsPerOne) - q * unitsPerOne| := by
    rw [← abs_of_pos positive, ← abs_mul, abs_of_pos positive, sub_mul, rounded,
      div_mul_cancel₀ _ positive.ne']
  rw [← mul_le_mul_iff_of_pos_right positive, scaled]
  linarith

theorem normal_of_half_le (large : 1 / 2 ≤ q) : 2 ^ 52 ≤ q * unitsPerOne := by
  have power : (2 : Rat) ^ (52 + 1) ≤ 2 ^ 1074 := pow_le_pow_right₀ (by norm_num) (by norm_num)
  rw [← units_per_one_cast, pow_succ] at power
  have scaled := mul_le_mul_of_nonneg_right large units_per_one_pos.le
  linarith

theorem half_le_rounded (large : 1 ≤ q) : q / 2 ≤ rounded q := by
  have normal : 2 ^ 52 ≤ q * unitsPerOne := normal_of_half_le (by linarith)
  have lower := (abs_le.mp (abs_rounded_sub_le normal)).1
  norm_num at lower ⊢
  linarith

theorem rounded_rounded (normal : 2 ^ 52 ≤ q * unitsPerOne) : rounded (rounded q) = rounded q := by
  have units := nearest_nearest normal
  rw [rounded, rounded, div_mul_cancel₀ _ units_per_one_pos.ne', units]

theorem rounded_of_bits {significand : Nat} (small : significand < 2 ^ 53) (places : Nat) :
    rounded ((significand : Rat) * 2 ^ places) = significand * 2 ^ places := by
  have shifted : (significand : Rat) * 2 ^ places * unitsPerOne =
      significand * 2 ^ (places + 1074) := by
    rw [units_per_one_cast, pow_add, mul_assoc]
  rw [rounded, shifted, nearest_of_bits small, ← shifted,
    mul_div_cancel_right₀ _ units_per_one_pos.ne']

theorem rounded_of_nat {n : Nat} (small : n < 2 ^ 53) : rounded n = n := by
  have exact := rounded_of_bits small 0
  rwa [pow_zero, mul_one] at exact

/-- A power of ten is a double as long as that of five has few enough bits. -/
theorem rounded_power_of_ten {places : Nat} (few : places ≤ 22) :
    rounded ((10 ^ places : Nat) : Rat) = 10 ^ places := by
  have small : 5 ^ places < 2 ^ 53 :=
    Nat.lt_of_le_of_lt (Nat.pow_le_pow_right (by decide) few) (by decide)
  have split : (10 : Rat) ^ places = ((5 ^ places : Nat) : Rat) * 2 ^ places := by
    push_cast
    rw [← mul_pow]
    norm_num
  rw [Nat.cast_pow, Nat.cast_ofNat, split]
  exact rounded_of_bits small places

end Bounds

section Size

variable {x : Binary64} {bits : Nat}

theorem units_le_of_magnitude (bound : x.magnitude ≤ 2 ^ bits) : x.units ≤ 2 ^ (bits + 1074) := by
  have units := mul_le_mul_of_nonneg_right bound units_per_one_pos.le
  rw [← units_eq_magnitude_mul, units_per_one_cast, ← pow_add] at units
  exact_mod_cast units

theorem log2_lt_of_magnitude (bound : x.magnitude ≤ 2 ^ bits) : x.units.log2 < bits + 1075 := by
  rcases Nat.eq_zero_or_pos x.units with zero | positive
  · rw [zero]
    exact Nat.succ_pos _
  · rw [Nat.log2_lt positive.ne', ← Nat.succ_eq_add_one, Nat.pow_succ]
    have units := units_le_of_magnitude bound
    omega

theorem finite_of_magnitude_le (bound : x.magnitude ≤ 2 ^ bits) (few : bits < 1024) :
    x.isInfinite = false := by
  -- The bound on the bits is left open, so that no power is computed.
  unfold isInfinite unitsPerOne
  generalize 1024 = limit at few ⊢
  have units := units_le_of_magnitude bound
  have power : 2 ^ (bits + 1074) < 2 ^ (limit + 1074) := Nat.pow_lt_pow_right (by decide) (by omega)
  rw [Nat.pow_add 2 limit] at power
  rw [decide_eq_false_iff_not]
  exact fun infinite => absurd (infinite.trans units) (Nat.not_le.mpr power)

end Size

end MotorTariff.Binary64
