import MotorTariff.Proofs.Binary64.Operations

/-!
# The double that stands for a decimal

A decimal with a fraction goes through several roundings. No one of them more than doubles what it
rounds, up to a unit, so the double of any decimal stays far below infinity.
-/

set_option autoImplicit false

namespace MotorTariff.Decimal

-- Powers are the core library's own, also where other libraries define some.
attribute [local instance (high)] instPowNat

open Rounding Binary64

theorem power_of_ten_reaches_one :
    ∀ scale ≤ 28, unitsPerOne ≤ ((ofNat 10).power scale).units := by
  decide +kernel

theorem one_le_power_of_ten {scale : Nat} (places : scale ≤ 28) :
    1 ≤ ((ofNat 10).power scale).magnitude := by
  have units := power_of_ten_reaches_one scale places
  rw [magnitude, le_div_iff₀ units_per_one_pos, one_mul]
  exact_mod_cast units

section Stages

variable (amount : Decimal)

def integerDouble : Binary64 := ofNat (amount.mantissa / 10 ^ amount.scale)

def fractionDouble : Binary64 :=
  (ofNat (amount.mantissa % 10 ^ amount.scale)).div (ofNat (10 ^ amount.scale))

/-- The sum of both, rounded to a whole number of the last decimal place. -/
def settledDouble : Binary64 :=
  let places := (ofNat 10).power amount.scale
  (((amount.integerDouble.addMagnitudes amount.fractionDouble).mul places).roundToInteger).div
    places

theorem magnitude_of_whole (whole : amount.scale = 0) :
    amount.toBinary64.magnitude = rounded amount.mantissa := by
  rw [toBinary64, if_pos whole, magnitude_with_sign, magnitude_of_nat]

theorem to_binary64_of_fraction (fraction : amount.scale ≠ 0) :
    amount.toBinary64 =
      (if amount.fractionDouble.isZero then amount.integerDouble
        else amount.settledDouble).withSign amount.negative := by
  unfold toBinary64
  rw [if_neg fraction]
  change (if amount.fractionDouble.isZero then amount.integerDouble.withSign amount.negative
    else amount.settledDouble.withSign amount.negative) = _
  split_ifs <;> rfl

theorem magnitude_of_no_fraction (fraction : amount.scale ≠ 0)
    (zero : amount.fractionDouble.isZero = true) :
    amount.toBinary64.magnitude = amount.integerDouble.magnitude := by
  rw [to_binary64_of_fraction amount fraction, magnitude_with_sign, if_pos zero]

theorem magnitude_of_fraction (fraction : amount.scale ≠ 0)
    (nonzero : amount.fractionDouble.isZero = false) :
    amount.toBinary64.magnitude = amount.settledDouble.magnitude := by
  rw [to_binary64_of_fraction amount fraction, magnitude_with_sign, if_neg (by simp [nonzero])]

end Stages

section Bounds

variable (amount : Decimal)

theorem integer_double_le : amount.integerDouble.magnitude ≤ 2 ^ 98 := by
  have mantissa : ((amount.mantissa / 10 ^ amount.scale : Nat) : Rat) ≤ 2 ^ 96 := by
    have := (Nat.div_le_self amount.mantissa (10 ^ amount.scale)).trans amount.mantissa_lt.le
    exact_mod_cast this
  rw [integerDouble, magnitude_of_nat]
  linarith [rounded_le (Nat.cast_nonneg (α := Rat) (amount.mantissa / 10 ^ amount.scale))]

theorem fraction_double_le : amount.fractionDouble.magnitude ≤ 13 := by
  have power : 0 < 10 ^ amount.scale := Nat.pow_pos (by decide)
  have one : (1 : Rat) ≤ (10 ^ amount.scale : Nat) := by exact_mod_cast power
  have digits : ((amount.mantissa % 10 ^ amount.scale : Nat) : Rat) ≤
      (10 ^ amount.scale : Nat) := by
    exact_mod_cast (Nat.mod_lt _ power).le
  have upper := rounded_le (Nat.cast_nonneg (α := Rat) (amount.mantissa % 10 ^ amount.scale))
  have lower := half_le_rounded one
  have positive : 0 < rounded (10 ^ amount.scale : Nat) := by linarith
  have quotient : rounded (amount.mantissa % 10 ^ amount.scale : Nat) /
      rounded (10 ^ amount.scale : Nat) ≤ 6 := by
    rw [div_le_iff₀ positive]
    linarith
  have nonneg : 0 ≤ rounded (amount.mantissa % 10 ^ amount.scale : Nat) /
      rounded (10 ^ amount.scale : Nat) :=
    div_nonneg (rounded_nonneg (Nat.cast_nonneg _)) positive.le
  rw [fractionDouble, magnitude_div _ _ (by rw [magnitude_of_nat]; exact positive.ne'),
    magnitude_of_nat, magnitude_of_nat]
  linarith [rounded_le nonneg]

theorem settled_double_le : amount.settledDouble.magnitude ≤ 2 ^ 103 := by
  have integer := amount.integer_double_le
  have fraction := amount.fraction_double_le
  have integerNonneg := magnitude_nonneg amount.integerDouble
  have fractionNonneg := magnitude_nonneg amount.fractionDouble
  rw [settledDouble]
  generalize powerOf : (ofNat 10).power amount.scale = places
  have one : 1 ≤ places.magnitude := by
    rw [← powerOf]
    exact one_le_power_of_ten amount.scale_le
  have sum := rounded_le (add_nonneg integerNonneg fractionNonneg)
  rw [← magnitude_add] at sum
  generalize amount.integerDouble.addMagnitudes amount.fractionDouble = joined at sum ⊢
  have product := rounded_le (mul_nonneg (magnitude_nonneg joined) (magnitude_nonneg places))
  rw [← magnitude_mul] at product
  have nearest := half_away_le (magnitude_nonneg (joined.mul places))
  have nearestNonneg : (0 : Rat) ≤ halfAway (joined.mul places).magnitude := by
    exact_mod_cast half_away_nonneg (magnitude_nonneg (joined.mul places))
  have integral := rounded_le nearestNonneg
  rw [← magnitude_round_to_integer] at integral
  have quotientNonneg := div_nonneg (magnitude_nonneg (joined.mul places).roundToInteger)
    (magnitude_nonneg places)
  have quotient := rounded_le quotientNonneg
  rw [← magnitude_div _ _ (by linarith)] at quotient
  have scaled : (joined.mul places).roundToInteger.magnitude / places.magnitude ≤
      4 * joined.magnitude + 5 := by
    rw [div_le_iff₀ (by linarith)]
    linarith
  change ((joined.mul places).roundToInteger.div places).magnitude ≤ 2 ^ 103
  linarith

theorem to_binary64_le : amount.toBinary64.magnitude ≤ 2 ^ 103 := by
  rcases eq_or_ne amount.scale 0 with whole | fraction
  · have mantissa : (amount.mantissa : Rat) ≤ 2 ^ 96 := by exact_mod_cast amount.mantissa_lt.le
    rw [magnitude_of_whole amount whole]
    linarith [rounded_le (Nat.cast_nonneg (α := Rat) amount.mantissa)]
  · cases zero : amount.fractionDouble.isZero with
    | true =>
        rw [magnitude_of_no_fraction amount fraction zero]
        linarith [amount.integer_double_le]
    | false =>
        rw [magnitude_of_fraction amount fraction zero]
        exact amount.settled_double_le

theorem to_binary64_log2_lt : amount.toBinary64.units.log2 < 1200 :=
  (log2_lt_of_magnitude amount.to_binary64_le).trans (by decide)

end Bounds

end MotorTariff.Decimal
