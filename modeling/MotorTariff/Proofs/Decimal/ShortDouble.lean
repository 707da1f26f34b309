import MotorTariff.Proofs.Binary64.ShortDecimal
import MotorTariff.Proofs.Decimal.Double

/-!
# The double that stands for a short decimal

With few enough digits the errors of adding up the double of a decimal come to less than half of its
last place, where they are rounded away. So the double is the nearest one to the decimal.
-/

set_option autoImplicit false

namespace MotorTariff.Decimal

-- Powers are the core library's own, also where other libraries define some.
attribute [local instance (high)] instPowNat

open Rounding Binary64

/-- Few digits as it is held, trailing zeros included, or a whole number that is not too large. -/
def FewDigits (amount : Decimal) : Prop :=
  amount.mantissa ≤ exactLimit ∨
    amount.mantissa % 10 ^ amount.scale = 0 ∧ amount.mantissa / 10 ^ amount.scale ≤ exactLimit

instance (amount : Decimal) : Decidable amount.FewDigits :=
  inferInstanceAs (Decidable (_ ∨ _))

structure IsShort (amount : Decimal) : Prop where
  few_places : amount.scale ≤ 22
  few_digits : amount.FewDigits

theorem power_of_ten_exact :
    ∀ scale ≤ 22, ((ofNat 10).power scale).units = 10 ^ scale * unitsPerOne := by
  decide +kernel

theorem magnitude_of_power {scale : Nat} (few : scale ≤ 22) :
    ((ofNat 10).power scale).magnitude = 10 ^ scale := by
  rw [magnitude, power_of_ten_exact scale few, Nat.cast_mul,
    mul_div_cancel_right₀ _ units_per_one_pos.ne']
  push_cast
  rfl

theorem half_away_of_near {x : Rat} {n : Nat} (near : |x - n| < 1 / 2) : halfAway x = n := by
  obtain ⟨lower, upper⟩ := abs_lt.mp near
  rcases le_or_gt 0 x with nonneg | negative
  · rw [half_away_of_nonneg nonneg, Int.floor_eq_iff, Int.cast_natCast]
    constructor <;> linarith
  · have count : (0 : Rat) ≤ n := Nat.cast_nonneg n
    have small : (n : Rat) < 1 := by linarith
    have zero : n = 0 := by exact_mod_cast Nat.lt_one_iff.mp (by exact_mod_cast small)
    have floor : ⌊-x + 1 / 2⌋ = 0 := by
      rw [zero, Nat.cast_zero] at lower
      rw [Int.floor_eq_iff]
      push_cast
      constructor <;> linarith
    rw [halfAway, if_neg (not_le.mpr negative), floor, zero]
    rfl

section Errors

/-- Three roundings in a row, of the fraction, of the sum with an integer part, and of the mantissa,
miss it by less than a half. -/
theorem mantissa_error {mantissa scaledFraction fraction integer sum product : Rat}
    (limit : mantissa ≤ 1801439850948198) (split : mantissa = integer + fraction)
    (carry : fraction ≤ integer)
    (first : |scaledFraction - fraction| ≤ fraction / 2 ^ 53)
    (second : |sum - (integer + scaledFraction)| ≤ (integer + scaledFraction) / 2 ^ 53)
    (third : |product - sum| ≤ sum / 2 ^ 53) : |product - mantissa| < 1 / 2 := by
  obtain ⟨firstLow, firstHigh⟩ := abs_le.mp first
  obtain ⟨secondLow, secondHigh⟩ := abs_le.mp second
  obtain ⟨thirdLow, thirdHigh⟩ := abs_le.mp third
  rw [abs_lt]
  norm_num at *
  constructor <;> linarith

theorem fraction_error {mantissa scaledFraction product : Rat}
    (limit : mantissa ≤ 1801439850948198)
    (first : |scaledFraction - mantissa| ≤ mantissa / 2 ^ 53)
    (third : |product - scaledFraction| ≤ scaledFraction / 2 ^ 53) :
    |product - mantissa| < 1 / 2 := by
  obtain ⟨firstLow, firstHigh⟩ := abs_le.mp first
  obtain ⟨thirdLow, thirdHigh⟩ := abs_le.mp third
  rw [abs_lt]
  norm_num at *
  constructor <;> linarith

theorem scaled_error {a b scale : Rat} (positive : 0 < scale) (error : |a - b| ≤ b / 2 ^ 53) :
    |a * scale - b * scale| ≤ b * scale / 2 ^ 53 := by
  have product : |a * scale - b * scale| = |a - b| * scale := by
    rw [← sub_mul, abs_mul, abs_of_pos positive]
  rw [product]
  linarith [mul_le_mul_of_nonneg_right error positive.le]

end Errors

section Short

variable {amount : Decimal} (small : amount.mantissa ≤ exactLimit)

section Digits

include small

theorem limit_lt_bits : amount.mantissa < 2 ^ 53 :=
  Nat.lt_of_le_of_lt small (by decide)

theorem integer_double_exact :
    amount.integerDouble.magnitude = (amount.mantissa / 10 ^ amount.scale : Nat) := by
  have bits := Nat.lt_of_le_of_lt (Nat.div_le_self amount.mantissa (10 ^ amount.scale))
    (limit_lt_bits small)
  rw [integerDouble, magnitude_of_nat, rounded_of_nat bits]

end Digits

variable (few : amount.scale ≤ 22)

include few

theorem magnitude_of_scale : (ofNat (10 ^ amount.scale)).magnitude = 10 ^ amount.scale := by
  rw [magnitude_of_nat, rounded_power_of_ten few]

include small

theorem fraction_double_rounded :
    amount.fractionDouble.magnitude =
      rounded ((amount.mantissa % 10 ^ amount.scale : Nat) / 10 ^ amount.scale) := by
  have bits := Nat.lt_of_le_of_lt (Nat.mod_le amount.mantissa (10 ^ amount.scale))
    (limit_lt_bits small)
  have power : (10 : Rat) ^ amount.scale ≠ 0 := by positivity
  rw [fractionDouble, magnitude_div _ _ (by rw [magnitude_of_scale few]; exact power),
    magnitude_of_nat, rounded_of_nat bits, magnitude_of_scale few]

variable (present : 0 < amount.mantissa % 10 ^ amount.scale)

include present

theorem fraction_double_near :
    |amount.fractionDouble.magnitude -
        (amount.mantissa % 10 ^ amount.scale : Nat) / 10 ^ amount.scale| ≤
      (amount.mantissa % 10 ^ amount.scale : Nat) / 10 ^ amount.scale / 2 ^ 53 := by
  rw [fraction_double_rounded small few]
  exact abs_rounded_sub_le (short_is_normal present few)

theorem fraction_double_pos : 0 < amount.fractionDouble.magnitude := by
  have lower := (abs_le.mp (fraction_double_near small few present)).1
  have digits : (0 : Rat) < (amount.mantissa % 10 ^ amount.scale : Nat) := by exact_mod_cast present
  have quotient : (0 : Rat) < (amount.mantissa % 10 ^ amount.scale : Nat) / 10 ^ amount.scale :=
    div_pos digits (by positivity)
  norm_num at lower
  linarith

theorem scaled_fraction_near :
    |amount.fractionDouble.magnitude * 10 ^ amount.scale -
        (amount.mantissa % 10 ^ amount.scale : Nat)| ≤
      (amount.mantissa % 10 ^ amount.scale : Nat) / 2 ^ 53 := by
  have power : (0 : Rat) < 10 ^ amount.scale := by positivity
  have near := scaled_error power (fraction_double_near small few present)
  rwa [div_mul_cancel₀ _ power.ne'] at near

theorem product_near_of_fraction (none : amount.mantissa / 10 ^ amount.scale = 0) :
    |rounded
        (rounded ((amount.mantissa / 10 ^ amount.scale : Nat) + amount.fractionDouble.magnitude) *
          10 ^ amount.scale) - amount.mantissa| < 1 / 2 := by
  have limit : (amount.mantissa : Rat) ≤ 1801439850948198 := by exact_mod_cast small
  have digits : (1 : Rat) ≤ (amount.mantissa % 10 ^ amount.scale : Nat) := by exact_mod_cast present
  have near := scaled_fraction_near small few present
  have all : amount.mantissa % 10 ^ amount.scale = amount.mantissa := by
    have split := Nat.div_add_mod' amount.mantissa (10 ^ amount.scale)
    rwa [none, Nat.zero_mul, Nat.zero_add] at split
  rw [none, Nat.cast_zero, zero_add, fraction_double_rounded small few,
    rounded_rounded (short_is_normal present few), ← fraction_double_rounded small few]
  rw [all] at near digits
  have lowest := (abs_le.mp near).1
  refine fraction_error limit near (abs_rounded_sub_le (normal_of_half_le ?_))
  norm_num at lowest
  linarith

theorem product_near_of_integer (some : 0 < amount.mantissa / 10 ^ amount.scale) :
    |rounded
        (rounded ((amount.mantissa / 10 ^ amount.scale : Nat) + amount.fractionDouble.magnitude) *
          10 ^ amount.scale) - amount.mantissa| < 1 / 2 := by
  have power : (0 : Rat) < 10 ^ amount.scale := by positivity
  have limit : (amount.mantissa : Rat) ≤ 1801439850948198 := by exact_mod_cast small
  have split : (amount.mantissa : Rat) =
      (amount.mantissa / 10 ^ amount.scale : Nat) * 10 ^ amount.scale +
        (amount.mantissa % 10 ^ amount.scale : Nat) := by
    exact_mod_cast (Nat.div_add_mod' amount.mantissa (10 ^ amount.scale)).symm
  have carry : ((amount.mantissa % 10 ^ amount.scale : Nat) : Rat) ≤
      (amount.mantissa / 10 ^ amount.scale : Nat) * 10 ^ amount.scale := by
    have below := Nat.mod_lt amount.mantissa (Nat.pow_pos (n := amount.scale) (by decide : 0 < 10))
    have whole := below.le.trans (Nat.le_mul_of_pos_left (10 ^ amount.scale) some)
    exact_mod_cast whole
  have one : (1 : Rat) ≤ (amount.mantissa / 10 ^ amount.scale : Nat) := by exact_mod_cast some
  have fraction := fraction_double_pos small few present
  have large : (1 : Rat) ≤
      (amount.mantissa / 10 ^ amount.scale : Nat) + amount.fractionDouble.magnitude := by linarith
  have sum := abs_rounded_sub_le (normal_of_half_le (le_trans (by norm_num) large))
  have second := scaled_error power sum
  rw [add_mul] at second
  refine mantissa_error limit split carry (scaled_fraction_near small few present) second
    (abs_rounded_sub_le (normal_of_half_le ?_))
  have half := half_le_rounded large
  have tens : (1 : Rat) ≤ 10 ^ amount.scale := one_le_pow₀ (by norm_num)
  have scaled := mul_le_mul half tens (by norm_num) (rounded_nonneg (by linarith))
  linarith

theorem settled_double_nearest :
    amount.settledDouble.magnitude = rounded (amount.mantissa / 10 ^ amount.scale) := by
  have power : (10 : Rat) ^ amount.scale ≠ 0 := by positivity
  have places := magnitude_of_power few
  have near := (Nat.eq_zero_or_pos (amount.mantissa / 10 ^ amount.scale)).elim
    (product_near_of_fraction small few present) (product_near_of_integer small few present)
  rw [settledDouble, magnitude_div _ _ (by rw [places]; exact power), magnitude_round_to_integer,
    magnitude_mul, magnitude_add, integer_double_exact small, places, half_away_of_near near,
    Int.cast_natCast, rounded_of_nat (limit_lt_bits small)]

end Short

theorem fraction_double_zero {amount : Decimal} (few : amount.scale ≤ 22)
    (whole : amount.mantissa % 10 ^ amount.scale = 0) : amount.fractionDouble.isZero = true := by
  have power : (10 : Rat) ^ amount.scale ≠ 0 := by positivity
  have nothing : rounded ((0 : Nat) : Rat) = 0 := by
    rw [rounded_of_nat (by norm_num), Nat.cast_zero]
  rw [is_zero_iff_magnitude, fractionDouble,
    magnitude_div _ _ (by rw [magnitude_of_scale few]; exact power), magnitude_of_nat, whole,
    nothing, zero_div]
  exact_mod_cast nothing

theorem quotient_of_whole {amount : Decimal} (whole : amount.mantissa % 10 ^ amount.scale = 0) :
    (amount.mantissa : Rat) / 10 ^ amount.scale = (amount.mantissa / 10 ^ amount.scale : Nat) := by
  have power : (10 : Rat) ^ amount.scale ≠ 0 := by positivity
  have split : (amount.mantissa : Rat) =
      (amount.mantissa / 10 ^ amount.scale : Nat) * 10 ^ amount.scale := by
    exact_mod_cast (Nat.div_mul_cancel (Nat.dvd_of_mod_eq_zero whole)).symm
  rw [div_eq_iff power, split]

/-- Nothing that is lost on the way remains: the double is the one nearest to the decimal. -/
theorem magnitude_of_short {amount : Decimal} (short : amount.IsShort) :
    amount.toBinary64.magnitude = rounded (amount.mantissa / 10 ^ amount.scale) := by
  have few := short.few_places
  rcases eq_or_ne amount.scale 0 with whole | fraction
  · rw [magnitude_of_whole amount whole, whole, pow_zero, div_one]
  rcases Nat.eq_zero_or_pos (amount.mantissa % 10 ^ amount.scale) with none | present
  · rw [magnitude_of_no_fraction amount fraction (fraction_double_zero few none), integerDouble,
      magnitude_of_nat, quotient_of_whole none]
  · have small : amount.mantissa ≤ exactLimit := by
      rcases short.few_digits with small | ⟨none, -⟩
      · exact small
      · exact absurd none present.ne'
    have nonzero : amount.fractionDouble.isZero = false := by
      rw [← Bool.not_eq_true, is_zero_iff_magnitude]
      exact (fraction_double_pos small few present).ne'
    rw [magnitude_of_fraction amount fraction nonzero, settled_double_nearest small few present]

theorem quotient_of_short {amount : Decimal} (short : amount.IsShort) :
    ∃ n t, n ≤ exactLimit ∧ t ≤ 22 ∧ (amount.mantissa : Rat) / 10 ^ amount.scale = n / 10 ^ t := by
  rcases short.few_digits with small | ⟨none, small⟩
  · exact ⟨amount.mantissa, amount.scale, small, short.few_places, rfl⟩
  · refine ⟨amount.mantissa / 10 ^ amount.scale, 0, small, Nat.zero_le _, ?_⟩
    rw [pow_zero, div_one, quotient_of_whole none]

end MotorTariff.Decimal
