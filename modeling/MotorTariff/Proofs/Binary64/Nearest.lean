import Mathlib.Algebra.Order.Floor.Semifield
import MotorTariff.Binary64.Basic
import MotorTariff.Proofs.Decimal.HalfEven

/-!
# Rounding to a double

A number is rounded to a multiple of the power of two that leaves 53 bits. Every operation on
doubles computes exactly and then rounds in this way, so it is off by a share of `2 ^ -53` of its
exact result, and not off at all where 53 bits are enough.
-/

set_option autoImplicit false

namespace MotorTariff.Binary64

open Rounding

theorem units_per_one_cast : (unitsPerOne : Rat) = 2 ^ 1074 := by
  rw [unitsPerOne]
  generalize 1074 = exponent
  exact Nat.cast_pow 2 exponent

theorem units_per_one_pos : (0 : Rat) < unitsPerOne := by
  rw [units_per_one_cast]
  positivity

/-- The exponent of the power of two whose multiples a number of units is rounded to. -/
def gridExponent (x : Rat) : Nat := ⌊x⌋₊.log2 - 52

/-- The number of units of the double nearest to this number of units. -/
def nearest (x : Rat) : Rat := halfEven (x / 2 ^ gridExponent x) * 2 ^ gridExponent x

theorem round_units_eq_nearest (numerator : Nat) {denominator : Nat} (positive : 0 < denominator) :
    (roundUnits numerator denominator : Rat) = nearest ((numerator : Rat) / denominator) := by
  have floor : ⌊(numerator : Rat) / denominator⌋₊ = numerator / denominator :=
    Nat.floor_div_eq_div numerator denominator
  have scaled : (numerator : Rat) / denominator / 2 ^ ((numerator / denominator).log2 - 52) =
      (numerator : Rat) /
        ((denominator * 2 ^ ((numerator / denominator).log2 - 52) : Nat) : Rat) := by
    push_cast
    rw [div_div]
  rw [nearest, gridExponent, floor, scaled,
    half_even_quotient _ (Nat.mul_pos positive (Nat.pow_pos (by decide))), roundUnits]
  push_cast
  rfl

section Error

variable {x : Rat}

theorem grid_bounds (large : 2 ^ 52 ≤ x) :
    2 ^ 52 * 2 ^ gridExponent x ≤ x ∧ x < 2 ^ 53 * 2 ^ gridExponent x := by
  have nonneg : 0 ≤ x := le_trans (by positivity) large
  have floorLarge : 2 ^ 52 ≤ ⌊x⌋₊ := Nat.le_floor (by exact_mod_cast large)
  have nonzero : ⌊x⌋₊ ≠ 0 := by
    intro zero
    rw [zero] at floorLarge
    norm_num at floorLarge
  have bits : 52 + gridExponent x = ⌊x⌋₊.log2 := by
    have := (Nat.le_log2 nonzero).mpr floorLarge
    rw [gridExponent]
    omega
  have below : ((2 ^ (52 + gridExponent x) : Nat) : Rat) ≤ ⌊x⌋₊ := by
    rw [bits]
    exact_mod_cast Nat.log2_self_le nonzero
  have above : (⌊x⌋₊ : Rat) + 1 ≤ ((2 ^ (52 + gridExponent x + 1) : Nat) : Rat) := by
    rw [bits]
    exact_mod_cast Nat.lt_log2_self (n := ⌊x⌋₊)
  push_cast at below above
  constructor
  · rw [← pow_add]
    exact below.trans (Nat.floor_le nonneg)
  · rw [← pow_add, show 53 + gridExponent x = 52 + gridExponent x + 1 by omega]
    exact (Nat.lt_floor_add_one x).trans_le above

theorem abs_nearest_sub_le (x : Rat) : |nearest x - x| ≤ 2 ^ gridExponent x / 2 := by
  have power : (0 : Rat) < 2 ^ gridExponent x := by positivity
  have near := (half_even_spec (x / 2 ^ gridExponent x)).near
  have scaled : |nearest x - x| =
      |x / 2 ^ gridExponent x - halfEven (x / 2 ^ gridExponent x)| * 2 ^ gridExponent x := by
    rw [← abs_of_pos power, ← abs_mul, abs_of_pos power, sub_mul, div_mul_cancel₀ _ power.ne',
      abs_sub_comm, nearest]
  rw [scaled]
  linarith [mul_le_mul_of_nonneg_right near power.le]

theorem abs_nearest_sub_le_share (large : 2 ^ 52 ≤ x) : |nearest x - x| ≤ x / 2 ^ 53 := by
  have half := abs_nearest_sub_le x
  have bits := (grid_bounds large).1
  rw [le_div_iff₀ (by positivity)]
  norm_num at half bits ⊢
  linarith

theorem nearest_nonneg (nonneg : 0 ≤ x) : 0 ≤ nearest x := by
  have rounded : 0 ≤ halfEven (x / 2 ^ gridExponent x) := half_even_nonneg (by positivity)
  have cast : (0 : Rat) ≤ halfEven (x / 2 ^ gridExponent x) := by exact_mod_cast rounded
  rw [nearest]
  positivity

theorem nearest_le_double (nonneg : 0 ≤ x) : nearest x ≤ 2 * x + 1 := by
  have upper := (abs_le.mp (abs_nearest_sub_le x)).2
  rcases lt_or_ge x (2 ^ 52) with small | large
  · have none : gridExponent x = 0 := by
      rcases Nat.eq_zero_or_pos ⌊x⌋₊ with zero | positive
      · rw [gridExponent, zero]
        rfl
      · have floorSmall : ⌊x⌋₊ < 2 ^ 52 := (Nat.floor_lt nonneg).mpr (by exact_mod_cast small)
        have := (Nat.log2_lt positive.ne').mpr floorSmall
        rw [gridExponent]
        omega
    rw [none, pow_zero] at upper
    linarith
  · have bits := (grid_bounds large).1
    norm_num at bits
    linarith

end Error

section Exact

theorem nearest_of_bits {significand : Nat} (small : significand < 2 ^ 53) (places : Nat) :
    nearest ((significand : Rat) * 2 ^ places) = significand * 2 ^ places := by
  have whole : (significand : Rat) * 2 ^ places = ((significand * 2 ^ places : Nat) : Rat) := by
    push_cast
    rfl
  have within : gridExponent ((significand : Rat) * 2 ^ places) ≤ places := by
    rw [gridExponent, whole, Nat.floor_natCast]
    rcases Nat.eq_zero_or_pos (significand * 2 ^ places) with zero | positive
    · rw [zero]
      exact Nat.zero_le _
    · have bound : significand * 2 ^ places < 2 ^ (53 + places) := by
        rw [pow_add]
        exact Nat.mul_lt_mul_of_pos_right small (Nat.pow_pos (by decide))
      have := (Nat.log2_lt positive.ne').mpr bound
      omega
  generalize exponent : gridExponent ((significand : Rat) * 2 ^ places) = grid at within
  have power : (2 : Rat) ^ grid ≠ 0 := by positivity
  have onGrid : (significand : Rat) * 2 ^ places / 2 ^ grid =
      ((significand * 2 ^ (places - grid) : Nat) : Int) := by
    push_cast
    rw [div_eq_iff power, mul_assoc, ← pow_add, Nat.sub_add_cancel within]
  rw [nearest, exponent, onGrid, half_even_int, ← onGrid, div_mul_cancel₀ _ power]

/-- A rounded number has 53 bits on the grid of the number it was rounded from, or one more. -/
theorem nearest_significand {x : Rat} (large : 2 ^ 52 ≤ x) :
    ∃ significand : Nat, 2 ^ 52 ≤ significand ∧ significand ≤ 2 ^ 53 ∧
      IsHalfEven (x / 2 ^ gridExponent x) significand ∧
      nearest x = (significand : Rat) * 2 ^ gridExponent x := by
  obtain ⟨below, above⟩ := grid_bounds large
  have power : (0 : Rat) < 2 ^ gridExponent x := by positivity
  have whole : ∀ bits : Nat, halfEven ((2 : Rat) ^ bits) = 2 ^ bits := by
    intro bits
    have fixed := half_even_int (2 ^ bits)
    push_cast at fixed
    exact fixed
  have lower := half_even_mono ((le_div_iff₀ power).mpr below)
  have upper := half_even_mono ((div_le_iff₀ power).mpr above.le)
  have spec := half_even_spec (x / 2 ^ gridExponent x)
  obtain ⟨significand, rounded⟩ :
      ∃ significand : Nat, halfEven (x / 2 ^ gridExponent x) = significand :=
    Int.eq_ofNat_of_zero_le (half_even_nonneg (le_trans (by positivity)
      ((le_div_iff₀ power).mpr below)))
  rw [whole, rounded] at lower upper
  rw [rounded] at spec
  refine ⟨significand, by exact_mod_cast lower, by exact_mod_cast upper, spec, ?_⟩
  rw [nearest, rounded, Int.cast_natCast]

theorem nearest_nearest {x : Rat} (large : 2 ^ 52 ≤ x) : nearest (nearest x) = nearest x := by
  obtain ⟨significand, -, bits, -, rounded⟩ := nearest_significand large
  rcases bits.lt_or_eq with small | full
  · rw [rounded, nearest_of_bits small]
  · -- A carry into a further bit leaves a power of two.
    have carried : nearest x = ((1 : Nat) : Rat) * 2 ^ (53 + gridExponent x) := by
      rw [rounded, full, pow_add]
      push_cast
      ring
    rw [carried, nearest_of_bits (by norm_num)]

end Exact

end MotorTariff.Binary64
