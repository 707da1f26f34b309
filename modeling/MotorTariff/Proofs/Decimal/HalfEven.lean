import Mathlib.Algebra.Order.Floor.Ring
import Mathlib.Data.Rat.Floor
import Mathlib.Tactic.FieldSimp
import Mathlib.Tactic.Linarith
import Mathlib.Tactic.NormNum
import MotorTariff.Rounding

/-!
# Rounding a rational number half to even

The integer that a rational number is rounded to lies within a half of it, and is even where two
integers are equally near. That determines it, so the rounding of quotients of natural numbers is
this one, rounding keeps the order, and it treats both signs alike.
-/

set_option autoImplicit false

namespace MotorTariff.Rounding

def halfEven (x : Rat) : Int :=
  let part := x - ⌊x⌋
  if part < 1 / 2 then ⌊x⌋
  else if 1 / 2 < part then ⌊x⌋ + 1
  else ⌊x⌋ + ⌊x⌋ % 2

/-- Within a half of the number, and even on a tie. -/
structure IsHalfEven (x : Rat) (n : Int) : Prop where
  near : |x - n| ≤ 1 / 2
  even : |x - n| = 1 / 2 → n % 2 = 0

theorem half_even_spec (x : Rat) : IsHalfEven x (halfEven x) := by
  have below : (⌊x⌋ : Rat) ≤ x := Int.floor_le x
  have above : x < ⌊x⌋ + 1 := Int.lt_floor_add_one x
  unfold halfEven
  dsimp only
  split_ifs with low high
  · have part : |x - ⌊x⌋| = x - ⌊x⌋ := abs_of_nonneg (by linarith)
    exact ⟨by rw [part]; exact low.le, fun tie => absurd (part ▸ tie) low.ne⟩
  · have part : |x - ((⌊x⌋ + 1 : Int) : Rat)| = ⌊x⌋ + 1 - x := by
      push_cast
      rw [abs_of_nonpos (by linarith)]
      ring
    exact ⟨by rw [part]; linarith, fun tie => absurd (part ▸ tie) (by linarith)⟩
  · -- The number lies halfway, and one of its two neighbours is even.
    have half : x = ⌊x⌋ + 1 / 2 := by linarith
    rcases Int.emod_two_eq_zero_or_one ⌊x⌋ with even | odd
    · rw [even, add_zero]
      refine ⟨?_, fun _ => even⟩
      rw [abs_of_nonneg (by linarith)]
      linarith
    · rw [odd]
      refine ⟨?_, fun _ => by omega⟩
      push_cast
      rw [abs_of_nonpos (by linarith)]
      linarith

theorem is_half_even_mono {x y : Rat} {n m : Int} (first : IsHalfEven x n)
    (second : IsHalfEven y m) (order : x ≤ y) : n ≤ m := by
  -- Of two numbers in order, the first cannot have the larger rounding: the two integers would be
  -- neighbours and both numbers halfway between them, so that both integers were even.
  by_contra larger
  have next : m + 1 ≤ n := by omega
  have nextCast : (m : Rat) + 1 ≤ n := by exact_mod_cast next
  have lower := (abs_le.mp first.near).1
  have upper := (abs_le.mp second.near).2
  have xHalf : x - n = -(1 / 2) := by linarith
  have yHalf : y - m = 1 / 2 := by linarith
  have neighbours : (n : Rat) = m + 1 := by linarith
  have nEven := first.even (by rw [xHalf, abs_neg, abs_of_pos (by norm_num)])
  have mEven := second.even (by rw [yHalf, abs_of_pos (by norm_num)])
  have same : n = m + 1 := by exact_mod_cast neighbours
  omega

theorem half_even_unique {x : Rat} {n : Int} (rounded : IsHalfEven x n) : halfEven x = n :=
  le_antisymm (is_half_even_mono (half_even_spec x) rounded le_rfl)
    (is_half_even_mono rounded (half_even_spec x) le_rfl)

theorem half_even_mono {x y : Rat} (order : x ≤ y) : halfEven x ≤ halfEven y :=
  is_half_even_mono (half_even_spec x) (half_even_spec y) order

@[simp] theorem half_even_int (n : Int) : halfEven n = n := by
  apply half_even_unique
  constructor
  · simp
  · intro tie
    norm_num at tie

@[simp] theorem half_even_zero : halfEven 0 = 0 := by
  exact_mod_cast half_even_int 0

theorem half_even_of_small {x : Rat} (small : |x| < 1 / 2) : halfEven x = 0 := by
  apply half_even_unique
  constructor
  · simpa using small.le
  · intro tie
    norm_num at tie
    exact absurd (tie ▸ small) (by norm_num)

theorem half_even_neg (x : Rat) : halfEven (-x) = -halfEven x := by
  have rounded := half_even_spec x
  have mirrored : |-x - ((-halfEven x : Int) : Rat)| = |x - halfEven x| := by
    rw [← abs_neg]
    congr 1
    push_cast
    ring
  apply half_even_unique
  constructor
  · rw [mirrored]
    exact rounded.near
  · intro tie
    have even := rounded.even (mirrored ▸ tie)
    omega

theorem half_even_nonneg {x : Rat} (nonneg : 0 ≤ x) : 0 ≤ halfEven x := by
  rw [← half_even_zero]
  exact half_even_mono nonneg

theorem abs_half_even (x : Rat) : |halfEven x| = halfEven |x| := by
  rcases le_total 0 x with nonneg | nonpos
  · rw [abs_of_nonneg nonneg, abs_of_nonneg (half_even_nonneg nonneg)]
  · have mirrored := half_even_nonneg (neg_nonneg.mpr nonpos)
    rw [half_even_neg] at mirrored
    rw [abs_of_nonpos nonpos, half_even_neg, abs_of_nonpos (by omega)]

theorem quotient_split (numerator : Nat) {denominator : Nat} (positive : 0 < denominator) :
    (numerator : Rat) / denominator =
      (numerator / denominator : Nat) + (numerator % denominator : Nat) / denominator := by
  have nonzero : (denominator : Rat) ≠ 0 := by exact_mod_cast positive.ne'
  have division : (denominator : Rat) * (numerator / denominator : Nat) +
      (numerator % denominator : Nat) = numerator := by
    exact_mod_cast Nat.div_add_mod numerator denominator
  rw [div_eq_iff nonzero, add_mul, div_mul_cancel₀ _ nonzero, mul_comm, division]

theorem half_even_quotient (numerator : Nat) {denominator : Nat} (positive : 0 < denominator) :
    halfEven ((numerator : Rat) / denominator) = roundDiv .toEven numerator denominator := by
  have positiveCast : (0 : Rat) < denominator := by exact_mod_cast positive
  have floor : ⌊(numerator : Rat) / denominator⌋ = ((numerator / denominator : Nat) : Int) := by
    simpa using Rat.floor_intCast_div_natCast (numerator : Int) denominator
  have part : (numerator : Rat) / denominator - ((numerator / denominator : Nat) : Int) =
      (numerator % denominator : Nat) / denominator := by
    rw [Int.cast_natCast, quotient_split numerator positive, add_sub_cancel_left]
  have below : ((numerator % denominator : Nat) : Rat) / denominator < 1 / 2 ↔
      2 * (numerator % denominator) < denominator := by
    rw [div_lt_div_iff₀ positiveCast (by norm_num), mul_comm, one_mul]
    exact_mod_cast Iff.rfl
  have above : 1 / 2 < ((numerator % denominator : Nat) : Rat) / denominator ↔
      denominator < 2 * (numerator % denominator) := by
    rw [div_lt_div_iff₀ (by norm_num) positiveCast, mul_comm _ (2 : Rat), one_mul]
    exact_mod_cast Iff.rfl
  simp only [halfEven, roundDiv, floor, part, below, above]
  split_ifs <;> push_cast <;> rfl

theorem le_half_even {x : Rat} {n : Int} (reaches : n ≤ halfEven x) : (n : Rat) - 1 / 2 ≤ x := by
  have near := (abs_le.mp (half_even_spec x).near).1
  have cast : (n : Rat) ≤ halfEven x := by exact_mod_cast reaches
  linarith

end MotorTariff.Rounding
