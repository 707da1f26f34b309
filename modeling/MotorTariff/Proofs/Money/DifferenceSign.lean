import MotorTariff.Proofs.Decimal.ZeroSign
import MotorTariff.Proofs.Money.KeptPlaces
import MotorTariff.Proofs.Money.Multiplication

/-!
# The sign of a difference

Two amounts with the kept places that differ do so by at least one unit of the last of these places,
and that unit is stored as it is. Storing keeps the order, so whatever digits a difference drops, it
is stored on the side of zero that it lies on, and only the difference of equal amounts is stored as
zero. Rounding treats both signs alike, and so does the overflow, so the operands may be exchanged.
-/

set_option autoImplicit false

namespace MotorTariff

namespace Decimal

section Sign

variable (amount : Decimal)

theorem is_negative_iff : amount.isNegative = true ↔ amount.toRat < 0 := by
  cases zero : amount.isZero with
  | true => simp [isNegative, zero, (is_zero_iff_to_rat amount).mp zero]
  | false => simp [isNegative, zero, negative_iff zero]

theorem is_positive_iff : amount.isPositive = true ↔ 0 < amount.toRat := by
  have neither : amount.isPositive = true ↔
      ¬ amount.isNegative = true ∧ ¬ amount.isZero = true := by
    unfold isPositive isNegative
    cases amount.negative <;> cases amount.isZero <;> decide
  rw [neither, is_negative_iff, is_zero_iff_to_rat, not_lt, lt_iff_le_and_ne]
  exact and_congr_right fun _ => ne_comm

theorem one_sign : [amount.isPositive, amount.isZero, amount.isNegative].count true = 1 := by
  unfold isPositive isNegative
  cases amount.negative <;> cases amount.isZero <;> rfl

end Sign

section Order

variable (left right : Decimal)

theorem signed_at_max_lt_iff :
    left.signedAt (max left.scale right.scale) < right.signedAt (max left.scale right.scale) ↔
      left.toRat < right.toRat := by
  have positive : (0 : Rat) < 10 ^ max left.scale right.scale := by positivity
  rw [← Int.cast_lt (R := Rat), signed_at_eq_product left (Nat.le_max_left ..),
    signed_at_eq_product right (Nat.le_max_right ..)]
  exact mul_lt_mul_iff_left₀ positive

theorem compare_lt_iff : left.compare right = .lt ↔ left.toRat < right.toRat := by
  rw [← signed_at_max_lt_iff]
  exact Int.compare_eq_lt

theorem compare_gt_iff : left.compare right = .gt ↔ right.toRat < left.toRat := by
  rw [← signed_at_max_lt_iff, Nat.max_comm]
  exact Int.compare_eq_gt

end Order

end Decimal

namespace Money

section Stored

variable {x : Rat}

theorem stored_zero : stored 0 = 0 := by
  rw [← value_zero, stored_of_rounded zero_is_rounded]

def unit : Rat := 1 / 10 ^ keptPlaces

theorem stored_unit : stored unit = unit := by
  have grid : unit * 10 ^ keptPlaces = (1 : Int) := by
    norm_num [unit]
  rw [stored, Decimal.nearest_of_grid (by decide) grid (by norm_num),
    Decimal.nearest_at_of_grid le_rfl grid]

theorem stored_pos (grid : ∃ units : Int, x * 10 ^ keptPlaces = units) (positive : 0 < x) :
    0 < stored x := by
  obtain ⟨units, written⟩ := grid
  have power : (0 : Rat) < 10 ^ keptPlaces := by positivity
  have counted : 0 < units := by
    have scaled := mul_pos positive power
    rw [written] at scaled
    exact_mod_cast scaled
  have reaches : unit ≤ x := by
    rw [unit, div_le_iff₀ power, written]
    exact_mod_cast counted
  calc
    0 < unit := by norm_num [unit]
    _ = stored unit := stored_unit.symm
    _ ≤ stored x := stored_mono reaches

/-- On the grid of the kept places, rounding leaves a number on its side of zero. -/
theorem stored_pos_iff (grid : ∃ units : Int, x * 10 ^ keptPlaces = units) :
    0 < stored x ↔ 0 < x := by
  refine ⟨fun above => ?_, stored_pos grid⟩
  by_contra below
  have ordered := stored_mono (not_lt.mp below)
  rw [stored_zero] at ordered
  exact absurd above (not_lt.mpr ordered)

theorem stored_neg_iff (grid : ∃ units : Int, x * 10 ^ keptPlaces = units) :
    stored x < 0 ↔ x < 0 := by
  obtain ⟨units, written⟩ := grid
  have mirrored : -x * 10 ^ keptPlaces = ((-units : Int) : Rat) := by
    rw [neg_mul, written, Int.cast_neg]
  have positive := stored_pos_iff ⟨_, mirrored⟩
  rwa [stored_neg, neg_pos, neg_pos] at positive

theorem stored_eq_zero_iff (grid : ∃ units : Int, x * 10 ^ keptPlaces = units) :
    stored x = 0 ↔ x = 0 := by
  have above := stored_pos_iff grid
  have below := stored_neg_iff grid
  rw [← not_iff_not, ← Ne, ← Ne, ne_iff_lt_or_gt, ne_iff_lt_or_gt, below]
  exact or_congr_right above

end Stored

section Difference

variable (left right : Money)

theorem difference_on_kept_grid {left right : Money} (leftKept : left.amount.scale ≤ keptPlaces)
    (rightKept : right.amount.scale ≤ keptPlaces) :
    ∃ units : Int, (left.value - right.value) * 10 ^ keptPlaces = units := by
  refine ⟨left.amount.signedAt keptPlaces - right.amount.signedAt keptPlaces, ?_⟩
  push_cast
  rw [Decimal.signed_at_eq_product _ leftKept, Decimal.signed_at_eq_product _ rightKept]
  exact sub_mul ..

theorem checked_sub_none_iff :
    left.sub? right = none ↔ Decimal.Overflows (left.value - right.value) := by
  rw [sub?, Option.map_eq_none_iff]
  exact (Decimal.sub_rounds_once _ _).overflow

variable {left right}

theorem checked_sub_value {difference : Money} (subtracted : left.sub? right = some difference) :
    difference.value = stored (left.value - right.value) := by
  obtain ⟨amount, computed, rfl⟩ := Option.map_eq_some_iff.mp subtracted
  exact stored_of_operation (Decimal.sub_rounds_once _ _) computed

/-- The operands may be exchanged whenever they may be subtracted. -/
theorem checked_sub_exchanged {difference : Money} (subtracted : left.sub? right = some difference) :
    ∃ exchanged, right.sub? left = some exchanged ∧ exchanged.value = -difference.value := by
  have opposite : right.value - left.value = -(left.value - right.value) := (neg_sub ..).symm
  cases outcome : right.sub? left with
  | none =>
      rw [checked_sub_none_iff, opposite, Decimal.overflows_neg, ← checked_sub_none_iff,
        subtracted] at outcome
      cases outcome
  | some exchanged =>
      refine ⟨exchanged, rfl, ?_⟩
      rw [checked_sub_value outcome, checked_sub_value subtracted, opposite, stored_neg]

end Difference

theorem neg_value {money : Money} (kept : money.amount.scale ≤ keptPlaces) :
    money.neg.value = -money.value := by
  have unrounded : money.neg = ⟨money.amount.neg⟩ := ofDecimal_of_scale_le kept
  rw [unrounded]
  exact Decimal.to_rat_neg money.amount

/-- A difference is positive, zero or negative as the order of its operands says, and never two of
these, however many digits it has dropped; exchanging the operands only changes its sign. -/
theorem difference_sign_is_order {left right difference : Money}
    (leftKept : left.amount.scale ≤ keptPlaces) (rightKept : right.amount.scale ≤ keptPlaces)
    (subtracted : left.sub? right = some difference) :
    (difference.isPositive = true ↔ left.compare right = .gt) ∧
      (difference.isZero = true ↔ left.sameAmount right = true) ∧
      (difference.isNegative = true ↔ left.compare right = .lt) ∧
      [difference.isPositive, difference.isZero, difference.isNegative].count true = 1 ∧
      ∃ exchanged, right.sub? left = some exchanged ∧
        exchanged.sameAmount difference.neg = true := by
  have grid := difference_on_kept_grid leftKept rightKept
  have rounded := checked_sub_value subtracted
  have positive : difference.isPositive = true ↔ left.compare right = .gt := by
    refine (Decimal.is_positive_iff _).trans ?_
    rw [← value, rounded, stored_pos_iff grid, sub_pos]
    exact (Decimal.compare_gt_iff _ _).symm
  have negative : difference.isNegative = true ↔ left.compare right = .lt := by
    refine (Decimal.is_negative_iff _).trans ?_
    rw [← value, rounded, stored_neg_iff grid, sub_neg]
    exact (Decimal.compare_lt_iff _ _).symm
  have zero : difference.isZero = true ↔ left.sameAmount right = true := by
    refine (Decimal.is_zero_iff_to_rat _).trans ?_
    rw [← value, rounded, stored_eq_zero_iff grid, sub_eq_zero, same_amount_iff_value]
  refine ⟨positive, zero, negative, Decimal.one_sign _, ?_⟩
  obtain ⟨exchanged, returned, opposite⟩ := checked_sub_exchanged subtracted
  have kept := (is_rounded_iff_scale difference).mp (checked_sub_is_rounded subtracted)
  refine ⟨exchanged, returned, ?_⟩
  rw [same_amount_iff_value, opposite, neg_value kept]

/-- The largest number of tenths less a negative number of tenths: the difference has no room for
tenths. -/
theorem wide_differences_keep_order :
    let largest : Money := ⟨.literal false 79228162514264337593543950335 1⟩
    let small : Money := ⟨.literal true 9 1⟩
    largest.amount.scale ≤ keptPlaces ∧ small.amount.scale ≤ keptPlaces ∧
    ∃ difference exchanged, largest.sub? small = some difference ∧ difference.amount.scale = 0 ∧
      difference.isPositive = true ∧ largest.compare small = .gt ∧
      small.sub? largest = some exchanged ∧ exchanged.sameAmount difference.neg = true := by
  intro largest small
  have leftKept : largest.amount.scale ≤ keptPlaces := by decide
  have rightKept : small.amount.scale ≤ keptPlaces := by decide
  have subtracted : largest.sub? small =
      some ⟨.literal false 7922816251426433759354395034 0⟩ := by decide +kernel
  obtain ⟨positive, -, -, -, exchanged, returned, opposite⟩ :=
    difference_sign_is_order leftKept rightKept subtracted
  have above : largest.compare small = .gt := by decide +kernel
  exact ⟨leftKept, rightKept, _, exchanged, subtracted, rfl, positive.mpr above, above, returned,
    opposite⟩

end Money

end MotorTariff
