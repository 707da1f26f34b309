import MotorTariff.Proofs.Money.Stored

/-!
# Where addition and subtraction overflow, and what they lose

Between the sums that are exact and those that overflow lies a band in which fraction digits are
dropped. A sum is brought to the larger scale of its operands and loses digits from there, so what
it loses is at most half a unit of the last digit that is left. Amounts with the kept places give
sums with the kept places, and storing them changes nothing.
-/

set_option autoImplicit false

namespace MotorTariff

namespace Decimal

section Operands

variable (left right : Decimal)

theorem sum_on_grid :
    ∃ mantissa : Int,
      (left.toRat + right.toRat) * 10 ^ max left.scale right.scale = mantissa := by
  refine ⟨left.signedAt (max left.scale right.scale) + right.signedAt (max left.scale right.scale),
    ?_⟩
  push_cast
  rw [signed_at_eq_product left (Nat.le_max_left ..),
    signed_at_eq_product right (Nat.le_max_right ..), add_mul]

theorem difference_on_grid :
    ∃ mantissa : Int,
      (left.toRat - right.toRat) * 10 ^ max left.scale right.scale = mantissa := by
  refine ⟨left.signedAt (max left.scale right.scale) - right.signedAt (max left.scale right.scale),
    ?_⟩
  push_cast
  rw [signed_at_eq_product left (Nat.le_max_left ..),
    signed_at_eq_product right (Nat.le_max_right ..), sub_mul]

end Operands

theorem representable_on_grid {exact : Rat} {places : Nat} (within : places ≤ 28)
    (grid : ∃ mantissa : Int, exact * 10 ^ places = mantissa)
    (fits : |exact| * 10 ^ places < 2 ^ 96) : IsRepresentable exact := by
  obtain ⟨mantissa, written⟩ := grid
  refine ⟨mantissa, places, ?_, within, written⟩
  have bounded : |(mantissa : Rat)| < 2 ^ 96 := by
    rw [← written, abs_mul, abs_of_pos (by positivity : (0 : Rat) < 10 ^ places)]
    exact fits
  exact_mod_cast bounded

end Decimal

namespace Money

/-- What the checked form of an operation gives for its exact result, and what the form gives that
stops with a cause where the checked one has no result. -/
structure IsChecked (checked : Option Money) (stopping : Except Overflow Money) (cause : Overflow)
    (exact : Rat) (places : Nat) : Prop where
  overflow : checked = none ↔ Decimal.Overflows exact
  faithful : ∀ {result : Money}, checked = some result → |exact| * 10 ^ places < 2 ^ 96 →
    result.value = exact
  near : ∀ {result : Money}, checked = some result →
    |result.value - exact| ≤ 1 / 2 / 10 ^ result.amount.scale
  stops : stopping = .error cause ↔ checked = none
  returns : ∀ result, stopping = .ok result ↔ checked = some result

theorem is_checked_of_drops_digits {outcome : Option Decimal} {exact : Rat} {places : Nat}
    (cause : Overflow) (drops : Decimal.DropsDigits outcome exact places)
    (kept : places ≤ keptPlaces) (grid : ∃ mantissa : Int, exact * 10 ^ places = mantissa) :
    IsChecked (outcome.map ofDecimal) (Overflow.require cause (outcome.map ofDecimal)) cause exact
      places := by
  have unrounded : ∀ {result : Money}, outcome.map ofDecimal = some result →
      outcome = some result.amount := by
    intro result stored
    obtain ⟨amount, computed, rfl⟩ := Option.map_eq_some_iff.mp stored
    rw [ofDecimal_of_scale_le ((drops.scale_le computed).trans kept), computed]
  constructor
  case overflow =>
    rw [Option.map_eq_none_iff]
    exact drops.overflow
  case faithful =>
    intro result stored fits
    have representable :=
      Decimal.representable_on_grid (kept.trans (by decide)) grid fits
    obtain ⟨amount, computed, value⟩ :=
      Decimal.exact_of_representable drops.toRoundsOnce representable
    rw [unrounded stored, Option.some.injEq] at computed
    rw [Money.value, computed, value]
  case near =>
    intro result stored
    exact drops.near (unrounded stored)
  case stops =>
    cases outcome with
    | none => simp [Overflow.require]
    | some amount => simp [Overflow.require]
  case returns =>
    intro result
    apply Overflow.require_ok_iff

/-- Amounts with the kept places are added and subtracted exactly while there is room at the larger
scale, to within half a unit of the last digit left up to the overflow, and not beyond it. -/
theorem checked_arithmetic_rounds_until_overflow {left right : Money}
    (leftKept : left.amount.scale ≤ keptPlaces) (rightKept : right.amount.scale ≤ keptPlaces) :
    IsChecked (left.add? right) (left.add right) .moneyAddition (left.value + right.value)
        (max left.amount.scale right.amount.scale) ∧
      IsChecked (left.sub? right) (left.sub right) .moneySubtraction (left.value - right.value)
        (max left.amount.scale right.amount.scale) := by
  have kept := Nat.max_le.mpr ⟨leftKept, rightKept⟩
  constructor
  · apply is_checked_of_drops_digits _ (Decimal.add_drops_digits _ _) kept
    apply Decimal.sum_on_grid
  · apply is_checked_of_drops_digits _ (Decimal.sub_drops_digits _ _) kept
    apply Decimal.difference_on_grid

/-- The largest mantissa with one fraction digit. -/
def largestTenths : Money := ⟨.literal false 79228162514264337593543950335 1⟩

/-- Adding 0.9 to the largest number of tenths leaves no room for a fraction digit, and subtracting
it does. -/
theorem largest_tenths_lose_a_digit :
    ∃ sum difference,
      largestTenths.amount.scale ≤ keptPlaces ∧
      (Money.mk (.literal false 9 1)).amount.scale ≤ keptPlaces ∧
      largestTenths.add? ⟨.literal false 9 1⟩ = some sum ∧ sum.amount.scale = 0 ∧
      |sum.value - (largestTenths.value + 9 / 10)| ≤ 1 / 2 ∧
      largestTenths.sub? ⟨.literal false 9 1⟩ = some difference ∧
      difference.value = largestTenths.value - 9 / 10 := by
  have tenths : (Money.mk (.literal false 9 1)).value = 9 / 10 := by decide +kernel
  have leftKept : largestTenths.amount.scale ≤ keptPlaces := by decide
  have rightKept : (Money.mk (.literal false 9 1)).amount.scale ≤ keptPlaces := by decide
  obtain ⟨added, subtracted⟩ := checked_arithmetic_rounds_until_overflow leftKept rightKept
  rw [tenths] at added subtracted
  have sum : largestTenths.add? ⟨.literal false 9 1⟩ =
      some ⟨.literal false 7922816251426433759354395034 0⟩ := by decide +kernel
  have difference : largestTenths.sub? ⟨.literal false 9 1⟩ =
      some ⟨.literal false 79228162514264337593543950326 1⟩ := by decide +kernel
  refine ⟨_, _, leftKept, rightKept, sum, rfl, ?_, difference, ?_⟩
  · have near := added.near sum
    exact near.trans (by norm_num [Decimal.literal])
  · exact subtracted.faithful difference (by decide +kernel)

end Money

end MotorTariff
