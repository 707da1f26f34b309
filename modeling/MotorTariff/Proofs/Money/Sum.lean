import Mathlib.Algebra.Order.BigOperators.Group.List
import Mathlib.Tactic.Linarith
import MotorTariff.Money
import MotorTariff.Proofs.Decimal.Value

/-!
# Exact sums of money

Rounding leaves at most the kept places, so amounts that went through it share one grid. As long as
the magnitudes of a list stay below the capacity of that grid, no partial sum rounds or overflows.
The invariant of the fold is kept in magnitudes and not in the partial sums themselves, which may
pass through zero and come back written with fewer fraction digits.
-/

set_option autoImplicit false

namespace MotorTariff.Money

/-- Made by rounding some decimal to the kept places. -/
def IsRounded (money : Money) : Prop := ∃ amount, money = ofDecimal amount

def value (money : Money) : Rat := money.amount.toRat

/-- Below this magnitude the mantissa of every amount with the kept places fits. -/
def capacity : Rat := 2 ^ 96 / 10 ^ keptPlaces

def magnitudeSum (amounts : List Money) : Rat := (amounts.map fun money => |money.value|).sum

theorem is_rounded_iff_scale (money : Money) :
    money.IsRounded ↔ money.amount.scale ≤ keptPlaces := by
  constructor
  · rintro ⟨amount, rfl⟩
    exact scale_ofDecimal_le amount
  · intro within
    exact ⟨money.amount, (ofDecimal_of_scale_le within).symm⟩

theorem zero_is_rounded : zero.IsRounded := by
  exact (is_rounded_iff_scale zero).mpr (by decide)

theorem multiply_is_rounded {money product : Money} {factor : Decimal}
    (multiplied : money.multiply factor = .ok product) : product.IsRounded := by
  obtain ⟨amount, -, written⟩ := map_ok_iff.mp multiplied
  exact ⟨amount, written.symm⟩

@[simp] theorem value_zero : zero.value = 0 := by
  exact Decimal.to_rat_zero

theorem same_amount_iff_value (left right : Money) :
    left.sameAmount right = true ↔ left.value = right.value :=
  Decimal.same_amount_iff left.amount right.amount

theorem magnitude_sum_nonneg (amounts : List Money) : 0 ≤ magnitudeSum amounts := by
  apply List.sum_nonneg
  intro magnitude member
  obtain ⟨money, -, rfl⟩ := List.mem_map.mp member
  exact abs_nonneg _

theorem magnitude_sum_perm {amounts reordered : List Money} (same : amounts.Perm reordered) :
    magnitudeSum amounts = magnitudeSum reordered := by
  exact (same.map _).sum_eq

theorem abs_sum_le_magnitude_sum (amounts : List Money) :
    |(amounts.map value).sum| ≤ magnitudeSum amounts := by
  induction amounts with
  | nil => simp [magnitudeSum]
  | cons money rest ih =>
      simp only [magnitudeSum, List.map_cons, List.sum_cons] at ih ⊢
      exact (abs_add_le _ _).trans (add_le_add_right ih _)

/-- A sum within the capacity fits at the larger scale, which is at most the kept places. -/
theorem add_is_exact {left right : Money} (leftRounded : left.IsRounded)
    (rightRounded : right.IsRounded) (fits : |left.value + right.value| < capacity) :
    ∃ sum, left.add right = .ok sum ∧ sum.IsRounded ∧ sum.value = left.value + right.value := by
  have places : max left.amount.scale right.amount.scale ≤ keptPlaces :=
    Nat.max_le.mpr
      ⟨(is_rounded_iff_scale left).mp leftRounded, (is_rounded_iff_scale right).mp rightRounded⟩
  have scaled :
      |left.amount.toRat + right.amount.toRat| *
        10 ^ max left.amount.scale right.amount.scale < 2 ^ 96 := by
    have power : (10 : Rat) ^ max left.amount.scale right.amount.scale ≤ 10 ^ keptPlaces :=
      pow_le_pow_right₀ (by norm_num) places
    have bounded : |left.amount.toRat + right.amount.toRat| * 10 ^ keptPlaces < 2 ^ 96 :=
      (lt_div_iff₀ (by positivity)).mp fits
    exact (mul_le_mul_of_nonneg_left power (abs_nonneg _)).trans_lt bounded
  obtain ⟨sum, added, exact, written⟩ := Decimal.add_exact scaled
  have kept : ofDecimal sum = ⟨sum⟩ := ofDecimal_of_scale_le (written.trans places)
  refine ⟨⟨sum⟩, ?_, ⟨sum, kept.symm⟩, exact⟩
  simp [add, add?, added, kept, Overflow.require]

theorem fold_is_exact (amounts : List Money) {start : Money} (startRounded : start.IsRounded)
    (rounded : ∀ money ∈ amounts, money.IsRounded)
    (fits : |start.value| + magnitudeSum amounts < capacity) :
    ∃ sum, amounts.foldlM add start = .ok sum ∧ sum.IsRounded ∧
      sum.value = start.value + (amounts.map value).sum := by
  induction amounts generalizing start with
  | nil => exact ⟨start, rfl, startRounded, by simp⟩
  | cons money rest ih =>
      have moneyRounded := rounded money List.mem_cons_self
      have restRounded : ∀ other ∈ rest, other.IsRounded := by
        intro other member
        exact rounded other (List.mem_cons_of_mem _ member)
      have restNonneg := magnitude_sum_nonneg rest
      -- The head's magnitude moves from the list to the start, so the whole bound stays the same.
      have headFits : |start.value| + |money.value| + magnitudeSum rest < capacity := by
        simpa [magnitudeSum, add_assoc] using fits
      have triangle := abs_add_le start.value money.value
      obtain ⟨next, added, nextRounded, nextValue⟩ :=
        add_is_exact startRounded moneyRounded (by linarith)
      obtain ⟨sum, folded, sumRounded, sumValue⟩ :=
        ih nextRounded restRounded (by rw [nextValue]; linarith)
      refine ⟨sum, ?_, sumRounded, ?_⟩
      · rw [List.foldlM_cons, added]
        exact folded
      · rw [sumValue, nextValue, List.map_cons, List.sum_cons, add_assoc]

theorem sum_is_exact (amounts : List Money) (rounded : ∀ money ∈ amounts, money.IsRounded)
    (fits : magnitudeSum amounts < capacity) :
    ∃ sum, Money.sum amounts = .ok sum ∧ sum.IsRounded ∧
      sum.value = (amounts.map value).sum := by
  obtain ⟨sum, folded, sumRounded, exact⟩ :=
    fold_is_exact amounts zero_is_rounded rounded (by simpa using fits)
  exact ⟨sum, folded, sumRounded, by simpa using exact⟩

end MotorTariff.Money
