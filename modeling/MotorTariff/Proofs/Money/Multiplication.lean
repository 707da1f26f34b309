import MotorTariff.Proofs.Money.Stored

/-!
# Multiplying an amount by a factor

The exact product may have twice as many digits as a decimal holds. It is rounded once to what there
is room for and once to the kept places, and it overflows exactly where not even its integer part
has room. Nothing is lost in the first rounding while the product of the mantissas fits at the sum
of the scales, so there the product is the exact one rounded to the kept places.
-/

set_option autoImplicit false

namespace MotorTariff

namespace Decimal

theorem product_is_representable {left right : Decimal}
    (mantissas : left.mantissa * right.mantissa < 2 ^ 96)
    (scales : left.scale + right.scale ≤ 28) : IsRepresentable (left.toRat * right.toRat) := by
  refine ⟨left.signed * right.signed, left.scale + right.scale, ?_, scales, ?_⟩
  · rw [abs_mul, abs_signed, abs_signed]
    exact_mod_cast mantissas
  · push_cast
    rw [← to_rat_on_grid left, ← to_rat_on_grid right, pow_add]
    ring

theorem overflows_neg (x : Rat) : Overflows (-x) ↔ Overflows x := by
  rw [Overflows, Overflows, Rounding.half_even_neg, abs_neg]

end Decimal

namespace Money

theorem stored_neg (x : Rat) : stored (-x) = -stored x := by
  rw [stored, stored, Decimal.nearest_neg, Decimal.nearest_at_neg]

section Product

variable (money : Money) (factor : Decimal)

theorem multiply_fails_iff (cause : Overflow) :
    money.multiply factor = .error cause ↔
      cause = .decimalMultiplication ∧ Decimal.Overflows (money.value * factor.toRat) := by
  have overflow := (Decimal.mul_rounds_once money.amount factor).overflow
  rw [value, ← overflow, multiply]
  cases money.amount.mul? factor with
  | none => simp [Overflow.require, Except.map, eq_comm]
  | some amount => simp [Overflow.require, Except.map]

theorem multiply_returns (fits : ¬ Decimal.Overflows (money.value * factor.toRat)) :
    ∃ product, money.multiply factor = .ok product := by
  cases outcome : money.multiply factor with
  | ok product => exact ⟨product, rfl⟩
  | error cause => exact absurd ((multiply_fails_iff money factor cause).mp outcome).2 fits

variable {money factor}

theorem multiply_of_representable
    (representable : Decimal.IsRepresentable (money.value * factor.toRat)) :
    ∃ product, money.multiply factor = .ok product ∧
      product.value = Decimal.nearestAt keptPlaces (money.value * factor.toRat) := by
  obtain ⟨amount, computed, exact⟩ := Decimal.exact_of_representable
    (Decimal.mul_rounds_once money.amount factor) representable
  refine ⟨ofDecimal amount, ?_, ?_⟩
  · rw [multiply, computed]
    rfl
  · rw [of_decimal_value, exact, value]

theorem multiply_of_neg {product : Money} (multiplied : money.multiply factor = .ok product) :
    ∃ negated, money.multiply factor.neg = .ok negated ∧ negated.value = -product.value := by
  have mirrored : money.value * factor.neg.toRat = -(money.value * factor.toRat) := by
    rw [Decimal.to_rat_neg, mul_neg]
  have fits : ¬ Decimal.Overflows (money.value * factor.neg.toRat) := by
    rw [mirrored, Decimal.overflows_neg]
    intro overflows
    have failed := (multiply_fails_iff money factor _).mpr ⟨rfl, overflows⟩
    rw [multiplied] at failed
    cases failed
  obtain ⟨negated, returned⟩ := multiply_returns money factor.neg fits
  refine ⟨negated, returned, ?_⟩
  rw [multiply_value returned, mirrored, stored_neg, multiply_value multiplied]

end Product

/-- A product fails exactly where it overflows as an integer. It is the exact one rounded half to
even to the kept places while mantissas and scales fit, and negating the factor negates it. -/
theorem multiply_rounds_exact_product (money : Money) (factor : Decimal) :
    (∀ cause, money.multiply factor = .error cause ↔
      cause = .decimalMultiplication ∧ Decimal.Overflows (money.value * factor.toRat)) ∧
    (money.amount.mantissa * factor.mantissa < 2 ^ 96 →
      money.amount.scale + factor.scale ≤ 28 →
      ∃ product, money.multiply factor = .ok product ∧
        product.value = Decimal.nearestAt keptPlaces (money.value * factor.toRat) ∧
        |product.value - money.value * factor.toRat| ≤ 0.00005) ∧
    ∀ product, money.multiply factor = .ok product →
      ∃ negated, money.multiply factor.neg = .ok negated ∧ negated.value = -product.value := by
  refine ⟨multiply_fails_iff money factor, ?_, fun product => multiply_of_neg⟩
  intro mantissas scales
  have representable : Decimal.IsRepresentable (money.value * factor.toRat) :=
    Decimal.product_is_representable mantissas scales
  obtain ⟨product, multiplied, rounded⟩ := multiply_of_representable representable
  refine ⟨product, multiplied, rounded, ?_⟩
  rw [rounded]
  refine (Decimal.abs_nearest_at_sub_le keptPlaces _).trans ?_
  norm_num [keptPlaces]

/-- The mantissas multiply to less than 2^96 by less than 2^50, and the scales add up to 28. -/
theorem widest_exact_product_is_rounded :
    let money : Money := ⟨.literal false 281474976710655 4⟩
    let factor : Decimal := .literal false 281474976710655 24
    money.amount.mantissa * factor.mantissa < 2 ^ 96 ∧
    money.amount.scale + factor.scale ≤ 28 ∧
    ∃ product negated, money.multiply factor = .ok product ∧
      product.value = 7.9228 ∧ |product.value - money.value * factor.toRat| ≤ 0.00005 ∧
      money.multiply factor.neg = .ok negated ∧ negated.value = -7.9228 := by
  intro money factor
  have mantissas : money.amount.mantissa * factor.mantissa < 2 ^ 96 := by decide
  have scales : money.amount.scale + factor.scale ≤ 28 := by decide
  have rounded : Decimal.nearestAt keptPlaces (money.value * factor.toRat) = 7.9228 := by
    decide +kernel
  obtain ⟨-, exactly, mirrored⟩ := multiply_rounds_exact_product money factor
  obtain ⟨product, multiplied, value, near⟩ := exactly mantissas scales
  rw [rounded] at value
  obtain ⟨negated, returned, opposite⟩ := mirrored product multiplied
  exact ⟨mantissas, scales, product, negated, multiplied, value, near, returned, value ▸ opposite⟩

end Money

end MotorTariff
