import MotorTariff.Proofs.Decimal.Operations
import MotorTariff.Proofs.Money.Sum

/-!
# What money operations store

An operation on amounts rounds its exact result once to what a decimal holds and once to the kept
places. Both steps keep the order, so whatever digits are lost on the way, a larger exact result is
never stored as the smaller amount.
-/

set_option autoImplicit false

namespace MotorTariff

theorem Overflow.require_ok_iff {Value : Type} {cause : Overflow} {outcome : Option Value}
    {value : Value} : Overflow.require cause outcome = .ok value ↔ outcome = some value := by
  cases outcome <;> simp [Overflow.require]

namespace Decimal

theorem to_rat_eq_signed_quotient (amount : Decimal) :
    amount.toRat = signedQuotient amount.negative amount.mantissa amount.scale := by
  rw [to_rat_eq_quotient, signedQuotient, signed]
  cases amount.negative <;> simp

theorem signed_round (tie : Tie) {places : Nat} {amount : Decimal}
    (finer : ¬ amount.scale ≤ places) :
    (amount.round tie places).signed =
      if amount.negative then
        -(roundDiv tie amount.mantissa (10 ^ (amount.scale - places)) : Int)
      else roundDiv tie amount.mantissa (10 ^ (amount.scale - places)) := by
  rw [round, dif_neg finer]
  simp only [signed]
  cases amount.negative with
  | false => simp
  | true =>
      by_cases zero : roundDiv tie amount.mantissa (10 ^ (amount.scale - places)) = 0 <;>
        simp [zero]

theorem scale_round (tie : Tie) {places : Nat} {amount : Decimal}
    (finer : ¬ amount.scale ≤ places) : (amount.round tie places).scale = places := by
  rw [round, dif_neg finer]

theorem round_even_to_rat (places : Nat) (amount : Decimal) :
    (amount.round .toEven places).toRat = nearestAt places amount.toRat := by
  by_cases within : amount.scale ≤ places
  · rw [round_of_scale_le _ within, nearest_at_of_grid within (to_rat_on_grid amount)]
  have fewer : places ≤ amount.scale := Nat.le_of_not_le within
  rw [to_rat_eq_quotient, signed_round _ within, scale_round _ within, nearestAt,
    to_rat_eq_signed_quotient, half_even_signed_quotient _ _ fewer]

end Decimal

namespace Money

/-- The amount that is stored for an exact result. -/
def stored (x : Rat) : Rat := Decimal.nearestAt keptPlaces (Decimal.nearest x)

theorem stored_mono {x y : Rat} (order : x ≤ y) : stored x ≤ stored y :=
  Decimal.nearest_at_mono _ (Decimal.nearest_mono order)

theorem of_decimal_value (amount : Decimal) :
    (ofDecimal amount).value = Decimal.nearestAt keptPlaces amount.toRat :=
  Decimal.round_even_to_rat keptPlaces amount

theorem stored_of_rounded {money : Money} (rounded : money.IsRounded) :
    stored money.value = money.value := by
  have places := (is_rounded_iff_scale money).mp rounded
  rw [stored, value, Decimal.nearest_to_rat]
  exact Decimal.nearest_at_of_grid places (Decimal.to_rat_on_grid money.amount)

theorem stored_of_operation {outcome : Option Decimal} {exact : Rat} {amount : Decimal}
    (once : Decimal.RoundsOnce outcome exact) (computed : outcome = some amount) :
    (ofDecimal amount).value = stored exact := by
  rw [of_decimal_value, once.value computed, stored]

theorem add_value {left right sum : Money} (added : left.add right = .ok sum) :
    sum.value = stored (left.value + right.value) ∧ sum.IsRounded := by
  obtain ⟨amount, computed, rfl⟩ := Option.map_eq_some_iff.mp (Overflow.require_ok_iff.mp added)
  exact ⟨stored_of_operation (Decimal.add_rounds_once _ _) computed, amount, rfl⟩

theorem multiply_value {money product : Money} {factor : Decimal}
    (multiplied : money.multiply factor = .ok product) :
    product.value = stored (money.value * factor.toRat) := by
  obtain ⟨amount, required, rfl⟩ := map_ok_iff.mp multiplied
  exact stored_of_operation (Decimal.mul_rounds_once _ _) (Overflow.require_ok_iff.mp required)

theorem compare_is_le_iff (left right : Money) :
    (left.compare right).isLE = true ↔ left.value ≤ right.value := by
  have positive : (0 : Rat) < 10 ^ max left.amount.scale right.amount.scale := by positivity
  unfold Money.compare Decimal.compare value
  dsimp only
  rw [Int.isLE_compare, ← Int.cast_le (R := Rat),
    Decimal.signed_at_eq_product left.amount (Nat.le_max_left ..),
    Decimal.signed_at_eq_product right.amount (Nat.le_max_right ..)]
  exact mul_le_mul_iff_left₀ positive

end Money

end MotorTariff
