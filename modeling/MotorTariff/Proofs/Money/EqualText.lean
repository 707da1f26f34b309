import MotorTariff.Proofs.Decimal.ZeroSign
import MotorTariff.Proofs.Money.KeptPlaces
import MotorTariff.Proofs.Money.NearestCent

/-!
# Equal amounts and their texts

Equal amounts may be held with different scales, and a zero with or without a minus sign. Showing
two places hides the scales. It does not hide the sign of a zero, so equal amounts have one text
exactly if they are not zeros of different signs. Negating a zero gives it a sign, and so does a
decimal that has one already; no other operation does, in however many steps.
-/

set_option autoImplicit false

namespace MotorTariff.Money

open Decimal

/-- Amounts computed by any number of operations, from decimals that are given and with negations of
amounts that may be negated. -/
inductive Computed (given : Decimal → Prop) (negatable : Money → Prop) : Money → Prop where
  | ofDecimal {amount : Decimal} (start : given amount) :
      Computed given negatable (ofDecimal amount)
  | zero : Computed given negatable zero
  | default : Computed given negatable default
  | add {left right sum : Money} (leftComputed : Computed given negatable left)
      (rightComputed : Computed given negatable right) (added : left.add right = .ok sum) :
      Computed given negatable sum
  | sub {left right difference : Money} (leftComputed : Computed given negatable left)
      (rightComputed : Computed given negatable right)
      (subtracted : left.sub right = .ok difference) : Computed given negatable difference
  | neg {money : Money} (computed : Computed given negatable money) (admitted : negatable money) :
      Computed given negatable money.neg
  | checkedAdd {left right sum : Money} (leftComputed : Computed given negatable left)
      (rightComputed : Computed given negatable right) (added : left.add? right = some sum) :
      Computed given negatable sum
  | checkedSub {left right difference : Money} (leftComputed : Computed given negatable left)
      (rightComputed : Computed given negatable right)
      (subtracted : left.sub? right = some difference) : Computed given negatable difference
  | multiply {money product : Money} {factor : Decimal} (computed : Computed given negatable money)
      (multiplied : money.multiply factor = .ok product) : Computed given negatable product
  | sum {amounts : List Money} {total : Money}
      (computed : ∀ money ∈ amounts, Computed given negatable money)
      (summed : Money.sum amounts = .ok total) : Computed given negatable total
  | roundToCents {money : Money} (computed : Computed given negatable money) :
      Computed given negatable money.roundToCents

/-- Any decimal may be given, and any amount negated. -/
def Reachable : Money → Prop := Computed (fun _ => True) (fun _ => True)

/-- No decimal is given that is a signed zero, and no zero is negated. -/
def PlainlyReachable : Money → Prop :=
  Computed (fun amount => ¬ amount.IsSignedZero) (fun money => money.isZero = false)

theorem Computed.is_rounded {given : Decimal → Prop} {negatable : Money → Prop} {money : Money}
    (computed : Computed given negatable money) : money.IsRounded := by
  cases computed with
  | ofDecimal _ => exact ⟨_, rfl⟩
  | zero => exact zero_is_rounded
  | default => exact zero_is_rounded
  | add _ _ added => exact add_is_rounded added
  | sub _ _ subtracted => exact sub_is_rounded subtracted
  | neg _ _ => exact ⟨_, rfl⟩
  | checkedAdd _ _ added => exact checked_add_is_rounded added
  | checkedSub _ _ subtracted => exact checked_sub_is_rounded subtracted
  | multiply _ multiplied => exact multiply_is_rounded multiplied
  | sum _ summed => exact fold_is_rounded _ zero_is_rounded summed
  | roundToCents _ => exact round_to_cents_is_rounded _

section Signs

variable {left right result : Money}

theorem checked_add_signed_zero (added : left.add? right = some result)
    (zero : result.amount.IsSignedZero) : right.amount.IsSignedZero := by
  obtain ⟨amount, computed, rfl⟩ := Option.map_eq_some_iff.mp added
  exact signed_zero_of_add computed (signed_zero_of_round zero)

theorem checked_sub_signed_zero (subtracted : left.sub? right = some result)
    (zero : result.amount.IsSignedZero) : right.amount.IsSignedZero := by
  obtain ⟨amount, computed, rfl⟩ := Option.map_eq_some_iff.mp subtracted
  exact signed_zero_of_sub computed (signed_zero_of_round zero)

theorem add_signed_zero (added : left.add right = .ok result)
    (zero : result.amount.IsSignedZero) : right.amount.IsSignedZero :=
  checked_add_signed_zero (Overflow.require_ok_iff.mp added) zero

theorem sub_signed_zero (subtracted : left.sub right = .ok result)
    (zero : result.amount.IsSignedZero) : right.amount.IsSignedZero :=
  checked_sub_signed_zero (Overflow.require_ok_iff.mp subtracted) zero

theorem multiply_not_signed_zero {factor : Decimal} (rounded : left.IsRounded)
    (multiplied : left.multiply factor = .ok result) : ¬ result.amount.IsSignedZero := by
  intro zero
  obtain ⟨amount, required, rfl⟩ := map_ok_iff.mp multiplied
  have places : left.amount.scale ≤ 4 := (is_rounded_iff_scale left).mp rounded
  have factorPlaces := factor.scale_le
  exact mul_not_signed_zero (by omega) (Overflow.require_ok_iff.mp required)
    (signed_zero_of_round zero)

theorem fold_not_signed_zero (amounts : List Money)
    (plain : ∀ money ∈ amounts, ¬ money.amount.IsSignedZero) {start total : Money}
    (startPlain : ¬ start.amount.IsSignedZero) (folded : amounts.foldlM add start = .ok total) :
    ¬ total.amount.IsSignedZero := by
  refine fold_keeps (fun money => ¬ money.amount.IsSignedZero) amounts ?_ startPlain folded
  intro money member _ _ _ added zero
  exact plain money member (add_signed_zero added zero)

/-- No operation makes a signed zero of amounts that are none, but for the negation of a zero. -/
theorem PlainlyReachable.not_signed_zero {money : Money} (reachable : PlainlyReachable money) :
    ¬ money.amount.IsSignedZero := by
  have zeroPlain : ¬ Money.zero.amount.IsSignedZero := by decide
  induction reachable with
  | ofDecimal plain => exact fun zero => plain (signed_zero_of_round zero)
  | zero => exact zeroPlain
  | default => exact zeroPlain
  | add _ _ added _ rightPlain => exact fun zero => rightPlain (add_signed_zero added zero)
  | sub _ _ subtracted _ rightPlain =>
      exact fun zero => rightPlain (sub_signed_zero subtracted zero)
  | neg _ nonzero _ =>
      intro zero
      have nothing := signed_zero_of_neg (signed_zero_of_round zero)
      rw [isZero, nothing] at nonzero
      cases nonzero
  | checkedAdd _ _ added _ rightPlain =>
      exact fun zero => rightPlain (checked_add_signed_zero added zero)
  | checkedSub _ _ subtracted _ rightPlain =>
      exact fun zero => rightPlain (checked_sub_signed_zero subtracted zero)
  | multiply computed multiplied _ =>
      exact multiply_not_signed_zero computed.is_rounded multiplied
  | sum _ summed plain => exact fold_not_signed_zero _ plain zeroPlain summed
  | roundToCents _ plain => exact fun zero => plain (signed_zero_of_round zero)

end Signs

section Texts

theorem nat_abs_signed_at (amount : Decimal) (places : Nat) :
    (amount.signedAt places).natAbs = amount.mantissa * 10 ^ (places - amount.scale) := by
  have power : ((10 : Int) ^ (places - amount.scale)).natAbs = 10 ^ (places - amount.scale) := by
    rw [Int.natAbs_pow]
    rfl
  have signed : amount.signed.natAbs = amount.mantissa := by
    have magnitude := abs_signed amount
    rw [Int.abs_eq_natAbs] at magnitude
    exact_mod_cast magnitude
  rw [signedAt, Int.natAbs_mul, power, signed]

variable {first second : Money} (same : first.value = second.value)

include same

theorem round_to_cents_same :
    first.roundToCents.amount.toRat = second.roundToCents.amount.toRat := by
  change first.roundToCents.value = second.roundToCents.value
  rw [round_to_cents_value, round_to_cents_value, same]

theorem display_eq_iff_sign :
    first.display = second.display ↔
      first.roundToCents.amount.negative = second.roundToCents.amount.negative := by
  have firstPlaces : first.roundToCents.amount.scale ≤ shownPlaces := scale_round_le ..
  have secondPlaces : second.roundToCents.amount.scale ≤ shownPlaces := scale_round_le ..
  have grid : (first.roundToCents.amount.signedAt shownPlaces : Rat) =
      second.roundToCents.amount.signedAt shownPlaces := by
    rw [signed_at_eq_product _ firstPlaces, signed_at_eq_product _ secondPlaces,
      round_to_cents_same same]
  have digits : first.roundToCents.amount.signedAt shownPlaces =
      second.roundToCents.amount.signedAt shownPlaces := by
    exact_mod_cast grid
  rw [display, display, String.ofList_inj, List.cons_inj_right, charsWithPlaces, charsWithPlaces,
    ← nat_abs_signed_at, ← nat_abs_signed_at, digits,
    layout_signed first.roundToCents.amount.negative,
    layout_signed second.roundToCents.amount.negative, List.append_left_inj]
  cases first.roundToCents.amount.negative <;> cases second.roundToCents.amount.negative <;> simp

theorem sign_of_cents_eq_iff :
    first.roundToCents.amount.negative = second.roundToCents.amount.negative ↔
      (first.isZero = true → first.amount.negative = second.amount.negative) := by
  have denoted : first.amount.toRat = second.amount.toRat := same
  have firstSign := sign_of_round .awayFromZero shownPlaces first.amount
  have secondSign := sign_of_round .awayFromZero shownPlaces second.amount
  change first.roundToCents.amount.negative = (first.amount.negative &&
    (first.amount.isZero || !first.roundToCents.amount.isZero)) at firstSign
  change second.roundToCents.amount.negative = (second.amount.negative &&
    (second.amount.isZero || !second.roundToCents.amount.isZero)) at secondSign
  have zeros : first.amount.isZero = second.amount.isZero := by
    rw [Bool.eq_iff_iff, is_zero_iff_to_rat, is_zero_iff_to_rat, denoted]
  have shownZeros : first.roundToCents.amount.isZero = second.roundToCents.amount.isZero := by
    rw [Bool.eq_iff_iff, is_zero_iff_to_rat, is_zero_iff_to_rat, round_to_cents_same same]
  rw [firstSign, secondSign, shownZeros, ← zeros, isZero]
  cases nothing : first.amount.isZero with
  | true => simp
  | false =>
      have signs : first.amount.negative = second.amount.negative := by
        rw [Bool.eq_iff_iff, negative_iff nothing, negative_iff (zeros ▸ nothing), denoted]
      simp [signs]

end Texts

theorem display_of_zero {money : Money} (nothing : money.isZero = true) :
    money.display = if money.amount.negative then "$-0.00" else "$0.00" := by
  let plain : Money := ⟨.literal money.amount.negative 0 0⟩
  have value : money.value = 0 := (is_zero_iff_to_rat money.amount).mp nothing
  have plainValue : plain.value = 0 := (is_zero_iff_to_rat plain.amount).mp rfl
  have same : money.value = plain.value := value.trans plainValue.symm
  have text : money.display = plain.display :=
    (display_eq_iff_sign same).mpr ((sign_of_cents_eq_iff same).mpr fun _ => rfl)
  rw [text]
  simp only [plain]
  cases money.amount.negative <;> decide

theorem PlainlyReachable.zero_unsigned {money : Money} (reachable : PlainlyReachable money)
    (nothing : money.isZero = true) : money.amount.negative = false := by
  rw [← Bool.not_eq_true]
  exact fun negative => reachable.not_signed_zero ⟨nothing, negative⟩

/-- Equal amounts have one text unless they are zeros with different signs, and a zero prints as
`$0.00` unless it has a sign. Without a given decimal that is a signed zero and a negation of a zero
there are no such zeros. -/
theorem equal_amounts_print_alike_iff {first second : Money}
    (equal : first.sameAmount second = true) :
    (first.display = second.display ↔
      (first.isZero = true → first.amount.negative = second.amount.negative)) ∧
    (first.isZero = true → (first.display = "$0.00" ↔ first.amount.negative = false)) ∧
    (PlainlyReachable first → PlainlyReachable second → first.display = second.display) ∧
    (PlainlyReachable first → first.isZero = true → first.display = "$0.00") := by
  have same : first.value = second.value := (same_amount_iff_value first second).mp equal
  have alike := (display_eq_iff_sign same).trans (sign_of_cents_eq_iff same)
  have plain : first.isZero = true →
      (first.display = "$0.00" ↔ first.amount.negative = false) := by
    intro nothing
    rw [display_of_zero nothing]
    cases first.amount.negative <;> simp
  refine ⟨alike, plain, ?_, ?_⟩
  · intro firstReachable secondReachable
    rw [alike]
    intro nothing
    have value := (is_zero_iff_to_rat first.amount).mp nothing
    have secondNothing : second.isZero = true :=
      (is_zero_iff_to_rat second.amount).mpr (same.symm.trans value)
    rw [firstReachable.zero_unsigned nothing, secondReachable.zero_unsigned secondNothing]
  · intro reachable nothing
    exact (plain nothing).mpr (reachable.zero_unsigned nothing)

theorem half_dollars_print_alike :
    let first : Money := ⟨.literal true 50 2⟩
    let second : Money := ⟨.literal true 5000 4⟩
    let difference : Money := ⟨.literal false 0 4⟩
    PlainlyReachable first ∧ PlainlyReachable second ∧ PlainlyReachable difference ∧
      first.sameAmount second = true ∧ first.display = second.display ∧
      difference.sameAmount zero = true ∧ difference.isZero = true ∧
      difference.display = "$0.00" := by
  intro first second difference
  have given : ∀ amount : Decimal, ¬ amount.IsSignedZero → PlainlyReachable (ofDecimal amount) :=
    fun amount plain => Computed.ofDecimal plain
  have firstReachable : PlainlyReachable first := given (.literal true 50 2) (by decide)
  have secondReachable : PlainlyReachable second := by
    have quarter := given (.literal false 2500 4) (by decide)
    have doubled : (ofDecimal (.literal false 2500 4)).multiply (.literal true 2 0) =
        .ok second := by rfl
    exact Computed.multiply quarter doubled
  have subtracted : first.sub second = .ok difference := by decide
  have differenceReachable : PlainlyReachable difference :=
    Computed.sub firstReachable secondReachable subtracted
  have equal : first.sameAmount second = true := by decide
  have nothing : difference.sameAmount zero = true := by decide
  obtain ⟨-, -, alike, -⟩ := equal_amounts_print_alike_iff equal
  obtain ⟨-, -, -, plain⟩ := equal_amounts_print_alike_iff nothing
  exact ⟨firstReachable, secondReachable, differenceReachable, equal,
    alike firstReachable secondReachable, nothing, by decide, plain differenceReachable (by decide)⟩

/-- Zero negated is equal to zero, and it is printed with a minus sign. -/
theorem negated_zero_prints_its_sign :
    (¬ ∀ first second : Money, Reachable first → Reachable second →
      first.sameAmount second = true → first.display = second.display) ∧
    ¬ ∀ money : Money, Reachable money → money.isZero = true → money.display = "$0.00" := by
  have start : Reachable zero := Computed.zero
  have negated : Reachable zero.neg := Computed.neg start trivial
  have text : zero.neg.display ≠ "$0.00" := by decide
  constructor
  · intro alike
    have same := alike zero.neg zero negated start (by decide)
    exact text (same.trans (by decide))
  · intro plain
    exact text (plain zero.neg negated (by decide))

end MotorTariff.Money
