import MotorTariff.Proofs.Engine.Listening
import MotorTariff.Proofs.Engine.StandardRules
import MotorTariff.Proofs.Money.Stored

/-!
# More risk never costs less

A standard total is made in five steps that may all lose digits: a difference, a product, the sum of
the lines, and the sum with the base rate, each stored with the kept places. Every step keeps the
order of its exact results. So with base rates and surcharges that are not negative, a larger factor
and more accidents give a total that is at least as large.
-/

set_option autoImplicit false

namespace MotorTariff

namespace Rule

/-- The surcharge that a tier adds; a clean record adds nothing, whatever the table says. -/
def surcharge (rates : RateTable) (tier : AccidentTier) : Rat :=
  if tier = .clean then 0 else (rates.accidentSurcharge tier).value

theorem age_adjustment_value {baseRate adjustment : Money} {factor : Decimal}
    (computed : ageAdjustment baseRate factor = .ok adjustment) :
    adjustment.value =
      Money.stored (baseRate.value * Decimal.nearest (factor.toRat - 1)) := by
  obtain ⟨less, required, multiplied⟩ := bind_ok_iff.mp computed
  have difference := (Decimal.sub_rounds_once factor .one).value
    (Overflow.require_ok_iff.mp required)
  rw [Money.multiply_value multiplied, difference, Decimal.to_rat_one]

theorem age_adjustment_mono {baseRate adjustment other : Money} {factor otherFactor : Decimal}
    (nonneg : 0 ≤ baseRate.value) (order : factor.toRat ≤ otherFactor.toRat)
    (computed : ageAdjustment baseRate factor = .ok adjustment)
    (otherComputed : ageAdjustment baseRate otherFactor = .ok other) :
    adjustment.value ≤ other.value := by
  rw [age_adjustment_value computed, age_adjustment_value otherComputed]
  apply Money.stored_mono
  exact mul_le_mul_of_nonneg_left (Decimal.nearest_mono (sub_le_sub_right order 1)) nonneg

theorem tiers_follow_counts {count otherCount : Int32} (order : count ≤ otherCount) :
    AccidentTier.ofCount count = .clean ∨ AccidentTier.ofCount otherCount = .twoOrMore ∨
      (AccidentTier.ofCount count = .one ∧ AccidentTier.ofCount otherCount = .one) := by
  by_cases clean : count ≤ 0
  · exact Or.inl (by simp [AccidentTier.ofCount, clean])
  have positive : 0 < count := Int32.not_le.mp clean
  have otherPositive : ¬ otherCount ≤ 0 := Int32.not_le.mpr (Int32.lt_of_lt_of_le positive order)
  by_cases otherOne : otherCount = 1
  · have one : count = 1 := by
      subst otherOne
      rw [Int32.le_iff_toInt_le] at order
      rw [Int32.lt_iff_toInt_lt] at positive
      apply Int32.toInt_inj.mp
      have : (1 : Int32).toInt = 1 := rfl
      have : (0 : Int32).toInt = 0 := rfl
      omega
    exact Or.inr (Or.inr ⟨by rw [one]; decide, by rw [otherOne]; decide⟩)
  · exact Or.inr (Or.inl (by simp [AccidentTier.ofCount, otherPositive, otherOne]))

theorem surcharge_mono {rates : RateTable} (oneNonneg : 0 ≤ (rates.accidentSurcharge .one).value)
    (moreNotLess :
      (rates.accidentSurcharge .one).value ≤ (rates.accidentSurcharge .twoOrMore).value)
    {count otherCount : Int32} (order : count ≤ otherCount) :
    surcharge rates (.ofCount count) ≤ surcharge rates (.ofCount otherCount) := by
  have nonneg : ∀ tier, 0 ≤ surcharge rates tier := by
    intro tier
    cases tier with
    | clean => exact le_rfl
    | one => exact oneNonneg
    | twoOrMore => exact oneNonneg.trans moreNotLess
  have most : ∀ tier, surcharge rates tier ≤ surcharge rates .twoOrMore := by
    intro tier
    cases tier with
    | clean => exact nonneg .twoOrMore
    | one => exact moreNotLess
    | twoOrMore => exact le_rfl
  rcases tiers_follow_counts order with clean | twoOrMore | ⟨one, otherOne⟩
  · rw [clean]
    exact nonneg _
  · rw [twoOrMore]
    exact most _
  · rw [one, otherOne]

theorem line_sum_value {rates : RateTable} {tier : AccidentTier} {adjustment sum : Money}
    (rounded : adjustment.IsRounded)
    (summed : Money.sum (adjustment :: (accidentLines rates tier).map Adjustment.amount) =
      .ok sum) :
    sum.value = Money.stored (adjustment.value + surcharge rates tier) := by
  -- The sum over the lines of a standard premium. The line for a clean record is missing, which is
  -- the same as a surcharge of nothing, since the age adjustment is stored with the kept places.
  obtain ⟨first, added, folded⟩ := bind_ok_iff.mp
    ((List.foldlM_cons (m := Except Overflow) ..).symm.trans summed)
  obtain ⟨firstValue, -⟩ := Money.add_value added
  rw [Money.value_zero, zero_add, Money.stored_of_rounded rounded] at firstValue
  by_cases clean : tier = .clean
  · subst clean
    cases folded
    rw [surcharge, if_pos rfl, add_zero, Money.stored_of_rounded rounded, firstValue]
  · obtain ⟨rationale, -, lines⟩ := accident_lines_of_charged rates clean
    rw [lines] at folded
    obtain ⟨second, addedSecond, rest⟩ := bind_ok_iff.mp
      ((List.foldlM_cons (m := Except Overflow) ..).symm.trans folded)
    cases rest
    rw [surcharge, if_neg clean, (Money.add_value addedSecond).1, firstValue]

end Rule

namespace Engine

variable {rates : RateTable} {engine : Engine}

theorem standard_total_value (accepted : assemble rates Rule.standard = .ok engine)
    {profile : Profile} {listening : Bool} {premium : Premium} {total : Money}
    (rated : (engine.rate listening profile).outcome = .ok premium)
    (computed : premium.total = .ok total) :
    ∃ adjustment,
      Rule.ageAdjustment (rates.baseRate (.classify profile.make profile.model))
        (rates.ageFactor (.ofAge profile.age)) = .ok adjustment ∧
      total.value = Money.stored ((rates.baseRate (.classify profile.make profile.model)).value +
        Money.stored (adjustment.value + Rule.surcharge rates (.ofCount profile.accidents))) := by
  obtain ⟨-, -, rfl⟩ := (assemble_ok_iff rates Rule.standard engine).mp accepted
  have quiet := quiet_outcome_of_rated Rule.standard_ignores_listener rated
  rw [standard_outcome] at quiet
  obtain ⟨adjustment, adjusted, rfl⟩ := map_ok_iff.mp quiet
  refine ⟨adjustment, adjusted, ?_⟩
  obtain ⟨sum, summed, added⟩ := bind_ok_iff.mp computed
  rw [(Money.add_value added).1,
    Rule.line_sum_value (Rule.age_adjustment_is_rounded adjusted) summed]

/-- Of two profiles with vehicles of one category, the one with the larger age factor and at least
as many accidents has a total that is at least as large. -/
theorem standard_totals_follow_risk (accepted : assemble rates Rule.standard = .ok engine)
    (baseNonneg : ∀ category, 0 ≤ (rates.baseRate category).value)
    (oneNonneg : 0 ≤ (rates.accidentSurcharge .one).value)
    (moreNotLess :
      (rates.accidentSurcharge .one).value ≤ (rates.accidentSurcharge .twoOrMore).value)
    {profile other : Profile}
    (sameCategory : VehicleCategory.classify profile.make profile.model =
      VehicleCategory.classify other.make other.model)
    (factors : (rates.ageFactor (.ofAge profile.age)).toRat ≤
      (rates.ageFactor (.ofAge other.age)).toRat)
    (accidents : profile.accidents ≤ other.accidents)
    {listening listeningAgain : Bool} {premium otherPremium : Premium} {total otherTotal : Money}
    (rated : (engine.rate listening profile).outcome = .ok premium)
    (otherRated : (engine.rate listeningAgain other).outcome = .ok otherPremium)
    (computed : premium.total = .ok total) (otherComputed : otherPremium.total = .ok otherTotal) :
    (total.compare otherTotal).isLE = true := by
  obtain ⟨adjustment, adjusted, value⟩ := standard_total_value accepted rated computed
  obtain ⟨otherAdjustment, otherAdjusted, otherValue⟩ :=
    standard_total_value accepted otherRated otherComputed
  rw [← sameCategory] at otherAdjusted otherValue
  have adjustments : adjustment.value ≤ otherAdjustment.value :=
    Rule.age_adjustment_mono (baseNonneg _) factors adjusted otherAdjusted
  have surcharges := Rule.surcharge_mono oneNonneg moreNotLess accidents
  rw [Money.compare_is_le_iff, value, otherValue]
  apply Money.stored_mono
  apply add_le_add_right
  exact Money.stored_mono (add_le_add adjustments surcharges)

/-- A table whose base rate fills the mantissa, so that every surcharge costs it a digit. -/
def tightTable : RateTable :=
  let rate := Money.ofDecimal (.literal false (BitVec.allOnes 96) 4)
  let neutral := RateTable.tenths 10
  { baseRates := ⟨rate, rate, rate, rate⟩
    ageFactors := ⟨.literal false 100004 5, neutral, neutral, neutral⟩
    accidentSurcharges :=
      { none := .zero
        one := .ofDecimal (.literal false 3000001 4)
        twoOrMore := .ofDecimal (.literal false 6000005 4) } }

def experiencedDriver : Profile := .ofEntries [.age 40, .accidents 1]

def beginner : Profile := .ofEntries [.age 18, .accidents 2]

theorem tight_totals_follow_risk :
    ∃ engine premium otherPremium total otherTotal,
      assemble tightTable Rule.standard = .ok engine ∧
      (engine.rate true experiencedDriver).outcome = .ok premium ∧
      (engine.rate false beginner).outcome = .ok otherPremium ∧
      premium.total = .ok total ∧ otherPremium.total = .ok otherTotal ∧
      (total.compare otherTotal).isLE = true := by
  have accepted : assemble tightTable Rule.standard = .ok ⟨tightTable, Rule.standard⟩ := rfl
  have baseNonneg : ∀ category, 0 ≤ (tightTable.baseRate category).value := by
    intro category
    cases category <;> decide +kernel
  obtain ⟨premium, total, rated, computed⟩ : ∃ premium total,
      (Engine.rate ⟨tightTable, Rule.standard⟩ true experiencedDriver).outcome = .ok premium ∧
        premium.total = .ok total := ⟨_, _, rfl, rfl⟩
  obtain ⟨otherPremium, otherTotal, otherRated, otherComputed⟩ : ∃ premium total,
      (Engine.rate ⟨tightTable, Rule.standard⟩ false beginner).outcome = .ok premium ∧
        premium.total = .ok total := ⟨_, _, rfl, rfl⟩
  have order := standard_totals_follow_risk accepted baseNonneg (by decide +kernel)
    (by decide +kernel) (by decide) (by decide +kernel) (by decide) rated otherRated computed
    otherComputed
  exact ⟨_, premium, otherPremium, total, otherTotal, accepted, rated, otherRated, computed,
    otherComputed, order⟩

end Engine

end MotorTariff
