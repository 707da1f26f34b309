import MotorTariff.Proofs.Engine.RiskOrder
import MotorTariff.Proofs.Money.KeptPlaces
import MotorTariff.Proofs.Money.Multiplication

/-!
# The rating formula

A tariff quotes base rate times factor plus surcharge. The rules never form that product: they scale
the base rate by the factor less one, store the result with the kept places and add the base rate
back. As long as the two decimal operations lose nothing and the lines stay within the capacity, the
storing is the only rounding on the way, so the total misses the formula by half of the last kept
place at most, and not at all exactly if the product is written with the kept places.
-/

set_option autoImplicit false

namespace MotorTariff

namespace Rule

theorem age_adjustment_exact {baseRate : Money} {factor : Decimal}
    (difference : Decimal.IsRepresentable (factor.toRat - 1))
    (product : Decimal.IsRepresentable (baseRate.value * (factor.toRat - 1))) :
    ∃ adjustment, ageAdjustment baseRate factor = .ok adjustment ∧
      adjustment.value =
        Decimal.nearestAt Money.keptPlaces (baseRate.value * (factor.toRat - 1)) := by
  have subtraction := Decimal.sub_rounds_once factor .one
  rw [Decimal.to_rat_one] at subtraction
  obtain ⟨less, subtracted, lessValue⟩ := Decimal.exact_of_representable subtraction difference
  rw [← lessValue] at product ⊢
  obtain ⟨adjustment, multiplied, stored⟩ := Money.multiply_of_representable product
  refine ⟨adjustment, bind_ok_iff.mpr ⟨less, ?_, multiplied⟩, stored⟩
  exact Overflow.require_ok_iff.mpr subtracted

theorem accident_lines_value (rates : RateTable) (tier : AccidentTier) :
    ((accidentLines rates tier).map fun line => line.amount.value).sum = surcharge rates tier := by
  cases tier <;> simp [accidentLines, AccidentTier.rationale?, surcharge]

theorem accident_lines_magnitude (rates : RateTable) (tier : AccidentTier) :
    Money.magnitudeSum ((accidentLines rates tier).map Adjustment.amount) =
      |surcharge rates tier| := by
  cases tier <;> simp [accidentLines, AccidentTier.rationale?, surcharge, Money.magnitudeSum]

theorem surcharge_of_count (rates : RateTable) (count : Int32) :
    surcharge rates (.ofCount count) =
      if 0 < count then (rates.accidentSurcharge (.ofCount count)).value else 0 := by
  rw [surcharge]
  by_cases positive : 0 < count
  · rw [if_neg (mt (clean_iff_not_positive count).mp (not_not.mpr positive)), if_pos positive]
  · rw [if_pos ((clean_iff_not_positive count).mpr positive), if_neg positive]

/-- A base rate has a place for all its digits, so an age amount is stored as it is exactly if the
rate times the factor has one too. -/
theorem age_amount_kept_iff {baseRate : Money} (rounded : baseRate.IsRounded) (factor : Rat) :
    Decimal.nearestAt Money.keptPlaces (baseRate.value * (factor - 1)) =
        baseRate.value * (factor - 1) ↔
      ∃ units : Int, baseRate.value * factor = units * 0.0001 := by
  have onGrid : ∃ units : Int, baseRate.value * 10 ^ Money.keptPlaces = units := by
    rw [← Money.nearest_at_kept_iff]
    exact Money.nearest_at_kept_of_scale ((Money.is_rounded_iff_scale _).mp rounded)
  obtain ⟨baseUnits, baseGrid⟩ := onGrid
  have kept : (10 : Rat) ^ Money.keptPlaces = 10000 := by norm_num [Money.keptPlaces]
  rw [Money.nearest_at_kept_iff]
  rw [kept] at baseGrid ⊢
  constructor
  · intro stored
    obtain ⟨units, grid⟩ := stored
    refine ⟨units + baseUnits, ?_⟩
    push_cast
    linarith
  · intro whole
    obtain ⟨units, grid⟩ := whole
    refine ⟨units - baseUnits, ?_⟩
    push_cast
    linarith

end Rule

namespace Premium

def standard (rates : RateTable) (profile : Profile) (adjustment : Money) : Premium where
  baseRate := rates.baseRate (.classify profile.make profile.model)
  adjustments :=
    ⟨Rule.ageFactorLabel, adjustment, (AgeBracket.ofAge profile.age).rationale⟩ ::
      Rule.accidentLines rates (.ofCount profile.accidents)

variable {rates : RateTable} {profile : Profile} {adjustment : Money}

theorem standard_is_rounded (tableRounded : rates.IsRounded) (rounded : adjustment.IsRounded) :
    (standard rates profile adjustment).IsRounded := by
  constructor
  · exact tableRounded.baseRate _
  · intro money member
    obtain ⟨line, listed, rfl⟩ := List.mem_map.mp member
    rcases List.mem_cons.mp listed with rfl | accident
    · exact rounded
    · exact Rule.accident_history_appends.rounded profile rates .zero _ tableRounded rfl line
        accident

theorem standard_magnitude :
    (standard rates profile adjustment).magnitude =
      |(rates.baseRate (.classify profile.make profile.model)).value| + |adjustment.value| +
        |Rule.surcharge rates (.ofCount profile.accidents)| := by
  have accidents := Rule.accident_lines_magnitude rates (.ofCount profile.accidents)
  simp only [magnitude, amounts, standard, Money.magnitudeSum, List.map_cons, List.sum_cons]
    at accidents ⊢
  rw [accidents, add_assoc]

theorem standard_exact_total :
    (standard rates profile adjustment).exactTotal =
      (rates.baseRate (.classify profile.make profile.model)).value + adjustment.value +
        Rule.surcharge rates (.ofCount profile.accidents) := by
  have accidents := Rule.accident_lines_value rates (.ofCount profile.accidents)
  simp only [exactTotal, amounts, standard, List.map_cons, List.sum_cons, List.map_map]
  rw [← accidents, add_assoc]
  rfl

end Premium

namespace Engine

/-- The total of the standard rules is the base rate times the factor plus the surcharge, up to half
of a ten-thousandth, and exactly if the product is a multiple of a ten-thousandth. -/
theorem standard_total_follows_formula {rates : RateTable} (tableRounded : rates.IsRounded)
    (profile : Profile) :
    let baseRate := (rates.baseRate (.classify profile.make profile.model)).value
    let factor := (rates.ageFactor (.ofAge profile.age)).toRat
    let ageAmount := Decimal.nearestAt Money.keptPlaces (baseRate * (factor - 1))
    let surcharge :=
      if 0 < profile.accidents then
        (rates.accidentSurcharge (.ofCount profile.accidents)).value
      else 0
    Decimal.IsRepresentable (factor - 1) →
    Decimal.IsRepresentable (baseRate * (factor - 1)) →
    |baseRate| + |ageAmount| + |surcharge| < 2 ^ 96 / 10 ^ 4 →
    ∃ engine premium total, assemble rates Rule.standard = .ok engine ∧
      (∀ listening, (engine.rate listening profile).outcome = .ok premium) ∧
      premium.total = .ok total ∧
      |total.value - (baseRate * factor + surcharge)| ≤ 0.00005 ∧
      (total.value = baseRate * factor + surcharge ↔
        ∃ units : Int, baseRate * factor = units * 0.0001) := by
  intro baseRate factor ageAmount surcharge differenceFits productFits fits
  obtain ⟨adjustment, computed, value⟩ :=
    Rule.age_adjustment_exact differenceFits productFits
  let premium := Premium.standard rates profile adjustment
  have quiet : (Engine.rate ⟨rates, Rule.standard⟩ false profile).outcome = .ok premium := by
    rw [standard_outcome, computed]
    rfl
  have rounded : premium.IsRounded :=
    Premium.standard_is_rounded tableRounded (Rule.age_adjustment_is_rounded computed)
  have charged : Rule.surcharge rates (.ofCount profile.accidents) = surcharge :=
    Rule.surcharge_of_count rates profile.accidents
  have within : premium.magnitude < Money.capacity := by
    rw [Premium.standard_magnitude, value, charged]
    exact fits
  obtain ⟨total, totalled, exact⟩ := Premium.total_is_exact rounded within
  rw [Premium.standard_exact_total, value, charged] at exact
  -- The total misses the formula by what storing the age adjustment misses.
  have missed : total.value - (baseRate * factor + surcharge) =
      ageAmount - baseRate * (factor - 1) := by
    rw [exact]
    ring
  have heard := listening_is_invisible_within_capacity Rule.standard_ignores_listener quiet rounded
    within
  refine ⟨_, premium, total, rfl, heard, totalled, ?_, ?_⟩
  · rw [missed]
    refine (Decimal.abs_nearest_at_sub_le _ _).trans ?_
    norm_num [Money.keptPlaces]
  · rw [← sub_eq_zero, missed, sub_eq_zero]
    exact Rule.age_amount_kept_iff (tableRounded.baseRate _) factor

/-- A base rate of 0.0001 with a factor of 1.5 makes an age adjustment that lies halfway between two
amounts that can be stored; the surcharge is a credit. -/
def halfwayTable : RateTable :=
  let rate := Money.ofDecimal (.literal false 1 4)
  let factor := RateTable.tenths 15
  let credit := Money.ofDecimal (.literal true 25001 4)
  ⟨⟨rate, rate, rate, rate⟩, ⟨factor, factor, factor, factor⟩, ⟨credit, credit, credit⟩⟩

theorem halfway_table_is_rounded : halfwayTable.IsRounded where
  baseRate category := by cases category <;> exact ⟨_, rfl⟩
  accidentSurcharge tier := by cases tier <;> exact ⟨_, rfl⟩

/-- The formula gives -2.49995 and the total is -2.5, so the bound is reached. -/
theorem halfway_total_misses_by_half_a_unit :
    ∃ engine premium total, assemble halfwayTable Rule.standard = .ok engine ∧
      (∀ listening, (engine.rate listening oneAccident).outcome = .ok premium) ∧
      premium.total = .ok total ∧ |total.value - -2.49995| ≤ 0.00005 ∧
      total.value ≠ -2.49995 := by
  have baseRate : (halfwayTable.baseRate
      (.classify oneAccident.make oneAccident.model)).value = 1 / 10000 := by decide +kernel
  have factor : (halfwayTable.ageFactor (.ofAge oneAccident.age)).toRat = 3 / 2 := by
    decide +kernel
  have surcharge : (halfwayTable.accidentSurcharge (.ofCount oneAccident.accidents)).value =
      -(25001 / 10000) := by decide +kernel
  have charged : 0 < oneAccident.accidents := by decide
  have followed := standard_total_follows_formula halfway_table_is_rounded oneAccident
  dsimp only at followed
  rw [baseRate, factor, surcharge, if_pos charged] at followed
  have differenceFits : Decimal.IsRepresentable (3 / 2 - 1) :=
    ⟨5, 1, by decide, by decide, by norm_num⟩
  have productFits : Decimal.IsRepresentable (1 / 10000 * (3 / 2 - 1)) :=
    ⟨5, 5, by decide, by decide, by norm_num⟩
  obtain ⟨engine, premium, total, accepted, rated, totalled, near, exactly⟩ :=
    followed differenceFits productFits (by decide +kernel)
  have formula : (1 / 10000 * (3 / 2) + -(25001 / 10000) : Rat) = -2.49995 := by norm_num
  rw [formula] at near exactly
  refine ⟨engine, premium, total, accepted, rated, totalled, near, ?_⟩
  rw [ne_eq, exactly]
  rintro ⟨units, halfway⟩
  have doubled : (2 * units : Rat) = 3 := by linarith
  have integral : 2 * units = 3 := by exact_mod_cast doubled
  omega

end Engine

end MotorTariff
