import MotorTariff.Proofs.Decimal.HalfAway
import MotorTariff.Proofs.Engine.RatingFormula
import MotorTariff.Proofs.Premium.Reconciliation

/-!
# The printed age adjustment

The age adjustment is rounded twice on its way to the customer: half to even when it is kept, and
half away from zero when it is shown. So the printed amount is the exact one to the nearest cent,
but for exact amounts that fall short of a half cent by less than the kept places can tell.
-/

set_option autoImplicit false

namespace MotorTariff.Engine

open Decimal

/-- As long as the exact adjustment loses no digits before it is kept, what the breakdown prints for
it is the kept amount in cents. It is the exact amount in cents unless that one is kept as a half
cent that it does not reach; then it is a cent farther from zero. -/
theorem printed_age_amount_is_kept_amount (rates : RateTable) (profile : Profile) :
    let baseRate := (rates.baseRate (.classify profile.make profile.model)).value
    let factor := (rates.ageFactor (.ofAge profile.age)).toRat
    let exact := baseRate * (factor - 1)
    IsRepresentable (factor - 1) → IsRepresentable exact →
    ∃ engine premium ageLine otherLines, assemble rates Rule.standard = .ok engine ∧
      (engine.rate false profile).outcome = .ok premium ∧
      premium.adjustments = ageLine :: otherLines ∧ ageLine.label = "Age factor" ∧
      ∀ total, premium.total = .ok total →
        ∃ text printed shown otherAmounts, premium.breakdown = .ok text ∧
          premium.printedAmounts? text = some printed ∧
          printed.adjustments = shown :: otherAmounts ∧
          shown = awayAt Money.shownPlaces (nearestAt Money.keptPlaces exact) ∧
          (shown = awayAt Money.shownPlaces exact ↔ ¬ Money.IsKeptAsHalfCent exact) ∧
          (Money.IsKeptAsHalfCent exact →
            shown = awayAt Money.shownPlaces exact + if exact < 0 then -0.01 else 0.01) := by
  intro baseRate factor exact differenceFits productFits
  obtain ⟨adjustment, computed, value⟩ :=
    Rule.age_adjustment_exact differenceFits productFits
  let premium := Premium.standard rates profile adjustment
  have rated : (Engine.rate ⟨rates, Rule.standard⟩ false profile).outcome = .ok premium := by
    rw [standard_outcome, computed]
    rfl
  refine ⟨⟨rates, Rule.standard⟩, premium, _, _, rfl, rated, rfl, rfl, ?_⟩
  intro total totalled
  obtain ⟨text, rendered, read⟩ := Premium.printed_amounts_of_breakdown totalled
  have shown : adjustment.roundToCents.value =
      awayAt Money.shownPlaces (nearestAt Money.keptPlaces exact) := by
    rw [Money.round_to_cents_value, value]
  obtain ⟨farther, same⟩ := Money.shown_of_kept exact
  refine ⟨text, _, adjustment.roundToCents.value, _, rendered, read, rfl, shown, ?_, ?_⟩
  · rw [shown]
    constructor
    · intro agree kept
      rw [farther kept] at agree
      split_ifs at agree <;> linarith
    · exact same
  · intro kept
    rw [shown, farther kept]

/-- A base rate of one and a factor of 1.00499 for an age of thirty. -/
def shortOfHalfCent : RateTable :=
  (RateTable.standard.withBaseRate .sedan (.whole 1)).withAgeFactor .from25To65
    (.literal false 100499 5)

theorem short_of_half_cent_is_rounded : shortOfHalfCent.IsRounded where
  baseRate category := by
    rw [Money.is_rounded_iff_scale]
    cases category <;> decide
  accidentSurcharge tier := by
    rw [Money.is_rounded_iff_scale]
    cases tier <;> decide

/-- What a thirty year old pays by it: the adjustment of 0.00499 is kept as 0.005. -/
def halfCentAdjusted : Premium where
  baseRate := .whole 1
  adjustments :=
    [⟨"Age factor", .ofDecimal (.literal false 50 4), "Standard rate for drivers 25-65"⟩]

section HalfCentAdjusted

theorem half_cent_adjusted_rated :
    (Engine.rate ⟨shortOfHalfCent, Rule.standard⟩ false .neutral).outcome =
      .ok halfCentAdjusted := by
  rfl

theorem half_cent_adjusted_totalled :
    halfCentAdjusted.total = .ok (.ofDecimal (.literal false 10050 4)) := by
  rfl

theorem short_base_rate :
    (shortOfHalfCent.baseRate (.classify Profile.neutral.make Profile.neutral.model)).value =
      1 := by
  have category : VehicleCategory.classify Profile.neutral.make Profile.neutral.model = .sedan := by
    rfl
  rw [category]
  exact to_rat_one

theorem short_factor :
    (shortOfHalfCent.ageFactor (.ofAge Profile.neutral.age)).toRat = 100499 / 100000 := by
  have bracket : AgeBracket.ofAge Profile.neutral.age = .from25To65 := by rfl
  rw [bracket, to_rat_eq_quotient]
  change ((100499 : Int) : Rat) / 10 ^ 5 = 100499 / 100000
  norm_num

theorem short_difference_fits : IsRepresentable (100499 / 100000 - 1) :=
  ⟨499, 5, by decide, by decide, by norm_num⟩

theorem short_amount_fits : IsRepresentable (1 * (100499 / 100000 - 1)) :=
  ⟨499, 5, by decide, by decide, by norm_num⟩

theorem short_amount_exactly_shown :
    awayAt Money.shownPlaces (1 * (100499 / 100000 - 1)) = 0 := by
  rw [awayAt, Rounding.half_away_of_nonneg (by norm_num)]
  norm_num [Money.shownPlaces]

theorem short_amount_kept_as_half_cent : Money.IsKeptAsHalfCent (1 * (100499 / 100000 - 1)) := by
  unfold Money.IsKeptAsHalfCent
  norm_num [Int.fract, abs_of_pos]

end HalfCentAdjusted

/-- The exact adjustment of 0.00499 is kept as half a cent and printed as a whole one. -/
theorem printed_age_amount_above_exact :
    IsRepresentable (100499 / 100000 - 1) ∧ IsRepresentable (1 * (100499 / 100000 - 1)) ∧
    ∃ engine premium ageLine otherLines, assemble shortOfHalfCent Rule.standard = .ok engine ∧
      (engine.rate false .neutral).outcome = .ok premium ∧
      premium.adjustments = ageLine :: otherLines ∧ ageLine.label = "Age factor" ∧
      ∃ total, premium.total = .ok total ∧
        ∃ text printed otherAmounts, premium.breakdown = .ok text ∧
          premium.printedAmounts? text = some printed ∧
          printed.adjustments = 0.01 :: otherAmounts := by
  have followed := printed_age_amount_is_kept_amount shortOfHalfCent .neutral
  dsimp only at followed
  rw [short_base_rate, short_factor] at followed
  obtain ⟨engine, premium, ageLine, otherLines, accepted, rated, lines, label, printing⟩ :=
    followed short_difference_fits short_amount_fits
  have same := rated
  cases accepted
  rw [half_cent_adjusted_rated] at same
  cases same
  obtain ⟨text, printed, shown, others, rendered, read, first, -, -, farther⟩ :=
    printing _ half_cent_adjusted_totalled
  have cent : shown = 0.01 := by
    rw [farther short_amount_kept_as_half_cent, short_amount_exactly_shown, if_neg (by norm_num),
      zero_add]
  exact ⟨short_difference_fits, short_amount_fits, _, _, _, _, rfl, rated, lines, label, _,
    half_cent_adjusted_totalled, text, printed, others, rendered, read, cent ▸ first⟩

/-- So the printed amount is not always the exact one rounded to cents. -/
theorem printed_age_amount_can_miss_a_cent :
    ¬ ∀ (rates : RateTable) (profile : Profile) (engine : Engine) (premium : Premium)
      (text : String) (printed : Premium.PrintedAmounts) (shown : Rat) (others : List Rat),
      let baseRate := (rates.baseRate (.classify profile.make profile.model)).value
      let factor := (rates.ageFactor (.ofAge profile.age)).toRat
      rates.IsRounded → IsRepresentable (factor - 1) → IsRepresentable (baseRate * (factor - 1)) →
      assemble rates Rule.standard = .ok engine →
      (engine.rate false profile).outcome = .ok premium → premium.breakdown = .ok text →
      premium.printedAmounts? text = some printed → printed.adjustments = shown :: others →
      shown = awayAt Money.shownPlaces (baseRate * (factor - 1)) := by
  intro always
  let shown := (Money.ofDecimal (.literal false 50 4)).roundToCents.value
  obtain ⟨text, printed, rendered, read, lines⟩ :
      ∃ text printed, halfCentAdjusted.breakdown = .ok text ∧
        halfCentAdjusted.printedAmounts? text = some printed ∧ printed.adjustments = [shown] := by
    obtain ⟨text, rendered, read⟩ :=
      Premium.printed_amounts_of_breakdown half_cent_adjusted_totalled
    exact ⟨text, _, rendered, read, rfl⟩
  have exactly := always shortOfHalfCent .neutral ⟨shortOfHalfCent, Rule.standard⟩ halfCentAdjusted
    text printed shown []
  dsimp only at exactly
  rw [short_base_rate, short_factor] at exactly
  have nothing : shown = 0 := by
    rw [exactly short_of_half_cent_is_rounded short_difference_fits short_amount_fits rfl
      half_cent_adjusted_rated rendered read lines, short_amount_exactly_shown]
  have cent : shown = 1 / 100 := by
    change ((Money.ofDecimal (.literal false 50 4)).roundToCents.amount).toRat = 1 / 100
    rw [to_rat_eq_quotient]
    change ((1 : Int) : Rat) / 10 ^ 2 = 1 / 100
    norm_num
  rw [cent] at nothing
  norm_num at nothing

end MotorTariff.Engine
