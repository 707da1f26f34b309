import MotorTariff.Proofs.Decimal.Operations
import MotorTariff.Proofs.Engine.Assembly
import MotorTariff.Proofs.Rule.Appending

/-!
# What the standard rules charge

The three standard rules look up a base rate, a factor and a surcharge, and only the age adjustment
computes anything. So a rating fails exactly where one of its two decimal operations overflows, and
otherwise returns the entries of the table. Nothing of the profile matters but the category, the
bracket and the tier it falls into.
-/

set_option autoImplicit false

namespace MotorTariff

namespace Rule

theorem age_adjustment_cases (baseRate : Money) (factor : Decimal) :
    (factor.sub? .one = none ∧ ageAdjustment baseRate factor = .error .decimalSubtraction) ∨
      ∃ less, factor.sub? .one = some less ∧
        ((baseRate.amount.mul? less = none ∧
            ageAdjustment baseRate factor = .error .decimalMultiplication) ∨
          ∃ product, baseRate.amount.mul? less = some product ∧
            ageAdjustment baseRate factor = .ok (.ofDecimal product)) := by
  unfold ageAdjustment Money.multiply
  cases difference : factor.sub? .one with
  | none => exact Or.inl ⟨rfl, rfl⟩
  | some less =>
      refine Or.inr ⟨less, rfl, ?_⟩
      cases multiplied : baseRate.amount.mul? less with
      | none =>
          refine Or.inl ⟨rfl, ?_⟩
          simp only [Overflow.require, bind, Except.bind, multiplied, Except.map]
      | some product =>
          refine Or.inr ⟨product, rfl, ?_⟩
          simp only [Overflow.require, bind, Except.bind, multiplied, Except.map]

theorem age_adjustment_fails_iff (baseRate : Money) (factor : Decimal) :
    (∃ cause, ageAdjustment baseRate factor = .error cause) ↔
      Decimal.Overflows (factor.toRat - 1) ∨
        ∃ less, factor.sub? .one = some less ∧
          Decimal.Overflows (baseRate.value * less.toRat) := by
  have difference := Decimal.sub_rounds_once factor .one
  rw [Decimal.to_rat_one] at difference
  rcases age_adjustment_cases baseRate factor with
    ⟨none, failed⟩ | ⟨less, some, ⟨none, failed⟩ | ⟨product, multiplied, computed⟩⟩
  · exact iff_of_true ⟨_, failed⟩ (Or.inl (difference.overflow.mp none))
  · have overflows := (Decimal.mul_rounds_once baseRate.amount less).overflow.mp none
    exact iff_of_true ⟨_, failed⟩ (Or.inr ⟨less, some, overflows⟩)
  · refine iff_of_false ?_ ?_
    · rintro ⟨cause, failed⟩
      rw [computed] at failed
      cases failed
    · rintro (overflows | ⟨other, found, overflows⟩)
      · rw [difference.overflow.mpr overflows] at some
        cases some
      · rw [some] at found
        cases found
        have none := (Decimal.mul_rounds_once baseRate.amount less).overflow.mpr overflows
        rw [multiplied] at none
        cases none

def accidentLines (rates : RateTable) (tier : AccidentTier) : List Adjustment :=
  tier.rationale?.toList.map fun rationale =>
    ⟨accidentHistoryLabel, rates.accidentSurcharge tier, rationale⟩

theorem clean_iff_not_positive (count : Int32) :
    AccidentTier.ofCount count = .clean ↔ ¬ 0 < count := by
  rw [AccidentTier.of_count_eq_iff, Int32.not_lt, Int32.le_iff_toInt_le]
  rfl

theorem accident_lines_of_clean (rates : RateTable) : accidentLines rates .clean = [] := by
  rfl

theorem accident_lines_of_charged (rates : RateTable) {tier : AccidentTier}
    (charged : tier ≠ .clean) :
    ∃ rationale, tier.rationale? = some rationale ∧ accidentLines rates tier =
      [⟨accidentHistoryLabel, rates.accidentSurcharge tier, rationale⟩] := by
  cases tier with
  | clean => exact absurd rfl charged
  | one => exact ⟨_, rfl, rfl⟩
  | twoOrMore => exact ⟨_, rfl, rfl⟩

theorem accident_history_effect (listening : Bool) (rates : RateTable) (profile : Profile)
    (premium : Premium) :
    accidentHistory.effect listening rates profile premium =
      .ok (premium.append (accidentLines rates (.ofCount profile.accidents))) := by
  unfold effect
  split_ifs with applies
  · exact accident_history_appends.acts listening profile rates premium
  · have clean : AccidentTier.ofCount profile.accidents = .clean := by
      rw [clean_iff_not_positive]
      simpa [accidentHistory] using applies
    rw [clean, accident_lines_of_clean, premium.append_nil]

end Rule

namespace Engine

theorem standard_outcome (rates : RateTable) (profile : Profile) :
    (Engine.rate ⟨rates, Rule.standard⟩ false profile).outcome =
      (Rule.ageAdjustment (rates.baseRate (.classify profile.make profile.model))
        (rates.ageFactor (.ofAge profile.age))).map fun adjustment =>
          ⟨rates.baseRate (.classify profile.make profile.model),
            ⟨Rule.ageFactorLabel, adjustment, (AgeBracket.ofAge profile.age).rationale⟩ ::
              Rule.accidentLines rates (.ofCount profile.accidents)⟩ := by
  set baseRate := rates.baseRate (.classify profile.make profile.model) with baseRateDef
  have setter : Rule.baseRate.effect false rates profile .empty =
      .ok (Premium.empty.setBaseRate baseRate) := rfl
  have reader : Rule.ageFactor.effect false rates profile (Premium.empty.setBaseRate baseRate) =
      (Rule.ageAdditions profile rates baseRate).map (Premium.empty.setBaseRate baseRate).append :=
    Rule.age_factor_appends.acts false profile rates _
  rw [quiet_outcome, run_outcome, Rule.effects, Rule.standard, List.foldlM_cons, setter]
  change ([Rule.ageFactor, Rule.accidentHistory].foldlM (Rule.effect false rates profile)
    (Premium.empty.setBaseRate baseRate)) = _
  rw [List.foldlM_cons, reader, Rule.ageAdditions]
  cases Rule.ageAdjustment baseRate (rates.ageFactor (.ofAge profile.age)) with
  | error cause => rfl
  | ok adjustment =>
      change ([Rule.accidentHistory].foldlM (Rule.effect false rates profile) _) = _
      rw [List.foldlM_cons, Rule.accident_history_effect]
      rfl

/-- With the standard rules a rating fails exactly if the factor less one overflows, or the base
rate times that. Otherwise it returns the table's base rate, the line for the age and, exactly for
a positive count, the line for the accidents. Profiles of one category, one bracket and one tier are
rated alike. -/
theorem standard_rules_charge_the_table (rates : RateTable) :
    ∃ engine, assemble rates Rule.standard = .ok engine ∧
      (∀ profile : Profile,
        let baseRate := rates.baseRate (.classify profile.make profile.model)
        let bracket := AgeBracket.ofAge profile.age
        let factor := rates.ageFactor bracket
        let tier := AccidentTier.ofCount profile.accidents
        let rated := (engine.rate false profile).outcome
        ((∃ cause, rated = .error cause) ↔
          Decimal.Overflows (factor.toRat - 1) ∨
            ∃ less, factor.sub? .one = some less ∧
              Decimal.Overflows (baseRate.value * less.toRat)) ∧
        ((∀ cause, rated ≠ .error cause) →
          ∃ less product, factor.sub? .one = some less ∧
            baseRate.amount.mul? less = some product ∧
            let ageLine : Adjustment := ⟨"Age factor", .ofDecimal product, bracket.rationale⟩
            ((¬ 0 < profile.accidents ∧ rated = .ok ⟨baseRate, [ageLine]⟩) ∨
              ∃ rationale, 0 < profile.accidents ∧ tier.rationale? = some rationale ∧
                rated = .ok ⟨baseRate, [ageLine,
                  ⟨"Accident history", rates.accidentSurcharge tier, rationale⟩]⟩))) ∧
      ∀ profile other : Profile,
        VehicleCategory.classify other.make other.model =
          VehicleCategory.classify profile.make profile.model →
        AgeBracket.ofAge other.age = AgeBracket.ofAge profile.age →
        AccidentTier.ofCount other.accidents = AccidentTier.ofCount profile.accidents →
        (engine.rate false other).outcome = (engine.rate false profile).outcome := by
  refine ⟨⟨rates, Rule.standard⟩, rfl, ?_, ?_⟩
  · intro profile
    dsimp only
    rw [standard_outcome]
    set baseRate := rates.baseRate (.classify profile.make profile.model)
    set factor := rates.ageFactor (.ofAge profile.age)
    constructor
    · rw [← Rule.age_adjustment_fails_iff]
      cases Rule.ageAdjustment baseRate factor <;> simp [Except.map]
    · intro succeeds
      rcases Rule.age_adjustment_cases baseRate factor with
        ⟨-, failed⟩ | ⟨less, some, ⟨-, failed⟩ | ⟨product, multiplied, computed⟩⟩
      · exact absurd (by rw [failed]; rfl) (succeeds .decimalSubtraction)
      · exact absurd (by rw [failed]; rfl) (succeeds .decimalMultiplication)
      refine ⟨less, product, some, multiplied, ?_⟩
      rw [computed]
      by_cases positive : 0 < profile.accidents
      · have charged : AccidentTier.ofCount profile.accidents ≠ .clean :=
          fun clean => (Rule.clean_iff_not_positive _).mp clean positive
        obtain ⟨rationale, given, lines⟩ := Rule.accident_lines_of_charged rates charged
        exact Or.inr ⟨rationale, positive, given, by rw [lines]; rfl⟩
      · have clean := (Rule.clean_iff_not_positive _).mpr positive
        exact Or.inl ⟨positive, by rw [clean]; rfl⟩
  · intro profile other category bracket tier
    rw [standard_outcome, standard_outcome, category, bracket, tier]

end Engine

end MotorTariff
