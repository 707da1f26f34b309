import MotorTariff.Proofs.Engine.Run
import MotorTariff.Proofs.Premium.Accumulator

/-!
# Rules that only append

Apart from its setter, a tariff is made of rules that append adjustments and leave the rest of the
premium alone. What such a rule appends may depend on the profile, the table and the base rate of
the moment, but not on what other rules have appended. Two of the standard rules are of this kind,
one with a look at the base rate and one without.
-/

set_option autoImplicit false

namespace MotorTariff

/-- The money entries of the table have at most the kept places; factors may have more. -/
structure RateTable.IsRounded (rates : RateTable) : Prop where
  baseRate : ∀ category, (rates.baseRate category).IsRounded
  accidentSurcharge : ∀ tier, (rates.accidentSurcharge tier).IsRounded

theorem RateTable.standard_is_rounded : RateTable.standard.IsRounded := by
  constructor
  · intro category
    rw [Money.is_rounded_iff_scale]
    cases category <;> decide
  · intro tier
    rw [Money.is_rounded_iff_scale]
    cases tier <;> decide

def Premium.append (premium : Premium) (more : List Adjustment) : Premium :=
  { premium with adjustments := premium.adjustments ++ more }

@[simp] theorem Premium.append_base_rate (premium : Premium) (more : List Adjustment) :
    (premium.append more).baseRate = premium.baseRate := rfl

@[simp] theorem Premium.append_adjustments (premium : Premium) (more : List Adjustment) :
    (premium.append more).adjustments = premium.adjustments ++ more := rfl

theorem Premium.append_nil (premium : Premium) : premium.append [] = premium := by
  simp [append]

namespace Rule

/-- What is appended for a profile, a table and a base rate, unless an amount overflows. -/
abbrev Additions := Profile → RateTable → Money → Except Overflow (List Adjustment)

/-- The rule's action appends just these adjustments, of amounts that went through rounding. -/
structure Appends (rule : Rule) (additions : Additions) : Prop where
  acts : ∀ listening profile rates premium,
    (rule.act listening profile rates premium).outcome =
      (additions profile rates premium.baseRate).map premium.append
  rounded : ∀ profile rates baseRate more, rates.IsRounded →
    additions profile rates baseRate = .ok more →
    ∀ adjustment ∈ more, adjustment.amount.IsRounded

def ageAdditions : Additions := fun profile rates baseRate =>
  let bracket := AgeBracket.ofAge profile.age
  (ageAdjustment baseRate (rates.ageFactor bracket)).map fun amount =>
    [⟨ageFactorLabel, amount, bracket.rationale⟩]

def accidentAdditions (profile : Profile) (rates : RateTable) :
    Except Overflow (List Adjustment) :=
  let tier := AccidentTier.ofCount profile.accidents
  .ok (tier.rationale?.toList.map fun rationale =>
    ⟨accidentHistoryLabel, rates.accidentSurcharge tier, rationale⟩)

theorem age_adjustment_is_rounded {baseRate amount : Money} {factor : Decimal}
    (computed : ageAdjustment baseRate factor = .ok amount) : amount.IsRounded := by
  obtain ⟨less, -, multiplied⟩ := bind_ok_iff.mp computed
  exact Money.multiply_is_rounded multiplied

theorem age_factor_appends : ageFactor.Appends ageAdditions := by
  constructor
  · intro listening profile rates premium
    unfold ageFactor ageAdditions
    dsimp only
    rw [Traced.outcome_bind, Traced.silent]
    generalize ageAdjustment premium.baseRate (rates.ageFactor (.ofAge profile.age)) = adjustment
    cases adjustment <;> rfl
  · intro profile rates baseRate more _ computed adjustment member
    obtain ⟨amount, multiplied, rfl⟩ := map_ok_iff.mp computed
    rw [List.mem_singleton.mp member]
    exact age_adjustment_is_rounded multiplied

theorem accident_history_appends :
    accidentHistory.Appends fun profile rates _ => accidentAdditions profile rates := by
  constructor
  · intro listening profile rates premium
    unfold accidentHistory accidentAdditions
    dsimp only
    generalize AccidentTier.ofCount profile.accidents = tier
    cases tier with
    | clean => exact (congrArg Except.ok premium.append_nil).symm
    | one => rfl
    | twoOrMore => rfl
  · intro profile rates baseRate more tableRounded computed adjustment member
    unfold accidentAdditions at computed
    cases computed
    obtain ⟨rationale, -, rfl⟩ := List.mem_map.mp member
    exact tableRounded.accidentSurcharge _

end Rule

end MotorTariff
