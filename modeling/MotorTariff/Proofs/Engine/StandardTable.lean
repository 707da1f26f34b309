import MotorTariff.Proofs.Engine.RatingFormula

/-!
# The standard table has room for every profile

No amount of the standard table is larger than a few thousand, and neither is any age adjustment
that it leads to. So a standard rating never overflows, whatever the profile holds and whether or
not somebody listens, and its total can always be shown.
-/

set_option autoImplicit false

namespace MotorTariff

namespace RateTable

theorem standard_base_rate_le (category : VehicleCategory) :
    |(standard.baseRate category).value| ≤ 1800 := by
  cases category <;> decide

theorem standard_surcharge_le (tier : AccidentTier) : |Rule.surcharge standard tier| ≤ 600 := by
  cases tier <;> decide

theorem standard_age_adjustment (category : VehicleCategory) (bracket : AgeBracket) :
    ∃ adjustment,
      Rule.ageAdjustment (standard.baseRate category) (standard.ageFactor bracket) =
        .ok adjustment ∧ |adjustment.value| ≤ 1800 := by
  cases category <;> cases bracket <;> exact ⟨_, rfl, by decide⟩

end RateTable

namespace Engine

theorem standard_rates_every_profile (profile : Profile) :
    ∃ premium total, (∀ listening, (standard.rate listening profile).outcome = .ok premium) ∧
      premium.total = .ok total := by
  obtain ⟨adjustment, computed, small⟩ := RateTable.standard_age_adjustment
    (.classify profile.make profile.model) (.ofAge profile.age)
  let premium := Premium.standard .standard profile adjustment
  have quiet : (standard.rate false profile).outcome = .ok premium := by
    change (Engine.rate ⟨.standard, Rule.standard⟩ false profile).outcome = _
    rw [standard_outcome, computed]
    rfl
  have rounded : premium.IsRounded :=
    Premium.standard_is_rounded RateTable.standard_is_rounded
      (Rule.age_adjustment_is_rounded computed)
  have fits : premium.magnitude < Money.capacity := by
    have baseRate :=
      RateTable.standard_base_rate_le (.classify profile.make profile.model)
    have surcharge := RateTable.standard_surcharge_le (.ofCount profile.accidents)
    have capacity : (4200 : Rat) < Money.capacity := by
      norm_num [Money.capacity, Money.keptPlaces]
    rw [Premium.standard_magnitude]
    linarith
  obtain ⟨total, totalled, -⟩ := Premium.total_is_exact rounded fits
  exact ⟨premium, total,
    listening_is_invisible_within_capacity Rule.standard_ignores_listener quiet rounded fits,
    totalled⟩

end Engine

end MotorTariff
