import MotorTariff.Profile.Entry
import MotorTariff.Proofs.Rule.Appending

/-!
# Rating with and without a listener

The closing report of a rating shows the total, which nothing else in the run needs. So as long as
the rules do the same for every listener, a listened run is the quiet run followed by a total that
is thrown away, and the two part in one case only: the quiet run returns a premium whose total
overflows. Within the capacity that case does not arise.
-/

set_option autoImplicit false

namespace MotorTariff

namespace Rule

/-- What the rule's action comes to, reports apart, is the same with and without a listener. -/
def IgnoresListener (rule : Rule) : Prop :=
  ∀ profile rates premium,
    (rule.act true profile rates premium).outcome = (rule.act false profile rates premium).outcome

theorem Appends.ignores_listener {rule : Rule} {additions : Additions}
    (appends : rule.Appends additions) : rule.IgnoresListener := by
  intro profile rates premium
  rw [appends.acts, appends.acts]

theorem base_rate_ignores_listener : baseRate.IgnoresListener := fun _ _ _ => rfl

theorem standard_ignores_listener : ∀ rule ∈ standard, rule.IgnoresListener := by
  intro rule member
  simp only [standard, List.mem_cons, List.not_mem_nil, or_false] at member
  rcases member with rfl | rfl | rfl
  · exact base_rate_ignores_listener
  · exact age_factor_appends.ignores_listener
  · exact accident_history_appends.ignores_listener

theorem effect_of_ignoring {rule : Rule} (ignores : rule.IgnoresListener) (rates : RateTable)
    (profile : Profile) (premium : Premium) :
    rule.effect true rates profile premium = rule.effect false rates profile premium := by
  unfold effect
  rw [ignores]

theorem effects_of_ignoring {rules : List Rule} (ignore : ∀ rule ∈ rules, rule.IgnoresListener)
    (rates : RateTable) (profile : Profile) :
    effects true rates profile rules = effects false rates profile rules := by
  unfold effects
  generalize Premium.empty = start
  induction rules generalizing start with
  | nil => rfl
  | cons rule rest ih =>
      obtain ⟨ignores, restIgnore⟩ := List.forall_mem_cons.mp ignore
      rw [List.foldlM_cons, List.foldlM_cons, effect_of_ignoring ignores]
      congr 1
      funext next
      exact ih restIgnore next

end Rule

namespace Engine

section IgnoringRules

variable {engine : Engine} (ignore : ∀ rule ∈ engine.rules, rule.IgnoresListener)
  {profile : Profile} {premium : Premium}
include ignore

variable (profile) in
theorem listened_outcome :
    (engine.rate true profile).outcome = do
      let premium ← (engine.rate false profile).outcome
      let _ ← premium.total
      return premium := by
  rw [quiet_outcome, rate_outcome, run_outcome, run_outcome, Rule.effects_of_ignoring ignore]
  rfl

theorem listened_outcome_of_total {total : Money}
    (returned : (engine.rate false profile).outcome = .ok premium)
    (computed : premium.total = .ok total) :
    (engine.rate true profile).outcome = .ok premium := by
  rw [listened_outcome ignore, returned]
  change (premium.total >>= fun _ => _) = _
  rw [computed]
  rfl

theorem listened_outcome_of_overflow {cause : Overflow}
    (returned : (engine.rate false profile).outcome = .ok premium)
    (overflows : premium.total = .error cause) :
    (engine.rate true profile).outcome = .error cause := by
  rw [listened_outcome ignore, returned]
  change (premium.total >>= fun _ => _) = _
  rw [overflows]
  rfl

theorem quiet_outcome_of_rated {listening : Bool}
    (rated : (engine.rate listening profile).outcome = .ok premium) :
    (engine.rate false profile).outcome = .ok premium := by
  cases listening with
  | false => exact rated
  | true =>
      rw [listened_outcome ignore] at rated
      obtain ⟨returned, quiet, computed⟩ := bind_ok_iff.mp rated
      obtain ⟨total, -, same⟩ := bind_ok_iff.mp computed
      cases same
      exact quiet

/-- For a premium of rounded amounts within the capacity nobody can tell who listens. -/
theorem listening_is_invisible_within_capacity
    (returned : (engine.rate false profile).outcome = .ok premium)
    (rounded : premium.IsRounded) (fits : premium.magnitude < Money.capacity) (listening : Bool) :
    (engine.rate listening profile).outcome = .ok premium := by
  cases listening with
  | false => exact returned
  | true =>
      obtain ⟨total, computed, -⟩ := Premium.total_is_exact rounded fits
      exact listened_outcome_of_total ignore returned computed

end IgnoringRules

/-- Where no rule's outcome depends on the listener, listening leaves the outcome alone exactly if
the premium of the quiet run, if there is one, has a total. Otherwise the overflow of the total
takes the place of the premium. -/
theorem listening_leaves_outcome_iff_total_fits (engine : Engine)
    (ignore : ∀ rule ∈ engine.rules, rule.IgnoresListener) (profile : Profile) :
    ((engine.rate true profile).outcome = (engine.rate false profile).outcome ↔
      ∀ premium, (engine.rate false profile).outcome = .ok premium →
        ∃ total, premium.total = .ok total) ∧
      ∀ premium cause, (engine.rate false profile).outcome = .ok premium →
        premium.total = .error cause → (engine.rate true profile).outcome = .error cause := by
  refine ⟨⟨?_, ?_⟩, ?_⟩
  · intro same premium returned
    cases outcome : premium.total with
    | ok total => exact ⟨total, rfl⟩
    | error cause =>
        rw [listened_outcome_of_overflow ignore returned outcome, returned] at same
        cases same
  · intro fits
    cases returned : (engine.rate false profile).outcome with
    | ok premium =>
        obtain ⟨total, computed⟩ := fits premium returned
        exact listened_outcome_of_total ignore returned computed
    | error cause =>
        rw [listened_outcome ignore, returned]
        rfl
  · intro premium cause returned overflows
    exact listened_outcome_of_overflow ignore returned overflows

/-- The standard table, with the largest base rate that a decimal holds for sedans. -/
def fullTable : RateTable := RateTable.standard.withBaseRate .sedan (.whole (BitVec.allOnes 96))

def fullEngine : Engine := ⟨fullTable, Rule.standard⟩

def oneAccident : Profile := .ofEntries [.accidents 1]

/-- The condition of the equivalence fails for it: its quiet premium has no total. -/
theorem full_engine_loses_its_premium :
    (∀ rule ∈ fullEngine.rules, rule.IgnoresListener) ∧
      ∃ premium, (fullEngine.rate false oneAccident).outcome = .ok premium ∧
        premium.total = .error .moneyAddition ∧
        (fullEngine.rate true oneAccident).outcome = .error .moneyAddition := by
  obtain ⟨premium, quiet, overflows⟩ :
      ∃ premium, (fullEngine.rate false oneAccident).outcome = .ok premium ∧
        premium.total = .error .moneyAddition := ⟨_, rfl, by decide +kernel⟩
  have lost := (listening_leaves_outcome_iff_total_fits fullEngine
    Rule.standard_ignores_listener oneAccident).2 premium .moneyAddition quiet overflows
  exact ⟨Rule.standard_ignores_listener, premium, quiet, overflows, lost⟩

/-- The surcharge for one accident takes the total past the largest base rate. The premium itself is
no trouble, so only the listened run fails. -/
theorem listening_can_lose_a_premium :
    ¬ ∀ (rates : RateTable) (rules : List Rule) (engine : Engine) (profile : Profile),
      assemble rates rules = .ok engine →
        (engine.rate true profile).outcome = (engine.rate false profile).outcome := by
  intro unchanged
  have same := unchanged fullTable Rule.standard fullEngine oneAccident rfl
  have listened : (fullEngine.rate true oneAccident).outcome = .error .moneyAddition := by
    decide +kernel
  obtain ⟨premium, quiet⟩ :
      ∃ premium, (fullEngine.rate false oneAccident).outcome = .ok premium := ⟨_, rfl⟩
  rw [listened, quiet] at same
  cases same

end Engine

end MotorTariff
