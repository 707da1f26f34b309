import Mathlib.Data.List.Perm.Basic
import MotorTariff.Proofs.Engine.Assembly
import MotorTariff.Proofs.Engine.Listening
import MotorTariff.Proofs.Rule.Appending

/-!
# The order of an accepted rule list

Take the standard setter of the base rate and rules that only append. In an accepted order the
readers of the base rate come after the setter, so each rule appends what it would append to a
premium that has the final base rate from the start. That no longer mentions the order: two accepted
orders append the same adjustments, and within the capacity their totals are equal.
-/

set_option autoImplicit false

namespace MotorTariff

namespace Rule

/-- The rules that an accepted list may hold in any order. -/
inductive Reorderable : Rule → Prop where
  | baseRate : Reorderable .baseRate
  | ageFactor : Reorderable .ageFactor
  | accidentHistory : Reorderable .accidentHistory
  | flat {rule : Rule} {additions : Profile → RateTable → Except Overflow (List Adjustment)}
      (independent : rule.dependency = .independent)
      (appends : rule.Appends fun profile rates _ => additions profile rates) : Reorderable rule
  | scaled {rule : Rule} {additions : Additions} (reads : rule.dependency = .readsBaseRate)
      (appends : rule.Appends additions) : Reorderable rule

theorem reorderable_cases {rule : Rule} (reorderable : rule.Reorderable) :
    rule = .baseRate ∨ ∃ additions, rule.Appends additions ∧
      (rule.dependency = .readsBaseRate ∨ rule.dependency = .independent ∧
        ∀ profile rates first second,
          additions profile rates first = additions profile rates second) := by
  cases reorderable with
  | baseRate => exact Or.inl rfl
  | ageFactor => exact Or.inr ⟨_, age_factor_appends, Or.inl rfl⟩
  | accidentHistory =>
      exact Or.inr ⟨_, accident_history_appends, Or.inr ⟨rfl, fun _ _ _ _ => rfl⟩⟩
  | flat independent appends =>
      exact Or.inr ⟨_, appends, Or.inr ⟨independent, fun _ _ _ _ => rfl⟩⟩
  | scaled reads appends => exact Or.inr ⟨_, appends, Or.inl reads⟩

theorem Reorderable.ignores_listener {rule : Rule} (reorderable : rule.Reorderable) :
    rule.IgnoresListener := by
  rcases reorderable_cases reorderable with rfl | ⟨additions, appends, -⟩
  · exact base_rate_ignores_listener
  · exact appends.ignores_listener

variable (rates : RateTable) (profile : Profile)

def tableRate : Money := rates.baseRate (.classify profile.make profile.model)

/-- What a rule's turn appends when the base rate stands at the given one. -/
def appended (baseRate : Money) (rule : Rule) : Except Overflow (List Adjustment) :=
  (rule.effect false rates profile ⟨baseRate, []⟩).map Premium.adjustments

def added (baseRate : Money) (rule : Rule) : List Adjustment :=
  (rule.appended rates profile baseRate).toOption.getD []

variable {rates profile}

theorem setter_effect (premium : Premium) :
    Rule.baseRate.effect false rates profile premium =
      .ok (premium.setBaseRate (tableRate rates profile)) := by
  rfl

theorem appended_of_appends {rule : Rule} {additions : Additions}
    (appends : rule.Appends additions) (baseRate : Money) :
    rule.appended rates profile baseRate =
      if rule.applies profile then additions profile rates baseRate else .ok [] := by
  unfold appended effect
  split
  · rw [appends.acts]
    cases additions profile rates baseRate <;> simp [Except.map, Premium.append]
  · rfl

theorem appending_effect {rule : Rule} {additions : Additions} (appends : rule.Appends additions)
    (premium : Premium) :
    rule.effect false rates profile premium =
      (rule.appended rates profile premium.baseRate).map premium.append := by
  rw [appended_of_appends appends, effect]
  split
  · exact appends.acts false profile rates premium
  · exact (congrArg Except.ok premium.append_nil).symm

theorem appended_is_rounded (tableRounded : rates.IsRounded) {rule : Rule}
    (reorderable : rule.Reorderable) {baseRate : Money} {more : List Adjustment}
    (succeeds : rule.appended rates profile baseRate = .ok more) :
    ∀ adjustment ∈ more, adjustment.amount.IsRounded := by
  intro adjustment member
  rcases reorderable_cases reorderable with rfl | ⟨additions, appends, -⟩
  · cases succeeds
    cases member
  · rw [appended_of_appends appends] at succeeds
    split at succeeds
    · exact appends.rounded profile rates baseRate more tableRounded succeeds adjustment member
    · cases succeeds
      cases member

variable (rates profile) in
def settledRate (start : Money) (rules : List Rule) : Money :=
  if rules.any fun rule => rule.dependency == .setsBaseRate then tableRate rates profile else start

theorem settled_rate_after_setter (start : Money) (rest : List Rule) :
    settledRate rates profile start (.baseRate :: rest) = tableRate rates profile := by
  simp [settledRate, Rule.baseRate]

theorem settled_rate_of_table (rules : List Rule) :
    settledRate rates profile (tableRate rates profile) rules = tableRate rates profile := by
  unfold settledRate
  split <;> rfl

theorem settled_rate_after_other {rule : Rule} (other : rule.dependency ≠ .setsBaseRate)
    (start : Money) (rest : List Rule) :
    settledRate rates profile start (rule :: rest) = settledRate rates profile start rest := by
  simp [settledRate, other]

variable (rates profile) in
theorem settled_rate_perm {rules reordered : List Rule} (same : rules.Perm reordered)
    (start : Money) :
    settledRate rates profile start rules = settledRate rates profile start reordered := by
  simp only [settledRate, List.any_eq_true, same.mem_iff]

theorem appended_at_settled_rate {rule : Rule} {additions : Additions}
    (appends : rule.Appends additions)
    (looks : rule.dependency = .readsBaseRate ∨ rule.dependency = .independent ∧
      ∀ profile rates first second,
        additions profile rates first = additions profile rates second)
    (current : Money) (rest : List Rule)
    (reading : rule.dependency = .readsBaseRate → current = tableRate rates profile) :
    rule.appended rates profile current =
      rule.appended rates profile (settledRate rates profile current rest) := by
  -- A rule that is not the setter appends the same at the base rate of its turn and at the settled
  -- one: either it does not look, or the order of the list has put it after the setter.
  rcases looks with reads | ⟨-, blind⟩
  · rw [reading reads, settled_rate_of_table]
  · rw [appended_of_appends appends, appended_of_appends appends,
      blind profile rates current (settledRate rates profile current rest)]

/-- A run over an accepted order succeeds exactly if every rule can append at the settled base rate,
and then it leaves that base rate and all that was appended. The induction follows the check of
the order: once its flag is set, the premium carries the table's rate. -/
theorem run_in_accepted_order {rules : List Rule}
    (reorderable : ∀ rule ∈ rules, rule.Reorderable) {baseRateSet : Bool}
    (follow : Engine.ReadersFollow baseRateSet rules) (premium : Premium)
    (carries : baseRateSet = true → premium.baseRate = tableRate rates profile) {settled : Money}
    (settles : settledRate rates profile premium.baseRate rules = settled) (final : Premium) :
    rules.foldlM (effect false rates profile) premium = .ok final ↔
      (∀ rule ∈ rules, ∃ more, rule.appended rates profile settled = .ok more) ∧
        final = ⟨settled, premium.adjustments ++ rules.flatMap (added rates profile settled)⟩ := by
  induction rules generalizing baseRateSet premium with
  | nil =>
      cases settles
      simp [settledRate, pure, Except.pure, eq_comm]
  | cons rule rest ih =>
      obtain ⟨readsAfter, followRest⟩ :=
        (Engine.readers_follow_cons baseRateSet rule rest).mp follow
      have restReorderable : ∀ other ∈ rest, other.Reorderable := by
        intro other member
        exact reorderable other (List.mem_cons_of_mem _ member)
      rw [List.foldlM_cons, List.forall_mem_cons, List.flatMap_cons]
      rcases reorderable_cases (reorderable rule List.mem_cons_self) with
        rfl | ⟨additions, appends, looks⟩
      · -- The setter overwrites the rate, and no later rule of the list changes it again.
        rw [settled_rate_after_setter] at settles
        have restSettles :
            settledRate rates profile (tableRate rates profile) rest = settled := by
          rw [settled_rate_of_table, settles]
        have restRun := ih restReorderable followRest
          (premium.setBaseRate (tableRate rates profile)) (fun _ => rfl) restSettles
        have nothing : Rule.baseRate.appended rates profile settled = .ok [] := rfl
        rw [setter_effect]
        change rest.foldlM (effect false rates profile) (premium.setBaseRate (tableRate rates profile)) =
          .ok final ↔ _
        rw [restRun]
        simp [added, nothing, Except.toOption, Premium.setBaseRate]
      · -- The rate stays, and the rule appends what it would append at the settled one.
        have other : rule.dependency ≠ .setsBaseRate := by
          rcases looks with reads | ⟨independent, -⟩ <;> simp [*]
        rw [settled_rate_after_other other] at settles
        have sameAtSettled := appended_at_settled_rate appends looks premium.baseRate rest
          (fun reads => carries (readsAfter reads))
        rw [settles] at sameAtSettled
        rw [appending_effect appends, sameAtSettled]
        cases succeeds : rule.appended rates profile settled with
        | error cause => simp [Except.map, bind, Except.bind]
        | ok more =>
            have stillCarries : (baseRateSet || rule.dependency == .setsBaseRate) = true →
                (premium.append more).baseRate = tableRate rates profile := by
              simpa [other] using carries
            have restRun := ih restReorderable followRest (premium.append more) stillCarries settles
            change rest.foldlM (effect false rates profile) (premium.append more) = .ok final ↔ _
            rw [restRun]
            simp [added, succeeds, Except.toOption]

variable (rates profile) in
def settledPremium (rules : List Rule) : Premium where
  baseRate := settledRate rates profile .zero rules
  adjustments := rules.flatMap (added rates profile (settledRate rates profile .zero rules))

theorem settled_premium_perm {rules reordered : List Rule} (same : rules.Perm reordered) :
    (settledPremium rates profile reordered).baseRate =
        (settledPremium rates profile rules).baseRate ∧
      (settledPremium rates profile reordered).adjustments.Perm
        (settledPremium rates profile rules).adjustments := by
  have sameRate := settled_rate_perm rates profile same .zero
  constructor
  · exact sameRate.symm
  · simp only [settledPremium, sameRate]
    exact (same.flatMap_right _).symm

theorem settled_premium_is_rounded (tableRounded : rates.IsRounded) {rules : List Rule}
    (reorderable : ∀ rule ∈ rules, rule.Reorderable)
    (succeed : ∀ rule ∈ rules, ∃ more,
      rule.appended rates profile (settledPremium rates profile rules).baseRate = .ok more) :
    (settledPremium rates profile rules).IsRounded := by
  constructor
  · unfold settledPremium settledRate
    dsimp only
    split
    · exact tableRounded.baseRate _
    · exact Money.zero_is_rounded
  · intro money member
    obtain ⟨adjustment, inList, rfl⟩ := List.mem_map.mp member
    obtain ⟨rule, inRules, wasAdded⟩ := List.mem_flatMap.mp inList
    obtain ⟨more, succeeds⟩ := succeed rule inRules
    change rule.appended rates profile (settledRate rates profile .zero rules) = _ at succeeds
    rw [added, succeeds] at wasAdded
    exact appended_is_rounded tableRounded (reorderable rule inRules) succeeds adjustment wasAdded

end Rule

namespace Engine

theorem quiet_outcome_of_accepted {rates : RateTable} {rules : List Rule} {engine : Engine}
    (accepted : assemble rates rules = .ok engine)
    (reorderable : ∀ rule ∈ rules, rule.Reorderable) (profile : Profile) (premium : Premium) :
    (engine.rate false profile).outcome = .ok premium ↔
      (∀ rule ∈ rules, ∃ more, rule.appended rates profile
        (Rule.settledPremium rates profile rules).baseRate = .ok more) ∧
        premium = Rule.settledPremium rates profile rules := by
  obtain ⟨-, follow, rfl⟩ := (assemble_ok_iff rates rules engine).mp accepted
  rw [quiet_outcome, run_outcome, Rule.effects]
  exact Rule.run_in_accepted_order reorderable follow .empty (by simp) rfl premium

theorem accepted_rules_ignore_listener {rates : RateTable} {rules : List Rule} {engine : Engine}
    (accepted : assemble rates rules = .ok engine)
    (reorderable : ∀ rule ∈ rules, rule.Reorderable) :
    ∀ rule ∈ engine.rules, rule.IgnoresListener := by
  obtain ⟨-, -, rfl⟩ := (assemble_ok_iff rates rules engine).mp accepted
  intro rule member
  exact (reorderable rule member).ignores_listener

/-- Two accepted orders of the same reorderable rules rate alike: where one returns a premium within
the capacity the other returns one with the same base rate, the same adjustments in some order, and
an equal total. -/
theorem accepted_orders_rate_alike {rates : RateTable} (tableRounded : rates.IsRounded)
    {rules reordered : List Rule} (same : rules.Perm reordered)
    (reorderable : ∀ rule ∈ rules, rule.Reorderable) {first second : Engine}
    (acceptedFirst : assemble rates rules = .ok first)
    (acceptedSecond : assemble rates reordered = .ok second) {profile : Profile}
    {listening : Bool} {premium : Premium}
    (rated : (first.rate listening profile).outcome = .ok premium)
    (fits : premium.magnitude < Money.capacity) (listeningAgain : Bool) :
    ∃ other, (second.rate listeningAgain profile).outcome = .ok other ∧
      other.baseRate = premium.baseRate ∧ other.adjustments.Perm premium.adjustments ∧
      ∃ total otherTotal, premium.total = .ok total ∧ other.total = .ok otherTotal ∧
        otherTotal.sameAmount total = true := by
  have ignore := accepted_rules_ignore_listener acceptedFirst reorderable
  obtain ⟨succeed, settled⟩ := (quiet_outcome_of_accepted acceptedFirst reorderable profile
    premium).mp (quiet_outcome_of_rated ignore rated)
  have reorderableAgain : ∀ rule ∈ reordered, rule.Reorderable := by
    intro rule member
    exact reorderable rule (same.mem_iff.mpr member)
  let other := Rule.settledPremium rates profile reordered
  obtain ⟨sameBase, sameAdjustments⟩ : other.baseRate = premium.baseRate ∧
      other.adjustments.Perm premium.adjustments := by
    rw [settled]
    exact Rule.settled_premium_perm same
  have returned : (second.rate false profile).outcome = .ok other := by
    refine (quiet_outcome_of_accepted acceptedSecond reorderableAgain profile other).mpr ⟨?_, rfl⟩
    intro rule member
    change ∃ more, rule.appended rates profile other.baseRate = .ok more
    rw [sameBase, settled]
    exact succeed rule (same.mem_iff.mpr member)
  have rounded : premium.IsRounded := by
    rw [settled]
    exact Rule.settled_premium_is_rounded tableRounded reorderable succeed
  have otherRounded := Premium.reordered_is_rounded sameBase sameAdjustments rounded
  have otherFits : other.magnitude < Money.capacity := by
    rw [Premium.magnitude_of_reordered sameBase sameAdjustments]
    exact fits
  have ignoreAgain := accepted_rules_ignore_listener acceptedSecond reorderableAgain
  exact ⟨other,
    listening_is_invisible_within_capacity ignoreAgain returned otherRounded otherFits
      listeningAgain,
    sameBase, sameAdjustments,
    Premium.total_of_reordered sameBase sameAdjustments rounded fits⟩

end Engine

namespace Rule

def roadside : Rule where
  name := "roadside"
  dependency := .independent
  applies profile := profile.coverage.includesRoadside
  act _ _ _ premium :=
    return premium.addAdjustment "Roadside" (.whole 45) "Roadside assistance add-on"

/-- A discount of an eighth of the base rate for years of continuous insurance. -/
def loyalty : Rule where
  name := "loyalty"
  dependency := .readsBaseRate
  applies profile := decide (5 ≤ profile.history.yearsWithContinuousInsurance)
  act _ _ _ premium := do
    let discount ← Traced.silent
      (premium.baseRate.multiply (.literal true 125 3))
    return premium.addAdjustment "Loyalty" discount "Five years of continuous insurance"

theorem roadside_is_reorderable : roadside.Reorderable := by
  have appends : roadside.Appends fun _ _ _ =>
      .ok [⟨"Roadside", .whole 45, "Roadside assistance add-on"⟩] := by
    constructor
    · intro listening profile rates premium
      rfl
    · intro profile rates baseRate more _ computed adjustment member
      cases computed
      rw [List.mem_singleton.mp member]
      exact ⟨_, rfl⟩
  exact .flat rfl appends

theorem loyalty_is_reorderable : loyalty.Reorderable := by
  have appends : loyalty.Appends fun _ _ baseRate =>
      (baseRate.multiply (.literal true 125 3)).map fun discount =>
        [⟨"Loyalty", discount, "Five years of continuous insurance"⟩] := by
    constructor
    · intro listening profile rates premium
      unfold loyalty
      rw [Traced.outcome_bind, Traced.silent]
      generalize premium.baseRate.multiply (.literal true 125 3) = discount
      cases discount <;> rfl
    · intro profile rates baseRate more _ computed adjustment member
      obtain ⟨discount, multiplied, rfl⟩ := map_ok_iff.mp computed
      rw [List.mem_singleton.mp member]
      exact Money.multiply_is_rounded multiplied
  exact .scaled rfl appends

end Rule

namespace Engine

def fiveRules : List Rule := [.roadside, .accidentHistory, .baseRate, .ageFactor, .loyalty]

/-- The setter goes to the front and the two readers change places. -/
def fiveRulesReordered : List Rule := [.baseRate, .loyalty, .ageFactor, .roadside, .accidentHistory]

def youngDriver : Profile :=
  .ofEntries [.age 18, .accidents 2, .vehicle "Ferrari" "Roma", .addOns true false]

theorem five_rules_rate_alike_in_two_orders :
    ∃ first second premium other,
      assemble .standard fiveRules = .ok first ∧
      assemble .standard fiveRulesReordered = .ok second ∧
      (first.rate true youngDriver).outcome = .ok premium ∧
      (second.rate false youngDriver).outcome = .ok other ∧
      premium.magnitude < Money.capacity ∧
      other.baseRate = premium.baseRate ∧ other.adjustments.Perm premium.adjustments ∧
      ∃ total otherTotal, premium.total = .ok total ∧ other.total = .ok otherTotal ∧
        otherTotal.sameAmount total = true := by
  have reorderable : ∀ rule ∈ fiveRules, rule.Reorderable := by
    intro rule member
    simp only [fiveRules, List.mem_cons, List.not_mem_nil, or_false] at member
    rcases member with rfl | rfl | rfl | rfl | rfl
    · exact Rule.roadside_is_reorderable
    · exact .accidentHistory
    · exact .baseRate
    · exact .ageFactor
    · exact Rule.loyalty_is_reorderable
  have same : fiveRules.Perm fiveRulesReordered := by
    let charges := [Rule.roadside, Rule.accidentHistory]
    let rated := [Rule.baseRate, Rule.ageFactor, Rule.loyalty]
    have front : (charges ++ rated).Perm (rated ++ charges) := List.perm_append_comm
    exact front.trans ((List.Perm.swap ..).cons _)
  have acceptedFirst : assemble .standard fiveRules = .ok ⟨.standard, fiveRules⟩ := rfl
  have acceptedSecond : assemble .standard fiveRulesReordered =
    .ok ⟨.standard, fiveRulesReordered⟩ := rfl
  obtain ⟨premium, rated, fits⟩ : ∃ premium,
      (Engine.rate ⟨.standard, fiveRules⟩ true youngDriver).outcome = .ok premium ∧
        premium.magnitude < Money.capacity := ⟨_, rfl, by decide +kernel⟩
  obtain ⟨other, returned, rest⟩ := accepted_orders_rate_alike RateTable.standard_is_rounded same
    reorderable acceptedFirst acceptedSecond rated fits false
  exact ⟨_, _, premium, other, acceptedFirst, acceptedSecond, rated, returned, fits, rest⟩

end Engine

end MotorTariff
