import Mathlib.Data.List.Infix
import MotorTariff.Engine

/-!
# The rule loop, turn by turn

What a run returns does not depend on what it reports, so the loop is a fold of the rules' effects.
`Progress` retells the fold as a history: the rules whose turn is over, those among them that were
applied, and the premium that they left. It is shown to be the loop itself, at every point of it.
-/

set_option autoImplicit false

namespace MotorTariff

/-- What a rule's turn makes of a premium, apart from what it reports. -/
def Rule.effect (listening : Bool) (rates : RateTable) (profile : Profile) (premium : Premium)
    (rule : Rule) : Except Overflow Premium :=
  if rule.applies profile then (rule.act listening profile rates premium).outcome else .ok premium

namespace Rule

def effects (listening : Bool) (rates : RateTable) (profile : Profile) (rules : List Rule) :
    Except Overflow Premium :=
  rules.foldlM (effect listening rates profile) .empty

theorem effects_snoc_iff {listening : Bool} {rates : RateTable} {profile : Profile}
    {taken : List Rule} {rule : Rule} {next : Premium} :
    effects listening rates profile (taken ++ [rule]) = .ok next ↔
      ∃ premium, effects listening rates profile taken = .ok premium ∧
        rule.effect listening rates profile premium = .ok next := by
  unfold effects
  rw [List.foldlM_append]
  simp only [List.foldlM_cons, List.foldlM_nil, bind_pure]
  exact bind_ok_iff

end Rule

namespace Engine

theorem turn_outcome (listening : Bool) (rates : RateTable) (profile : Profile) (premium : Premium)
    (rule : Rule) :
    (turn listening rates profile premium rule).outcome =
      rule.effect listening rates profile premium := by
  unfold turn Rule.effect
  split
  · rw [Traced.outcome_bind]
    cases (rule.act listening profile rates premium).outcome <;> rfl
  · rfl

theorem run_outcome (engine : Engine) (listening : Bool) (profile : Profile) :
    (engine.runRules listening profile).outcome =
      Rule.effects listening engine.rates profile engine.rules := by
  rw [runRules, Traced.outcome_fold, Rule.effects]
  congr 1
  funext premium rule
  exact turn_outcome listening engine.rates profile premium rule

theorem rate_outcome (engine : Engine) (listening : Bool) (profile : Profile) :
    (engine.rate listening profile).outcome = do
      let premium ← (engine.runRules listening profile).outcome
      if listening then
        let _ ← premium.total
      return premium := by
  unfold rate
  rw [Traced.outcome_bind, Traced.outcome_bind]
  cases (engine.runRules listening profile).outcome with
  | error cause => rfl
  | ok premium =>
      cases listening with
      | false => rfl
      | true =>
          -- Events before and after the total do not show in the outcome.
          change (Traced.silent premium.total >>= _).outcome = _
          rw [Traced.outcome_bind]
          change (premium.total >>= _) = (premium.total >>= _)
          congr 1

theorem quiet_outcome (engine : Engine) (profile : Profile) :
    (engine.rate false profile).outcome = (engine.runRules false profile).outcome := by
  rw [rate_outcome]
  cases (engine.runRules false profile).outcome <;> rfl

/-- How far a run has come. A turn that overflows makes no progress: the rule was applied last, at
the point before. -/
inductive Progress (engine : Engine) (listening : Bool) (profile : Profile) :
    List Rule → List Rule → Premium → Prop where
  | start : Progress engine listening profile [] [] .empty
  | apply {taken applied rest : List Rule} {premium next : Premium} {rule : Rule}
      (earlier : Progress engine listening profile taken applied premium)
      (turn : engine.rules = taken ++ rule :: rest) (applies : rule.applies profile = true)
      (acts : (rule.act listening profile engine.rates premium).outcome = .ok next) :
      Progress engine listening profile (taken ++ [rule]) (applied ++ [rule]) next
  | skip {taken applied rest : List Rule} {premium : Premium} {rule : Rule}
      (earlier : Progress engine listening profile taken applied premium)
      (turn : engine.rules = taken ++ rule :: rest) (skips : rule.applies profile = false) :
      Progress engine listening profile (taken ++ [rule]) applied premium

variable {engine : Engine} {listening : Bool} {profile : Profile} {taken applied : List Rule}
  {premium : Premium}

theorem progress_applies_matching
    (progress : Progress engine listening profile taken applied premium) :
    applied = taken.filter fun rule => rule.applies profile := by
  induction progress with
  | start => rfl
  | apply earlier turn applies acts ih => simp [ih, applies]
  | skip earlier turn skips ih => simp [ih, skips]

theorem progress_has_effects (progress : Progress engine listening profile taken applied premium) :
    Rule.effects listening engine.rates profile taken = .ok premium := by
  induction progress with
  | start => rfl
  | apply earlier turn applies acts ih =>
      exact Rule.effects_snoc_iff.mpr ⟨_, ih, by simpa [Rule.effect, applies] using acts⟩
  | skip earlier turn skips ih =>
      exact Rule.effects_snoc_iff.mpr ⟨_, ih, by simp [Rule.effect, skips]⟩

theorem progress_of_effects {rest : List Rule} (split : engine.rules = taken ++ rest)
    (reached : Rule.effects listening engine.rates profile taken = .ok premium) :
    Progress engine listening profile taken (taken.filter fun rule => rule.applies profile)
      premium := by
  induction taken using List.reverseRecOn generalizing premium rest with
  | nil =>
      cases reached
      exact .start
  | append_singleton before rule ih =>
      have turn : engine.rules = before ++ rule :: rest := by
        rw [split, List.append_assoc, List.singleton_append]
      obtain ⟨earlier, reachedBefore, effect⟩ := Rule.effects_snoc_iff.mp reached
      have history := ih turn reachedBefore
      rw [List.filter_append]
      cases applies : rule.applies profile with
      | true =>
          rw [Rule.effect, if_pos applies] at effect
          simpa [applies] using history.apply turn applies effect
      | false =>
          rw [Rule.effect, if_neg (by simp [applies])] at effect
          cases effect
          simpa [applies] using history.skip turn applies

/-- A run returns a premium exactly if the history comes to its end with it. -/
theorem run_returns_iff_progress :
    (engine.runRules listening profile).outcome = .ok premium ↔
      ∃ applied, Progress engine listening profile engine.rules applied premium := by
  rw [run_outcome]
  constructor
  · intro reached
    exact ⟨_, progress_of_effects (List.append_nil _).symm reached⟩
  · rintro ⟨applied, progress⟩
    exact progress_has_effects progress

end Engine

end MotorTariff
