import MotorTariff.Proofs.Engine.Assembly
import MotorTariff.Proofs.Engine.Run

/-!
# Setters before readers, in the list and in a run

Assembly looks at places in the list, a run also at conditions. What carries over from the list to a
run is that some setter has had its turn before a reader. Whether it was applied then is up to its
condition, so a list of conditional setters leaves profiles on which a reader finds no rate set.
-/

set_option autoImplicit false

namespace MotorTariff.Engine

variable {engine : Engine} {listening : Bool} {profile : Profile} {taken applied rest : List Rule}
  {premium : Premium}

theorem mem_applied_iff (progress : Progress engine listening profile taken applied premium)
    (rule : Rule) :
    rule ∈ applied ↔ rule ∈ taken ∧ rule.applies profile = true := by
  rw [progress_applies_matching progress, List.mem_filter]

/-- When a reader's turn comes in a run of an accepted list, a setter has had its turn. A setter has
been applied exactly if the condition of one of these holds, which is so for every profile where the
setters of the list are unconditional. -/
theorem setter_turn_precedes_reader {rates : RateTable} {rules : List Rule}
    (accepted : assemble rates rules = .ok engine)
    (progress : Progress engine listening profile taken applied premium) {reader : Rule}
    (turn : engine.rules = taken ++ reader :: rest)
    (reads : reader.dependency = .readsBaseRate) :
    (∃ setter ∈ taken, setter.dependency = .setsBaseRate) ∧
      ((∃ setter ∈ applied, setter.dependency = .setsBaseRate) ↔
        ∃ setter ∈ taken, setter.dependency = .setsBaseRate ∧ setter.applies profile = true) ∧
      ((∀ setter ∈ engine.rules, setter.dependency = .setsBaseRate →
          setter.applies profile = true) →
        ∃ setter ∈ applied, setter.dependency = .setsBaseRate) := by
  obtain ⟨listed, member, sets⟩ := setter_before_reader accepted turn reads
  refine ⟨⟨listed, member, sets⟩, ⟨?_, ?_⟩, ?_⟩
  · rintro ⟨setter, wasApplied, setterSets⟩
    obtain ⟨inTaken, applies⟩ := (mem_applied_iff progress setter).mp wasApplied
    exact ⟨setter, inTaken, setterSets, applies⟩
  · rintro ⟨setter, inTaken, setterSets, applies⟩
    exact ⟨setter, (mem_applied_iff progress setter).mpr ⟨inTaken, applies⟩, setterSets⟩
  · intro unconditional
    have inRules : listed ∈ engine.rules := by
      rw [turn]
      exact List.mem_append_left _ member
    have applies := unconditional listed inRules sets
    exact ⟨listed, (mem_applied_iff progress listed).mpr ⟨member, applies⟩, sets⟩

/-- A base rate for drivers below the age of twenty-five only. -/
def youngBaseRate : Rule where
  name := "young base rate"
  dependency := .setsBaseRate
  applies profile := decide (profile.age < 25)
  act _ _ _ premium := return premium.setBaseRate (.whole 2000)

def twoSetters : List Rule := [youngBaseRate, .baseRate, .ageFactor]

/-- At thirty the first setter is skipped and the second applied before the reader's turn. -/
theorem neutral_run_applies_second_setter :
    assemble .standard twoSetters = .ok ⟨.standard, twoSetters⟩ ∧
      ∃ premium, Progress ⟨.standard, twoSetters⟩ true .neutral [youngBaseRate, .baseRate]
          [.baseRate] premium ∧
        (∃ setter ∈ [youngBaseRate, .baseRate], setter.dependency = .setsBaseRate) ∧
        ((∃ setter ∈ [Rule.baseRate], setter.dependency = .setsBaseRate) ↔
          ∃ setter ∈ [youngBaseRate, .baseRate],
            setter.dependency = .setsBaseRate ∧ setter.applies .neutral = true) := by
  have accepted : assemble .standard twoSetters = .ok ⟨.standard, twoSetters⟩ := rfl
  have skipped : Progress ⟨.standard, twoSetters⟩ true .neutral [youngBaseRate] [] .empty :=
    Progress.start.skip rfl rfl
  have progress : Progress ⟨.standard, twoSetters⟩ true .neutral [youngBaseRate, .baseRate]
      [.baseRate] _ := skipped.apply rfl rfl rfl
  have order := setter_turn_precedes_reader accepted progress
    (show twoSetters = [youngBaseRate, .baseRate] ++ Rule.ageFactor :: [] from rfl) rfl
  exact ⟨accepted, _, progress, order.1, order.2.1⟩

/-- Accepted with a conditional setter alone, a reader is applied although no setter was. -/
theorem reader_can_be_applied_without_setter :
    ¬ ∀ (rates : RateTable) (rules : List Rule) (engine : Engine) (listening : Bool)
      (profile : Profile) (taken applied rest : List Rule) (premium : Premium) (reader : Rule),
      assemble rates rules = .ok engine → Progress engine listening profile taken applied premium →
        engine.rules = taken ++ reader :: rest → reader.applies profile = true →
        reader.dependency = .readsBaseRate →
        ∃ setter ∈ applied, setter.dependency = .setsBaseRate := by
  intro always
  let rules := [youngBaseRate, Rule.ageFactor]
  let engine : Engine := ⟨.standard, rules⟩
  have skipped : Progress engine false .neutral [youngBaseRate] [] .empty :=
    Progress.start.skip rfl rfl
  obtain ⟨setter, member, -⟩ :=
    always .standard rules engine false .neutral _ _ _ _ Rule.ageFactor rfl skipped rfl rfl rfl
  simp at member

end MotorTariff.Engine
