import Mathlib.Data.List.Nodup
import MotorTariff.Engine

/-!
# Which rule lists are accepted

The check runs through the list once, with the names seen so far and a flag for the base rate. Its
two pieces of state amount to two properties of the list alone: no name stands twice, and every
reader of the base rate stands after a setter. Conditions on the profile play no part in either.
-/

set_option autoImplicit false

namespace MotorTariff.Engine

/-- Every rule that reads the base rate has a setter before it, or the flag is set already. -/
def ReadersFollow (baseRateSet : Bool) (rules : List Rule) : Prop :=
  ∀ earlier reader later, rules = earlier ++ reader :: later →
    reader.dependency = .readsBaseRate →
    baseRateSet = true ∨ ∃ setter ∈ earlier, setter.dependency = .setsBaseRate

theorem readers_follow_nil (baseRateSet : Bool) : ReadersFollow baseRateSet [] := by
  intro earlier reader later split
  simp at split

theorem readers_follow_cons (baseRateSet : Bool) (rule : Rule) (rest : List Rule) :
    ReadersFollow baseRateSet (rule :: rest) ↔
      (rule.dependency = .readsBaseRate → baseRateSet = true) ∧
        ReadersFollow (baseRateSet || rule.dependency == .setsBaseRate) rest := by
  constructor
  · intro follow
    constructor
    · intro reads
      simpa using follow [] rule rest rfl reads
    · intro earlier reader later split reads
      rcases follow (rule :: earlier) reader later (by rw [split]; rfl) reads with
        flag | ⟨setter, member, sets⟩
      · exact Or.inl (by simp [flag])
      · rcases List.mem_cons.mp member with rfl | inRest
        · exact Or.inl (by simp [sets])
        · exact Or.inr ⟨setter, inRest, sets⟩
  · rintro ⟨head, tail⟩ earlier reader later split reads
    cases earlier with
    | nil =>
        cases split
        exact Or.inl (head reads)
    | cons first middle =>
        cases split
        rcases tail middle reader later rfl reads with flag | ⟨setter, member, sets⟩
        · rcases Bool.or_eq_true_iff.mp flag with before | sets
          · exact Or.inl before
          · exact Or.inr ⟨rule, List.mem_cons_self, by simpa using sets⟩
        · exact Or.inr ⟨setter, List.mem_cons_of_mem _ member, sets⟩

theorem check_from_ok_iff (position : Nat) (names : List String) (baseRateSet : Bool)
    (rules : List Rule) :
    checkFrom position names baseRateSet rules = .ok () ↔
      (∀ rule ∈ rules, rule.name ∉ names) ∧ (rules.map Rule.name).Nodup ∧
        ReadersFollow baseRateSet rules := by
  induction rules generalizing position names baseRateSet with
  | nil => simp [checkFrom, readers_follow_nil]
  | cons rule rest ih =>
      rw [checkFrom, readers_follow_cons]
      by_cases repeated : rule.name ∈ names
      · simp [repeated]
      by_cases early : rule.dependency = .readsBaseRate ∧ baseRateSet = false
      · simp [repeated, early]
      rw [if_neg repeated, if_neg early, ih]
      have head : rule.dependency = .readsBaseRate → baseRateSet = true := by
        intro reads
        simpa using fun unset => early ⟨reads, unset⟩
      -- The rest is fresh for the names seen and the head's: the head is not seen and not repeated.
      constructor
      · rintro ⟨fresh, distinct, follow⟩
        refine ⟨?_, ?_, head, follow⟩
        · intro other member
          rcases List.mem_cons.mp member with rfl | inRest
          · exact repeated
          · exact fun seen => fresh other inRest (List.mem_cons_of_mem _ seen)
        · rw [List.map_cons, List.nodup_cons]
          refine ⟨?_, distinct⟩
          intro again
          obtain ⟨other, inRest, sameName⟩ := List.mem_map.mp again
          exact fresh other inRest (sameName ▸ List.mem_cons_self)
      · rintro ⟨fresh, distinct, -, follow⟩
        rw [List.map_cons, List.nodup_cons] at distinct
        refine ⟨?_, distinct.2, follow⟩
        intro other inRest seen
        rcases List.mem_cons.mp seen with same | before
        · exact distinct.1 (List.mem_map.mpr ⟨other, inRest, same⟩)
        · exact fresh other (List.mem_cons_of_mem _ inRest) before

/-- Assembly succeeds exactly on lists of distinct names whose readers follow a setter, and it
changes neither the table nor the list. -/
theorem assemble_ok_iff (rates : RateTable) (rules : List Rule) (engine : Engine) :
    assemble rates rules = .ok engine ↔
      (rules.map Rule.name).Nodup ∧ ReadersFollow false rules ∧ engine = ⟨rates, rules⟩ := by
  have checked := check_from_ok_iff 0 [] false rules
  simp only [List.not_mem_nil, not_false_eq_true, implies_true, true_and] at checked
  unfold assemble
  cases outcome : checkFrom 0 [] false rules with
  | error problem =>
      rw [outcome] at checked
      simp only [bind, Except.bind, reduceCtorEq, false_iff] at checked ⊢
      exact fun ⟨distinct, follow, _⟩ => checked ⟨distinct, follow⟩
  | ok passed =>
      obtain ⟨distinct, follow⟩ := checked.mp outcome
      simp [bind, Except.bind, pure, Except.pure, distinct, follow, eq_comm]

theorem setter_before_reader {rates : RateTable} {rules : List Rule} {engine : Engine}
    (accepted : assemble rates rules = .ok engine) {earlier later : List Rule} {reader : Rule}
    (split : engine.rules = earlier ++ reader :: later)
    (reads : reader.dependency = .readsBaseRate) :
    ∃ setter ∈ earlier, setter.dependency = .setsBaseRate := by
  obtain ⟨-, follow, rfl⟩ := (assemble_ok_iff rates rules engine).mp accepted
  simpa using follow earlier reader later split reads

end MotorTariff.Engine
