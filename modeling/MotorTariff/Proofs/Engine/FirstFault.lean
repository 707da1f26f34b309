import MotorTariff.Proofs.Engine.Assembly

/-!
# Which fault of a rule list is reported

A rule list is refused for the rule at the smallest position that is wrong, and for its name before
its dependency. The check goes through the list once; its two pieces of state are the names and the
setters among the rules passed, so at each position it decides by the list before that position.
-/

set_option autoImplicit false

namespace MotorTariff.Engine

/-- An earlier rule has the name of the rule at this position. -/
def RepeatsName (rules : List Rule) (position : Nat) : Prop :=
  ∃ rule, rules[position]? = some rule ∧
    ∃ earlier < position, ∃ other, rules[earlier]? = some other ∧ other.name = rule.name

/-- The rule at this position reads the base rate, and no earlier rule sets it. -/
def LacksSetter (rules : List Rule) (position : Nat) : Prop :=
  ∃ rule, rules[position]? = some rule ∧ rule.dependency = .readsBaseRate ∧
    ¬ ∃ earlier < position, ∃ setter, rules[earlier]? = some setter ∧
      setter.dependency = .setsBaseRate

def IsFaulty (rules : List Rule) (position : Nat) : Prop :=
  RepeatsName rules position ∨ LacksSetter rules position

structure IsFirstFault (rules : List Rule) (position : Nat) : Prop where
  faulty : IsFaulty rules position
  noneBefore : ∀ earlier < position, ¬ IsFaulty rules earlier

theorem first_fault_unique {rules : List Rule} {position other : Nat}
    (first : IsFirstFault rules position) (second : IsFirstFault rules other) :
    position = other := by
  rcases Nat.lt_trichotomy position other with before | same | after
  · exact absurd first.faulty (second.noneBefore position before)
  · exact same
  · exact absurd second.faulty (first.noneBefore other after)

section Passed

variable (passed : List Rule) (rule : Rule) (rest : List Rule)

theorem earlier_iff_passed (holds : Rule → Prop) :
    (∃ earlier < passed.length, ∃ other,
        (passed ++ rule :: rest)[earlier]? = some other ∧ holds other) ↔
      ∃ other ∈ passed, holds other := by
  constructor
  · rintro ⟨earlier, inside, other, placed, property⟩
    rw [List.getElem?_append_left inside] at placed
    exact ⟨other, List.mem_of_getElem? placed, property⟩
  · rintro ⟨other, member, property⟩
    obtain ⟨earlier, placed⟩ := List.getElem?_of_mem member
    have inside : earlier < passed.length := (List.getElem?_eq_some_iff.mp placed).1
    exact ⟨earlier, inside, other, by rwa [List.getElem?_append_left inside], property⟩

theorem placed_after_passed : (passed ++ rule :: rest)[passed.length]? = some rule := by
  simp

theorem repeats_name_iff_passed :
    RepeatsName (passed ++ rule :: rest) passed.length ↔ rule.name ∈ passed.map Rule.name := by
  rw [List.mem_map, ← earlier_iff_passed passed rule rest fun other => other.name = rule.name]
  simp [RepeatsName]

theorem lacks_setter_iff_passed :
    LacksSetter (passed ++ rule :: rest) passed.length ↔
      rule.dependency = .readsBaseRate ∧
        (passed.any fun other => other.dependency == .setsBaseRate) = false := by
  have setters := earlier_iff_passed passed rule rest fun other => other.dependency = .setsBaseRate
  unfold LacksSetter
  rw [setters]
  simp

end Passed

/-- The error for a faulty rule at a position. -/
def IsReport (rules : List Rule) (position : Nat) (error : AssemblyError) : Prop :=
  ∃ rule, rules[position]? = some rule ∧
    (RepeatsName rules position → error = .duplicateRule rule.name) ∧
    (¬ RepeatsName rules position → error = .baseRateNotSet rule.name position)

/-- What the check may say of the positions after the passed rules: that none of them has a fault, or
which of them is the first that has one. -/
def IsVerdict (passed rest : List Rule) (outcome : Except AssemblyError Unit) : Prop :=
  (outcome = .ok () ∧
      ∀ position, passed.length ≤ position → ¬ IsFaulty (passed ++ rest) position) ∨
    ∃ position error, outcome = .error error ∧ IsReport (passed ++ rest) position error ∧
      IsFaulty (passed ++ rest) position ∧
      ∀ earlier, passed.length ≤ earlier → earlier < position →
        ¬ IsFaulty (passed ++ rest) earlier

section Verdicts

variable (passed : List Rule) (rule : Rule) (rest : List Rule)

theorem verdict_at_end : IsVerdict passed [] (.ok ()) := by
  refine Or.inl ⟨rfl, ?_⟩
  intro position outside
  have nothing : (passed ++ [])[position]? = none := by simpa using outside
  rintro (⟨rule, placed, -⟩ | ⟨rule, placed, -⟩)
  · rw [nothing] at placed
    cases placed
  · rw [nothing] at placed
    cases placed

theorem verdict_of_fault {error : AssemblyError}
    (faulty : IsFaulty (passed ++ rule :: rest) passed.length)
    (report : IsReport (passed ++ rule :: rest) passed.length error) :
    IsVerdict passed (rule :: rest) (.error error) := by
  refine Or.inr ⟨passed.length, error, rfl, report, faulty, ?_⟩
  intro earlier bound before
  omega

variable {rule}

theorem verdict_after_sound {outcome : Except AssemblyError Unit}
    (sound : ¬ IsFaulty (passed ++ rule :: rest) passed.length)
    (later : IsVerdict (passed ++ [rule]) rest outcome) :
    IsVerdict passed (rule :: rest) outcome := by
  have layout : passed ++ [rule] ++ rest = passed ++ rule :: rest := by simp
  have from_here : ∀ position, passed.length ≤ position →
      position = passed.length ∨ (passed ++ [rule]).length ≤ position := by
    intro position bound
    rw [List.length_append, List.length_singleton]
    omega
  unfold IsVerdict at later
  rw [layout] at later
  rcases later with ⟨accepted, clean⟩ | ⟨position, error, refused, report, faulty, first⟩
  · refine Or.inl ⟨accepted, ?_⟩
    intro position bound
    rcases from_here position bound with rfl | behind
    · exact sound
    · exact clean position behind
  · refine Or.inr ⟨position, error, refused, report, faulty, ?_⟩
    intro earlier bound before
    rcases from_here earlier bound with rfl | behind
    · exact sound
    · exact first earlier behind before

end Verdicts

theorem check_after_passed (passed rest : List Rule) :
    IsVerdict passed rest (checkFrom passed.length (passed.map Rule.name).reverse
      (passed.any fun other => other.dependency == .setsBaseRate) rest) := by
  induction rest generalizing passed with
  | nil => exact verdict_at_end passed
  | cons rule rest induction =>
      have repeats := repeats_name_iff_passed passed rule rest
      have lacks := lacks_setter_iff_passed passed rule rest
      have placed := placed_after_passed passed rule rest
      simp only [checkFrom, List.mem_reverse]
      split_ifs with repeated early
      · rw [← repeats] at repeated
        exact verdict_of_fault passed rule rest (Or.inl repeated)
          ⟨rule, placed, fun _ => rfl, fun fresh => absurd repeated fresh⟩
      · rw [← repeats] at repeated
        exact verdict_of_fault passed rule rest (Or.inr (lacks.mpr early))
          ⟨rule, placed, fun again => absurd again repeated, fun _ => rfl⟩
      · have sound : ¬ IsFaulty (passed ++ rule :: rest) passed.length := by
          rintro (again | unset)
          · exact repeated (repeats.mp again)
          · exact early (lacks.mp unset)
        apply verdict_after_sound passed rest sound
        have later := induction (passed ++ [rule])
        simpa using later

theorem assemble_by_first_fault (rates : RateTable) (rules : List Rule) :
    (assemble rates rules = .ok ⟨rates, rules⟩ ∧ ∀ position, ¬ IsFaulty rules position) ∨
      ∃ position error, assemble rates rules = .error error ∧ IsReport rules position error ∧
        IsFirstFault rules position := by
  rcases check_after_passed [] rules with ⟨passed, clean⟩ |
    ⟨position, error, refused, report, faulty, first⟩
  · refine Or.inl ⟨?_, fun position => clean position (Nat.zero_le _)⟩
    simp only [List.length_nil, List.map_nil, List.reverse_nil, List.any_nil] at passed
    rw [assemble, passed]
    rfl
  · refine Or.inr ⟨position, error, ?_, report, faulty, ?_⟩
    · simp only [List.length_nil, List.map_nil, List.reverse_nil, List.any_nil] at refused
      rw [assemble, refused]
      rfl
    · exact fun earlier => first earlier (Nat.zero_le _)

theorem readers_follow_iff_positions (rules : List Rule) :
    ReadersFollow false rules ↔
      ∀ (position : Nat) (reader : Rule), rules[position]? = some reader →
        reader.dependency = .readsBaseRate →
        ∃ earlier < position, ∃ setter, rules[earlier]? = some setter ∧
          setter.dependency = .setsBaseRate := by
  constructor
  · intro follow position reader placed reads
    obtain ⟨inside, rfl⟩ := List.getElem?_eq_some_iff.mp placed
    have split : rules = rules.take position ++ rules[position] :: rules.drop (position + 1) := by
      rw [← List.drop_eq_getElem_cons inside, List.take_append_drop]
    have before : (rules.take position).length = position :=
      List.length_take_of_le (Nat.le_of_lt inside)
    rcases follow _ _ _ split reads with flag | found
    · cases flag
    · rw [← earlier_iff_passed _ rules[position] (rules.drop (position + 1)), ← split,
        before] at found
      exact found
  · rintro set earlier reader later rfl reads
    apply Or.inr
    rw [← earlier_iff_passed earlier reader later]
    exact set _ reader (placed_after_passed earlier reader later) reads

/-- A list is accepted, unchanged, exactly if its names are distinct and every reader of the base
rate has a setter at a smaller position; otherwise the rule at the first faulty position is reported,
for its name if an earlier rule has it and else for the missing setter. -/
theorem assembly_reports_first_fault (rates : RateTable) (rules : List Rule) :
    (∀ engine, assemble rates rules = .ok engine ↔
        (rules.map Rule.name).Nodup ∧
          (∀ (position : Nat) (reader : Rule), rules[position]? = some reader →
            reader.dependency = .readsBaseRate →
            ∃ earlier < position, ∃ setter, rules[earlier]? = some setter ∧
              setter.dependency = .setsBaseRate) ∧
          engine = ⟨rates, rules⟩) ∧
      ∀ error, assemble rates rules = .error error ↔
        ∃ position rule, rules[position]? = some rule ∧ IsFirstFault rules position ∧
          (RepeatsName rules position → error = .duplicateRule rule.name) ∧
          (¬ RepeatsName rules position → error = .baseRateNotSet rule.name position) := by
  constructor
  · intro engine
    rw [assemble_ok_iff, readers_follow_iff_positions]
  intro error
  rcases assemble_by_first_fault rates rules with ⟨accepted, clean⟩ |
    ⟨position, reported, refused, report, first⟩
  · rw [accepted]
    constructor
    · rintro ⟨⟩
    · rintro ⟨position, -, -, first, -⟩
      exact absurd first.faulty (clean position)
  · rw [refused]
    constructor
    · rintro ⟨⟩
      obtain ⟨rule, placed, texts⟩ := report
      exact ⟨position, rule, placed, first, texts⟩
    · rintro ⟨place, rule, placed, firstThere, repeated, fresh⟩
      obtain rfl := first_fault_unique first firstThere
      obtain ⟨same, placedHere, repeatedHere, freshHere⟩ := report
      obtain rfl : same = rule := Option.some.inj (placedHere.symm.trans placed)
      by_cases again : RepeatsName rules position
      · rw [repeated again, repeatedHere again]
      · rw [fresh again, freshHere again]

/-- A rule with the name of an earlier one that also reads a base rate not yet set has both faults;
its name is reported. -/
theorem name_reported_before_setter :
    assemble .standard [.accidentHistory, { Rule.ageFactor with name := "accident history" }] =
      .error (.duplicateRule "accident history") := by
  have repeated : RepeatsName
      [.accidentHistory, { Rule.ageFactor with name := "accident history" }] 1 :=
    ⟨_, rfl, 0, Nat.zero_lt_one, _, rfl, rfl⟩
  rw [(assembly_reports_first_fault _ _).2]
  refine ⟨1, _, rfl, ⟨Or.inl repeated, ?_⟩, fun _ => rfl, fun fresh => absurd repeated fresh⟩
  intro earlier before
  obtain rfl : earlier = 0 := by omega
  rintro (⟨_, -, _, none, -⟩ | ⟨rule, placed, reads, -⟩)
  · exact absurd none (Nat.not_lt_zero _)
  · cases placed
    cases reads

end MotorTariff.Engine
