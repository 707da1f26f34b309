import MotorTariff.Premium.Audit
import MotorTariff.Proofs.Decimal.Operations
import MotorTariff.Proofs.Premium.Accumulator

/-!
# The total and the plain sum that checks it

The audit of a premium adds the stored decimals as they are, while the total goes through additions
of money that round to the kept places and name another overflow. The two run side by side: as long
as every partial sum has the kept places there is nothing to round, whatever digits an addition
drops near the largest mantissa, and an overflow of one is an overflow of the other at the same
addition. So the audit can report an overflow, but never a wrong total.
-/

set_option autoImplicit false

namespace MotorTariff

namespace Audit

/-- The base rate plus the sum of the adjustments, in decimals as they are stored. -/
def plainTotal (premium : Premium) : Except Overflow Decimal := do
  addDecimals premium.baseRate.amount (← adjustmentSum premium)

/-- The same decimal with at most the kept places, or an overflow on both sides. -/
inductive Agree : Except Overflow Money → Except Overflow Decimal → Prop where
  | sum {amount : Decimal} (kept : amount.scale ≤ Money.keptPlaces) :
      Agree (.ok ⟨amount⟩) (.ok amount)
  | overflow : Agree (.error .moneyAddition) (.error .decimalAddition)

theorem Agree.bind {sum : Except Overflow Money} {plain : Except Overflow Decimal}
    {next : Money → Except Overflow Money} {plainNext : Decimal → Except Overflow Decimal}
    (agree : Agree sum plain)
    (continued : ∀ {amount : Decimal}, amount.scale ≤ Money.keptPlaces →
      Agree (next ⟨amount⟩) (plainNext amount)) :
    Agree (sum >>= next) (plain >>= plainNext) := by
  cases agree with
  | sum kept => exact continued kept
  | overflow => exact .overflow

theorem add_agrees {left right : Decimal} (leftKept : left.scale ≤ Money.keptPlaces)
    (rightKept : right.scale ≤ Money.keptPlaces) :
    Agree (Money.add ⟨left⟩ ⟨right⟩) (addDecimals left right) := by
  -- A sum has no more places than its operands, so storing it rounds nothing away.
  have drops := Decimal.add_drops_digits left right
  unfold Money.add Money.add? addDecimals
  cases computed : left.add? right with
  | none => exact .overflow
  | some amount =>
      have kept : amount.scale ≤ Money.keptPlaces :=
        (drops.scale_le computed).trans (Nat.max_le.mpr ⟨leftKept, rightKept⟩)
      rw [Option.map_some, Money.ofDecimal_of_scale_le kept]
      exact .sum kept

theorem fold_agrees (adjustments : List Adjustment)
    (allKept : ∀ adjustment ∈ adjustments, adjustment.amount.amount.scale ≤ Money.keptPlaces)
    {start : Decimal} (startKept : start.scale ≤ Money.keptPlaces) :
    Agree ((adjustments.map Adjustment.amount).foldlM Money.add ⟨start⟩)
      (adjustments.foldlM (fun sum adjustment => addDecimals sum adjustment.amount.amount)
        start) := by
  induction adjustments generalizing start with
  | nil => exact .sum startKept
  | cons adjustment rest ih =>
      have headKept := allKept adjustment List.mem_cons_self
      have restKept : ∀ other ∈ rest, other.amount.amount.scale ≤ Money.keptPlaces := by
        intro other member
        exact allKept other (List.mem_cons_of_mem _ member)
      rw [List.map_cons, List.foldlM_cons, List.foldlM_cons]
      exact (add_agrees startKept headKept).bind (ih restKept)

theorem total_agrees {premium : Premium} (rounded : premium.IsRounded) :
    Agree premium.total (plainTotal premium) := by
  have baseKept := (Money.is_rounded_iff_scale _).mp rounded.baseRate
  have allKept : ∀ adjustment ∈ premium.adjustments,
      adjustment.amount.amount.scale ≤ Money.keptPlaces := by
    intro adjustment member
    exact (Money.is_rounded_iff_scale _).mp
      (rounded.amounts adjustment.amount (List.mem_map_of_mem member))
  have startKept : Decimal.zero.scale ≤ Money.keptPlaces := Nat.zero_le _
  exact (fold_agrees premium.adjustments allKept startKept).bind (add_agrees baseKept)

theorem check_of_plain_overflow {premium : Premium} {cause : Overflow}
    (overflows : plainTotal premium = .error cause) :
    checkTotal premium = .error (.overflow cause) := by
  unfold plainTotal at overflows
  unfold checkTotal
  cases summed : adjustmentSum premium with
  | error first =>
      rw [summed] at overflows
      cases overflows
      rfl
  | ok adjustments =>
      rw [summed] at overflows
      change addDecimals premium.baseRate.amount adjustments = .error cause at overflows
      simp only [settle, overflows, bind, Except.bind]

theorem check_of_plain_total {premium : Premium} {amount : Decimal}
    (totalled : premium.total = .ok ⟨amount⟩) (plain : plainTotal premium = .ok amount) :
    checkTotal premium = .ok () := by
  obtain ⟨adjustments, summed, added⟩ := bind_ok_iff.mp plain
  have same : amount.sameAmount amount = true := (Decimal.same_amount_iff amount amount).mpr rfl
  unfold checkTotal
  rw [summed, totalled]
  simp only [settle, added, bind, Except.bind, same, if_true]

end Audit

namespace Premium

/-- The total of a premium with the kept places is its plain sum, digit for digit, and overflows
exactly where that does. So the check of the total ends as the plain sum does, and never with a
total that differs. -/
theorem total_is_plain_sum {premium : Premium} (rounded : premium.IsRounded) :
    (∀ total, premium.total = .ok total ↔ Audit.plainTotal premium = .ok total.amount) ∧
    (∀ cause, premium.total = .error cause ↔
      cause = .moneyAddition ∧ Audit.plainTotal premium = .error .decimalAddition) ∧
    Audit.checkTotal premium =
      match Audit.plainTotal premium with
      | .ok _ => .ok ()
      | .error cause => .error (.overflow cause) := by
  have agree := Audit.total_agrees rounded
  generalize totalled : premium.total = total at agree ⊢
  generalize plain : Audit.plainTotal premium = plainSum at agree ⊢
  cases agree with
  | overflow =>
      refine ⟨by simp, ?_, Audit.check_of_plain_overflow plain⟩
      intro cause
      simp [eq_comm]
  | @sum amount kept =>
      refine ⟨?_, by simp, Audit.check_of_plain_total totalled plain⟩
      intro total
      rw [Except.ok.injEq, Except.ok.injEq]
      exact ⟨fun same => same ▸ rfl, fun same => congrArg Money.mk same⟩

/-- Adding up these adjustments drops three digits, and adding the sum to the base rate another. -/
def droppingPremium : Premium where
  baseRate := .ofDecimal (.literal false 9 1)
  adjustments :=
    [⟨"Surcharge", .ofDecimal (.literal false 79228162514264337593543950335 1), "largest tenths"⟩,
      ⟨"Fee", .ofDecimal (.literal false 49 4), "below a tenth"⟩]

/-- The exact sum would end in 34.4049. -/
theorem dropping_total_is_plain_sum :
    droppingPremium.IsRounded ∧
    droppingPremium.total = .ok ⟨.literal false 7922816251426433759354395034 0⟩ ∧
    Audit.plainTotal droppingPremium = .ok (.literal false 7922816251426433759354395034 0) ∧
    Audit.checkTotal droppingPremium = .ok () := by
  have rounded : droppingPremium.IsRounded := by
    constructor
    · exact ⟨_, rfl⟩
    · simp only [Money.is_rounded_iff_scale]
      decide +kernel
  have totalled : droppingPremium.total = .ok ⟨.literal false 7922816251426433759354395034 0⟩ := by
    decide +kernel
  obtain ⟨same, -, check⟩ := total_is_plain_sum rounded
  have plain := (same _).mp totalled
  rw [plain] at check
  exact ⟨rounded, totalled, plain, check⟩

end Premium

end MotorTariff
