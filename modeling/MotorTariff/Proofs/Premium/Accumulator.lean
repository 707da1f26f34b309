import MotorTariff.Premium.Basic
import MotorTariff.Proofs.Money.Sum

/-!
# Premiums as accumulators

A premium is filled by calls that overwrite the base rate or append an adjustment. Only the last
base rate and the list of adjustments remain, and within the capacity the total is their exact sum.
So the order of the adjustments and the places of the base rates do not matter.
-/

set_option autoImplicit false

namespace MotorTariff.Premium

/-- Base rate and adjustments all have at most the kept places. -/
structure IsRounded (premium : Premium) : Prop where
  baseRate : premium.baseRate.IsRounded
  amounts : ∀ money ∈ premium.amounts, money.IsRounded

def magnitude (premium : Premium) : Rat :=
  |premium.baseRate.value| + Money.magnitudeSum premium.amounts

def exactTotal (premium : Premium) : Rat :=
  premium.baseRate.value + (premium.amounts.map Money.value).sum

theorem total_is_exact {premium : Premium} (rounded : premium.IsRounded)
    (fits : premium.magnitude < Money.capacity) :
    ∃ total, premium.total = .ok total ∧ total.value = premium.exactTotal := by
  have baseNonneg := abs_nonneg premium.baseRate.value
  have adjustmentsFit : Money.magnitudeSum premium.amounts < Money.capacity :=
    (le_add_of_nonneg_left baseNonneg).trans_lt fits
  obtain ⟨sum, summed, sumRounded, sumValue⟩ :=
    Money.sum_is_exact premium.amounts rounded.amounts adjustmentsFit
  have totalFits : |premium.baseRate.value + sum.value| < Money.capacity := by
    have sumBound := Money.abs_sum_le_magnitude_sum premium.amounts
    rw [← sumValue] at sumBound
    calc
      |premium.baseRate.value + sum.value| ≤ |premium.baseRate.value| + |sum.value| :=
        abs_add_le _ _
      _ ≤ premium.magnitude := add_le_add_right sumBound _
      _ < Money.capacity := fits
  obtain ⟨total, added, -, totalValue⟩ :=
    Money.add_is_exact rounded.baseRate sumRounded totalFits
  refine ⟨total, ?_, ?_⟩
  · rw [Premium.total, summed]
    exact added
  · rw [totalValue, sumValue, exactTotal]

section Reordered

variable {premium other : Premium} (sameBase : other.baseRate = premium.baseRate)
  (same : other.adjustments.Perm premium.adjustments)

include same in
theorem amounts_of_reordered : other.amounts.Perm premium.amounts := by
  exact same.map Adjustment.amount

include sameBase same

theorem reordered_is_rounded (rounded : premium.IsRounded) : other.IsRounded := by
  constructor
  · rw [sameBase]
    exact rounded.baseRate
  · intro money member
    exact rounded.amounts money ((amounts_of_reordered same).mem_iff.mp member)

theorem magnitude_of_reordered : other.magnitude = premium.magnitude := by
  rw [magnitude, magnitude, sameBase, Money.magnitude_sum_perm (amounts_of_reordered same)]

theorem exact_total_of_reordered : other.exactTotal = premium.exactTotal := by
  rw [exactTotal, exactTotal, sameBase, ((amounts_of_reordered same).map Money.value).sum_eq]

theorem total_of_reordered (rounded : premium.IsRounded)
    (fits : premium.magnitude < Money.capacity) :
    ∃ total otherTotal, premium.total = .ok total ∧ other.total = .ok otherTotal ∧
      otherTotal.sameAmount total = true := by
  obtain ⟨total, computed, exact⟩ := total_is_exact rounded fits
  obtain ⟨otherTotal, otherComputed, otherExact⟩ :=
    total_is_exact (reordered_is_rounded sameBase same rounded)
      (by rw [magnitude_of_reordered sameBase same]; exact fits)
  refine ⟨total, otherTotal, computed, otherComputed, ?_⟩
  rw [Money.same_amount_iff_value, exact, otherExact, exact_total_of_reordered sameBase same]

end Reordered

inductive Entry where
  | baseRate (rate : Money)
  | adjustment (label : String) (amount : Money) (explanation : String)

namespace Entry

def amount : Entry → Money
  | baseRate rate => rate
  | adjustment _ amount _ => amount

def baseRate? : Entry → Option Money
  | baseRate rate => some rate
  | adjustment .. => none

def adjustment? : Entry → Option Adjustment
  | baseRate _ => none
  | adjustment label amount explanation => some ⟨label, amount, explanation⟩

end Entry

def enter (premium : Premium) : Entry → Premium
  | .baseRate rate => premium.setBaseRate rate
  | .adjustment label amount explanation => premium.addAdjustment label amount explanation

/-- A fresh premium after all calls, in order. -/
def ofEntries (entries : List Entry) : Premium := entries.foldl enter empty

def lastBaseRate (entries : List Entry) : Money :=
  (entries.filterMap Entry.baseRate?).getLast?.getD .zero

def enteredAdjustments (entries : List Entry) : List Adjustment :=
  entries.filterMap Entry.adjustment?

theorem of_entries_eq (entries : List Entry) :
    ofEntries entries = ⟨lastBaseRate entries, enteredAdjustments entries⟩ := by
  -- What remains of the calls. The induction takes the last call off, since that is the one that
  -- decides on the base rate.
  induction entries using List.reverseRecOn with
  | nil => rfl
  | append_singleton earlier entry ih =>
      have step : ofEntries (earlier ++ [entry]) = (ofEntries earlier).enter entry := by
        simp [ofEntries]
      rw [step, ih]
      cases entry <;>
        simp [enter, setBaseRate, addAdjustment, lastBaseRate, enteredAdjustments,
          Entry.baseRate?, Entry.adjustment?]

theorem of_entries_is_rounded {entries : List Entry}
    (rounded : ∀ entry ∈ entries, entry.amount.IsRounded) : (ofEntries entries).IsRounded := by
  rw [of_entries_eq]
  constructor
  · unfold lastBaseRate
    cases last : (entries.filterMap Entry.baseRate?).getLast? with
    | none => exact Money.zero_is_rounded
    | some rate =>
        obtain ⟨entry, member, written⟩ :=
          List.mem_filterMap.mp (List.mem_of_getLast? last)
        cases entry with
        | baseRate other =>
            cases written
            exact rounded _ member
        | adjustment label amount explanation => cases written
  · intro money member
    obtain ⟨adjustment, entered, rfl⟩ := List.mem_map.mp member
    obtain ⟨entry, entryMember, written⟩ := List.mem_filterMap.mp entered
    cases entry with
    | baseRate rate => cases written
    | adjustment label amount explanation =>
        cases written
        exact rounded _ entryMember

/-- The total of a filled premium is the last base rate plus all adjustments, exactly, and every
other way of making the same adjustments over the same last base rate reaches an equal total. -/
theorem entered_total_is_exact_in_any_order {entries : List Entry}
    (rounded : ∀ entry ∈ entries, entry.amount.IsRounded)
    (fits : |(lastBaseRate entries).value| +
        Money.magnitudeSum ((enteredAdjustments entries).map Adjustment.amount) < Money.capacity) :
    ∃ total, (ofEntries entries).total = .ok total ∧
      total.value = (lastBaseRate entries).value +
        ((enteredAdjustments entries).map fun adjustment => adjustment.amount.value).sum ∧
      ∀ others : List Entry,
        (enteredAdjustments others).Perm (enteredAdjustments entries) →
        lastBaseRate others = lastBaseRate entries →
        ∃ otherTotal, (ofEntries others).total = .ok otherTotal ∧
          otherTotal.sameAmount total = true := by
  have premiumRounded := of_entries_is_rounded rounded
  have premiumFits : (ofEntries entries).magnitude < Money.capacity := by
    rw [of_entries_eq]
    exact fits
  obtain ⟨total, computed, exact⟩ := total_is_exact premiumRounded premiumFits
  refine ⟨total, computed, ?_, ?_⟩
  · rw [exact, of_entries_eq, exactTotal, amounts, List.map_map]
    rfl
  · intro others sameAdjustments sameBase
    have otherBase : (ofEntries others).baseRate = (ofEntries entries).baseRate := by
      rw [of_entries_eq, of_entries_eq]
      exact sameBase
    have otherAdjustments :
        (ofEntries others).adjustments.Perm (ofEntries entries).adjustments := by
      rw [of_entries_eq, of_entries_eq]
      exact sameAdjustments
    obtain ⟨known, otherTotal, knownComputed, otherComputed, equal⟩ :=
      total_of_reordered otherBase otherAdjustments premiumRounded premiumFits
    rw [computed, Except.ok.injEq] at knownComputed
    exact ⟨otherTotal, otherComputed, knownComputed ▸ equal⟩

/-- A credit, mixed scales, a sum that passes through zero, and a rate that is replaced. -/
def mixedEntries : List Entry :=
  [.adjustment "Surcharge" (.ofDecimal (.literal false 123456 3)) "three places",
    .baseRate (.whole 1000),
    .adjustment "Credit" (.ofDecimal (.literal true 1234560 4)) "takes it back",
    .baseRate (.ofDecimal (.literal false 18005 1)),
    .adjustment "Fee" (.ofDecimal (.literal false 100005 5)) "loses a digit"]

def reorderedEntries : List Entry :=
  .baseRate (.ofDecimal (.literal false 18005 1)) ::
    mixedEntries.reverse.filter fun entry => entry.adjustment?.isSome

theorem mixed_entries_have_one_total :
    ∃ total, (ofEntries mixedEntries).total = .ok total ∧ total.value = 3603 / 2 ∧
      ∃ otherTotal, (ofEntries reorderedEntries).total = .ok otherTotal ∧
        otherTotal.sameAmount total = true := by
  have rounded : ∀ entry ∈ mixedEntries, entry.amount.IsRounded := by
    simp only [Money.is_rounded_iff_scale]
    decide +kernel
  obtain ⟨total, computed, exact, anyOrder⟩ :=
    entered_total_is_exact_in_any_order rounded (by decide +kernel)
  refine ⟨total, computed, exact.trans (by decide +kernel), ?_⟩
  exact anyOrder reorderedEntries (by decide +kernel) (by decide +kernel)

end MotorTariff.Premium
