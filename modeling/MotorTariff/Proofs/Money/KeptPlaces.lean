import MotorTariff.Proofs.Money.Stored
import MotorTariff.Rates.Document

/-!
# Amounts with more than the kept places

Every operation rounds what it returns, so an amount computed from others has at most the kept
places whatever its operands had. Reading a document does not round. These two facts settle which
amounts there can be, and the last digits of an amount that was read are what adding zero takes off.
-/

set_option autoImplicit false

namespace MotorTariff.Money

/-- Amounts that some document holds, alone or as an entry of a rate table. -/
inductive Read : Money → Prop where
  | alone {document : Bytes} {money : Money}
      (accepted : Json.readDocument Json.Form.money.read document = .ok money) : Read money
  | baseRate {document : Bytes} {rates : RateTable} (category : VehicleCategory)
      (accepted : RateTable.ofDocument document = .ok rates) : Read (rates.baseRate category)
  | surcharge {document : Bytes} {rates : RateTable} (tier : AccidentTier)
      (accepted : RateTable.ofDocument document = .ok rates) :
      Read (rates.accidentSurcharge tier)

/-- Amounts that can be had by any number of constructions, readings and operations. -/
inductive Obtainable : Money → Prop where
  | ofDecimal (amount : Decimal) : Obtainable (ofDecimal amount)
  | zero : Obtainable zero
  | default : Obtainable default
  | read {money : Money} (read : Read money) : Obtainable money
  | add {left right sum : Money} (leftObtained : Obtainable left)
      (rightObtained : Obtainable right) (added : left.add right = .ok sum) : Obtainable sum
  | sub {left right difference : Money} (leftObtained : Obtainable left)
      (rightObtained : Obtainable right) (subtracted : left.sub right = .ok difference) :
      Obtainable difference
  | neg {money : Money} (obtained : Obtainable money) : Obtainable money.neg
  | checkedAdd {left right sum : Money} (leftObtained : Obtainable left)
      (rightObtained : Obtainable right) (added : left.add? right = some sum) : Obtainable sum
  | checkedSub {left right difference : Money} (leftObtained : Obtainable left)
      (rightObtained : Obtainable right) (subtracted : left.sub? right = some difference) :
      Obtainable difference
  | multiply {money product : Money} {factor : Decimal} (obtained : Obtainable money)
      (multiplied : money.multiply factor = .ok product) : Obtainable product
  | sum {amounts : List Money} {total : Money}
      (obtained : ∀ money ∈ amounts, Obtainable money) (summed : Money.sum amounts = .ok total) :
      Obtainable total
  | roundToCents {money : Money} (obtained : Obtainable money) : Obtainable money.roundToCents

section Operations

variable {left right result : Money}

theorem checked_add_is_rounded (added : left.add? right = some result) : result.IsRounded := by
  obtain ⟨amount, -, rfl⟩ := Option.map_eq_some_iff.mp added
  exact ⟨amount, rfl⟩

theorem checked_sub_is_rounded (subtracted : left.sub? right = some result) :
    result.IsRounded := by
  obtain ⟨amount, -, rfl⟩ := Option.map_eq_some_iff.mp subtracted
  exact ⟨amount, rfl⟩

theorem add_is_rounded (added : left.add right = .ok result) : result.IsRounded :=
  checked_add_is_rounded (Overflow.require_ok_iff.mp added)

theorem sub_is_rounded (subtracted : left.sub right = .ok result) : result.IsRounded :=
  checked_sub_is_rounded (Overflow.require_ok_iff.mp subtracted)

theorem round_to_cents_is_rounded (money : Money) : money.roundToCents.IsRounded := by
  have shown : money.roundToCents.amount.scale ≤ shownPlaces := Decimal.scale_round_le ..
  exact (is_rounded_iff_scale _).mpr (shown.trans (by decide))

theorem fold_keeps (Kept : Money → Prop) (amounts : List Money)
    (step : ∀ money ∈ amounts, ∀ {start next : Money}, Kept start → start.add money = .ok next →
      Kept next)
    {start total : Money} (kept : Kept start) (folded : amounts.foldlM add start = .ok total) :
    Kept total := by
  induction amounts generalizing start with
  | nil =>
      cases folded
      exact kept
  | cons money rest ih =>
      rw [List.foldlM_cons] at folded
      obtain ⟨next, added, continued⟩ := bind_ok_iff.mp folded
      have nextKept := step money List.mem_cons_self kept added
      exact ih (fun other member => step other (List.mem_cons_of_mem _ member)) nextKept continued

theorem fold_is_rounded (amounts : List Money) {start total : Money} (rounded : start.IsRounded)
    (folded : amounts.foldlM add start = .ok total) : total.IsRounded :=
  fold_keeps IsRounded amounts (fun _ _ _ _ _ added => add_is_rounded added) rounded folded

end Operations

theorem Obtainable.rounded_or_read {money : Money} (obtained : Obtainable money) :
    money.IsRounded ∨ Read money := by
  cases obtained with
  | ofDecimal amount => exact .inl ⟨amount, rfl⟩
  | zero => exact .inl zero_is_rounded
  | default => exact .inl zero_is_rounded
  | read read => exact .inr read
  | add _ _ added => exact .inl (add_is_rounded added)
  | sub _ _ subtracted => exact .inl (sub_is_rounded subtracted)
  | neg _ => exact .inl ⟨_, rfl⟩
  | checkedAdd _ _ added => exact .inl (checked_add_is_rounded added)
  | checkedSub _ _ subtracted => exact .inl (checked_sub_is_rounded subtracted)
  | multiply _ multiplied => exact .inl (multiply_is_rounded multiplied)
  | sum _ summed => exact .inl (fold_is_rounded _ zero_is_rounded summed)
  | roundToCents _ => exact .inl (round_to_cents_is_rounded _)

theorem add_zero_rounds (money : Money) :
    ∃ sum, money.add zero = .ok sum ∧ sum.value = Decimal.nearestAt keptPlaces money.value := by
  by_cases nothing : money.amount.isZero = true
  · have value : money.value = 0 := (Decimal.is_zero_iff_to_rat _).mp nothing
    refine ⟨ofDecimal Decimal.zero, ?_, ?_⟩
    · simp [add, add?, zero, Decimal.add?, nothing, Overflow.require]
    · rw [of_decimal_value, value, Decimal.to_rat_zero]
  · refine ⟨ofDecimal money.amount, ?_, of_decimal_value _⟩
    have isZero : Decimal.zero.isZero = true := rfl
    simp [add, add?, zero, Decimal.add?, nothing, isZero, Overflow.require]

theorem nearest_at_kept_iff (x : Rat) :
    Decimal.nearestAt keptPlaces x = x ↔ ∃ units : Int, x * 10 ^ keptPlaces = units := by
  constructor
  · intro kept
    refine ⟨Rounding.halfEven (x * 10 ^ keptPlaces), ?_⟩
    rw [Decimal.nearestAt, div_eq_iff (by positivity)] at kept
    exact kept.symm
  · rintro ⟨units, onGrid⟩
    exact Decimal.nearest_at_of_grid le_rfl onGrid

theorem nearest_at_kept_of_scale {money : Money} (kept : money.amount.scale ≤ keptPlaces) :
    Decimal.nearestAt keptPlaces money.value = money.value :=
  Decimal.nearest_at_of_grid kept (Decimal.to_rat_on_grid money.amount)

/-- More than the kept places come from documents only. Adding zero leaves an amount alone if it has
the kept places, and otherwise exactly if the digits past them are zeros. -/
theorem obtainable_iff_kept_or_read (money : Money) :
    (Obtainable money ↔ money.amount.scale ≤ keptPlaces ∨ Read money) ∧
      ∃ sum, money.add zero = .ok sum ∧
        (money.amount.scale ≤ keptPlaces → sum.sameAmount money = true) ∧
        (sum.sameAmount money = true ↔ ∃ units : Int, money.value * 10 ^ keptPlaces = units) := by
  constructor
  · rw [← is_rounded_iff_scale]
    refine ⟨Obtainable.rounded_or_read, ?_⟩
    rintro (⟨amount, rfl⟩ | read)
    · exact .ofDecimal amount
    · exact .read read
  · obtain ⟨sum, added, rounded⟩ := add_zero_rounds money
    refine ⟨sum, added, ?_, ?_⟩
    · intro kept
      rw [same_amount_iff_value, rounded, nearest_at_kept_of_scale kept]
    · rw [same_amount_iff_value, rounded, nearest_at_kept_iff]

/-- An amount with five fraction digits. -/
def fiveDigits : Money := ⟨.literal false 123456 5⟩

theorem five_digits_can_be_read : Read fiveDigits := by
  have found : (Json.readDocument Json.Form.money.read (Utf8.encodeText "1.23456")).toOption =
      some fiveDigits := by decide +kernel
  cases outcome : Json.readDocument Json.Form.money.read (Utf8.encodeText "1.23456") with
  | error fault =>
      rw [outcome] at found
      cases found
  | ok money =>
      rw [outcome] at found
      cases found
      exact .alone outcome

/-- The amount 1.23456 comes out of its document as it is, and adding zero makes it 1.2346. -/
theorem reading_keeps_more_places :
    ∃ money : Money, Obtainable money ∧ ¬ money.amount.scale ≤ keptPlaces ∧
      ∃ sum, money.add zero = .ok sum ∧ sum.sameAmount money = false := by
  refine ⟨fiveDigits, .read five_digits_can_be_read, by decide, ofDecimal fiveDigits.amount, ?_, ?_⟩
  · rfl
  · decide

end MotorTariff.Money
