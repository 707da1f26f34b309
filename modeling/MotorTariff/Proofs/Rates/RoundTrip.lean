import MotorTariff.Proofs.Json.Amount
import MotorTariff.Proofs.Json.Record
import MotorTariff.Proofs.Rule.Appending
import MotorTariff.Rates.Document

/-!
# Rate tables and their documents

The sections of a rate table are records of amounts, and amounts go through doubles. So a table is
read back from its document with equal amounts as long as its entries have few enough digits, and a
single entry past that limit is enough to change it.
-/

set_option autoImplicit false

namespace MotorTariff.RateTable

-- Powers are the core library's own, also where other libraries define some.
attribute [local instance (high)] instPowNat

open Json (Form RecordForm)

section Shapes

theorem base_rates_are_shaped : baseRatesRecord.Shaped where
  labels_nodup := by decide
  make_get _ := rfl

theorem age_factors_are_shaped : ageFactorsRecord.Shaped where
  labels_nodup := by decide
  make_get _ := rfl

theorem accident_surcharges_are_shaped : accidentSurchargesRecord.Shaped where
  labels_nodup := by decide
  make_get _ := rfl

theorem record_is_shaped : record.Shaped where
  labels_nodup := by decide
  make_get _ := rfl

end Shapes

/-- The same entries in another table denote the same amounts. -/
structure SameEntries (left right : RateTable) : Prop where
  baseRate : ∀ category, (left.baseRate category).value = (right.baseRate category).value
  ageFactor : ∀ bracket, (left.ageFactor bracket).toRat = (right.ageFactor bracket).toRat
  accidentSurcharge : ∀ tier,
    (left.accidentSurcharge tier).value = (right.accidentSurcharge tier).value

theorem same_amounts_iff (left right : RateTable) :
    left.sameAmounts right = true ↔ left.SameEntries right := by
  have fields : left.sameAmounts right = true ↔
      (∀ category, (left.baseRate category).sameAmount (right.baseRate category) = true) ∧
      (∀ bracket, (left.ageFactor bracket).sameAmount (right.ageFactor bracket) = true) ∧
      ∀ tier, (left.accidentSurcharge tier).sameAmount (right.accidentSurcharge tier) = true := by
    simp only [sameAmounts, BaseRates.sameAmounts, AgeFactors.sameAmounts,
      AccidentSurcharges.sameAmounts, Bool.and_eq_true, and_assoc]
    constructor
    · rintro ⟨sedan, suv, luxury, sports, under20, from20, from25, over65, none, one, more⟩
      refine ⟨fun category => ?_, fun bracket => ?_, fun tier => ?_⟩
      · cases category <;> assumption
      · cases bracket <;> assumption
      · cases tier <;> assumption
    · rintro ⟨rates, factors, surcharges⟩
      exact ⟨rates .sedan, rates .suv, rates .luxury, rates .sports, factors .under20,
        factors .from20To24, factors .from25To65, factors .over65, surcharges .clean,
        surcharges .one, surcharges .twoOrMore⟩
  simp only [fields, Money.sameAmount, Decimal.same_amount_iff]
  exact ⟨fun ⟨rates, factors, surcharges⟩ => ⟨rates, factors, surcharges⟩,
    fun same => ⟨same.baseRate, same.ageFactor, same.accidentSurcharge⟩⟩

section Sections

variable {table : RateTable}

theorem base_rates_read_back {rate : VehicleCategory → Money}
    (reads : ∀ category, Form.money.ReadsBack (table.baseRate category) (rate category)) :
    baseRatesRecord.toForm.ReadsBack table.baseRates (baseRatesRecord.make rate) := by
  apply RecordForm.record_reads_back base_rates_are_shaped
  intro category
  cases category with
  | sedan => exact reads .sedan
  | suv => exact reads .suv
  | luxury => exact reads .luxury
  | sports => exact reads .sports

theorem age_factors_read_back {factor : AgeBracket → Decimal}
    (reads : ∀ bracket, Form.decimal.ReadsBack (table.ageFactor bracket) (factor bracket)) :
    ageFactorsRecord.toForm.ReadsBack table.ageFactors (ageFactorsRecord.make factor) := by
  apply RecordForm.record_reads_back age_factors_are_shaped
  intro bracket
  cases bracket with
  | under20 => exact reads .under20
  | from20To24 => exact reads .from20To24
  | from25To65 => exact reads .from25To65
  | over65 => exact reads .over65

theorem accident_surcharges_read_back {surcharge : AccidentTier → Money}
    (reads : ∀ tier, Form.money.ReadsBack (table.accidentSurcharge tier) (surcharge tier)) :
    accidentSurchargesRecord.toForm.ReadsBack table.accidentSurcharges
      (accidentSurchargesRecord.make surcharge) := by
  apply RecordForm.record_reads_back accident_surcharges_are_shaped
  intro tier
  cases tier with
  | clean => exact reads .clean
  | one => exact reads .one
  | twoOrMore => exact reads .twoOrMore

end Sections

theorem record_reads_back {table : RateTable}
    (rates : ∀ category, (table.baseRate category).amount.IsShort)
    (factors : ∀ bracket, (table.ageFactor bracket).IsShort)
    (surcharges : ∀ tier, (table.accidentSurcharge tier).amount.IsShort) :
    ∃ result, record.toForm.ReadsBack table result ∧ table.SameEntries result := by
  choose rate rateReads sameRate using fun category => Form.money_reads_back (rates category)
  choose factor factorReads sameFactor using
    fun bracket => Form.decimal_reads_back (factors bracket)
  choose surcharge surchargeReads sameSurcharge using
    fun tier => Form.money_reads_back (surcharges tier)
  refine ⟨⟨baseRatesRecord.make rate, ageFactorsRecord.make factor,
    accidentSurchargesRecord.make surcharge⟩, RecordForm.record_reads_back record_is_shaped ?_, ?_⟩
  · intro key
    cases key with
    | baseRates => exact base_rates_read_back rateReads
    | ageFactors => exact age_factors_read_back factorReads
    | accidentSurcharges => exact accident_surcharges_read_back surchargeReads
  · refine ⟨fun category => ?_, fun bracket => ?_, fun tier => ?_⟩
    · rw [Money.value, ← sameRate]
      cases category <;> rfl
    · rw [← sameFactor]
      cases bracket <;> rfl
    · rw [Money.value, ← sameSurcharge]
      cases tier <;> rfl

section Entries

variable (table : RateTable)

theorem base_rate_mem_entries (category : VehicleCategory) :
    ("baseRate." ++ category.name, (table.baseRate category).amount) ∈ table.entries := by
  refine List.mem_append_left _ (List.mem_append_left _ ?_)
  exact List.mem_map_of_mem (VehicleCategory.mem_all category)

theorem age_factor_mem_entries (bracket : AgeBracket) :
    (bracket.key, table.ageFactor bracket) ∈ table.entries := by
  refine List.mem_append_left _ (List.mem_append_right _ ?_)
  exact List.mem_map_of_mem (AgeBracket.mem_all bracket)

theorem accident_surcharge_mem_entries (tier : AccidentTier) :
    (tier.key, (table.accidentSurcharge tier).amount) ∈ table.entries :=
  List.mem_append_right _ (List.mem_map_of_mem (AccidentTier.mem_all tier))

theorem document_bytes :
    Utf8.encodeText table.document = Utf8.encode (record.toForm.write table).compact := by
  rw [Utf8.encodeText, document, String.toList_ofList]
  rfl

end Entries

theorem money_is_short {money : Money} (rounded : money.IsRounded)
    (digits : money.amount.FewDigits) : money.amount.IsShort where
  few_places := ((Money.is_rounded_iff_scale money).mp rounded).trans (by decide)
  few_digits := digits

/-- Entries with few digits survive the document: the table that is read back is equal. -/
theorem own_document_keeps_short_entries (table : RateTable) (rounded : table.IsRounded)
    (places : ∀ bracket, (table.ageFactor bracket).scale ≤ 22)
    (digits : ∀ entry ∈ table.entries, entry.2.FewDigits) :
    ∃ result, ofDocument (Utf8.encodeText table.document) = .ok result ∧
      table.sameAmounts result = true := by
  have rates : ∀ category, (table.baseRate category).amount.IsShort := fun category =>
    money_is_short (rounded.baseRate category) (digits _ (table.base_rate_mem_entries category))
  have factors : ∀ bracket, (table.ageFactor bracket).IsShort := fun bracket =>
    ⟨places bracket, digits _ (table.age_factor_mem_entries bracket)⟩
  have surcharges : ∀ tier, (table.accidentSurcharge tier).amount.IsShort := fun tier =>
    money_is_short (rounded.accidentSurcharge tier)
      (digits _ (table.accident_surcharge_mem_entries tier))
  obtain ⟨result, reads, same⟩ := record_reads_back rates factors surcharges
  have taken := Json.read_document_of_reads_back reads
  refine ⟨result, ?_, (same_amounts_iff table result).mpr same⟩
  rw [document_bytes]
  exact taken

/-- Entries at the limit, with no, four and twenty-two fraction digits, and a long whole number. -/
def atLimit : RateTable :=
  (((standard.withBaseRate .sedan (.whole 1801439850948198)).withBaseRate .suv
    (.ofDecimal (.literal true 1801439850948198 4))).withAgeFactor .under20
    (.literal false 1801439850948198 22)).withAgeFactor .over65
    (.literal false 20000000000000000000000 22)

theorem at_limit_is_rounded : atLimit.IsRounded where
  baseRate category := by
    rw [Money.is_rounded_iff_scale]
    cases category <;> decide
  accidentSurcharge tier := by
    rw [Money.is_rounded_iff_scale]
    cases tier <;> decide

theorem at_limit_survives :
    atLimit.IsRounded ∧ (∀ bracket, (atLimit.ageFactor bracket).scale ≤ 22) ∧
      (∀ entry ∈ atLimit.entries, entry.2.FewDigits) ∧
      ∃ result, ofDocument (Utf8.encodeText atLimit.document) = .ok result ∧
        atLimit.sameAmounts result = true := by
  have places : ∀ bracket, (atLimit.ageFactor bracket).scale ≤ 22 := by
    intro bracket
    cases bracket <;> decide
  have digits : ∀ entry ∈ atLimit.entries, entry.2.FewDigits := by
    simp only [entries, VehicleCategory.all, AgeBracket.all, AccidentTier.all, List.map_cons,
      List.map_nil, List.cons_append, List.nil_append, List.forall_mem_cons, List.not_mem_nil,
      false_imp_iff, implies_true, and_true]
    decide
  exact ⟨at_limit_is_rounded, places, digits,
    own_document_keeps_short_entries atLimit at_limit_is_rounded places digits⟩

def pastLimit : RateTable := standard.withBaseRate .sedan (.whole 1801439850948199)

theorem past_limit_is_rounded : pastLimit.IsRounded where
  baseRate category := by
    rw [Money.is_rounded_iff_scale]
    cases category <;> decide
  accidentSurcharge := standard_is_rounded.accidentSurcharge

theorem past_limit_read_back :
    ((ofDocument (Utf8.encode pastLimit.documentChars)).map fun result =>
      (result.baseRate .sedan).amount).toOption = some (.literal false 18014398509481993 1) := by
  decide +kernel

/-- So a table need not survive its own document. -/
theorem own_document_can_change_a_rate :
    ¬ ∀ table : RateTable, table.IsRounded → (∀ bracket, (table.ageFactor bracket).scale ≤ 22) →
      ∃ result, ofDocument (Utf8.encodeText table.document) = .ok result ∧
        table.sameAmounts result = true := by
  intro always
  have places : ∀ bracket, (pastLimit.ageFactor bracket).scale ≤ 22 := by
    intro bracket
    cases bracket <;> decide
  obtain ⟨result, read, same⟩ := always pastLimit past_limit_is_rounded places
  have changed := past_limit_read_back
  rw [Utf8.encodeText, document, String.toList_ofList] at read
  rw [read] at changed
  have sedan : (result.baseRate .sedan).amount = .literal false 18014398509481993 1 :=
    Option.some_inj.mp changed
  have kept := ((same_amounts_iff pastLimit result).mp same).baseRate .sedan
  rw [Money.value, Money.value, sedan, ← Decimal.same_amount_iff] at kept
  revert kept
  decide

end MotorTariff.RateTable
