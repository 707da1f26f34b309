import MotorTariff.Proofs.Decimal.Text
import MotorTariff.Proofs.Rates.RoundTrip

/-!
# The listing of a rate table

Each field of a table has a line of its own in the listing: a key, and the amount as it is written.
Keys and amounts hold neither line breaks nor blanks, so the lines and the two sides of a line are
found again, and the amounts are put back into the fields that the keys stand for.
-/

set_option autoImplicit false

namespace MotorTariff.RateTable

/-- The fields, each with the key that it is listed under. -/
def keyedFields (table : RateTable) : List (String × Decimal) :=
  [("baseRate.sedan", table.baseRates.sedan.amount),
    ("baseRate.suv", table.baseRates.suv.amount),
    ("baseRate.luxury", table.baseRates.luxury.amount),
    ("baseRate.sports", table.baseRates.sports.amount),
    ("ageFactor.16-19", table.ageFactors.under20),
    ("ageFactor.20-24", table.ageFactors.age20To24),
    ("ageFactor.25-65", table.ageFactors.age25To65),
    ("ageFactor.66+", table.ageFactors.age66Plus),
    ("accidentSurcharge.0", table.accidentSurcharges.none.amount),
    ("accidentSurcharge.1", table.accidentSurcharges.one.amount),
    ("accidentSurcharge.2+", table.accidentSurcharges.twoOrMore.amount)]

def listedKeys : List String := standard.keyedFields.map Prod.fst

/-- The table with an amount put into the field that a key stands for. -/
def place? (table : RateTable) (key : String) (amount : Decimal) : Option RateTable :=
  match key with
  | "baseRate.sedan" => some { table with baseRates.sedan := ⟨amount⟩ }
  | "baseRate.suv" => some { table with baseRates.suv := ⟨amount⟩ }
  | "baseRate.luxury" => some { table with baseRates.luxury := ⟨amount⟩ }
  | "baseRate.sports" => some { table with baseRates.sports := ⟨amount⟩ }
  | "ageFactor.16-19" => some { table with ageFactors.under20 := amount }
  | "ageFactor.20-24" => some { table with ageFactors.age20To24 := amount }
  | "ageFactor.25-65" => some { table with ageFactors.age25To65 := amount }
  | "ageFactor.66+" => some { table with ageFactors.age66Plus := amount }
  | "accidentSurcharge.0" => some { table with accidentSurcharges.none := ⟨amount⟩ }
  | "accidentSurcharge.1" => some { table with accidentSurcharges.one := ⟨amount⟩ }
  | "accidentSurcharge.2+" => some { table with accidentSurcharges.twoOrMore := ⟨amount⟩ }
  | _ => none

def pieces : List Char → List (List Char)
  | ' ' :: '=' :: ' ' :: rest => [] :: pieces rest
  | c :: rest => (pieces rest).modifyHead (c :: ·)
  | [] => [[]]

/-- The table with the amount of a line put where its key says. -/
def enterLine? (table : RateTable) (line : List Char) : Option RateTable := do
  match pieces line with
  | [key, value] => table.place? (String.ofList key) (← Decimal.ofChars? value)
  | _ => none

def line (entry : String × Decimal) : List Char :=
  entry.1.toList ++ (' ' :: '=' :: ' ' :: entry.2.chars)

def mapAmounts (replace : Decimal → Decimal) (table : RateTable) : RateTable where
  baseRates :=
    { sedan := ⟨replace table.baseRates.sedan.amount⟩
      suv := ⟨replace table.baseRates.suv.amount⟩
      luxury := ⟨replace table.baseRates.luxury.amount⟩
      sports := ⟨replace table.baseRates.sports.amount⟩ }
  ageFactors :=
    { under20 := replace table.ageFactors.under20
      age20To24 := replace table.ageFactors.age20To24
      age25To65 := replace table.ageFactors.age25To65
      age66Plus := replace table.ageFactors.age66Plus }
  accidentSurcharges :=
    { none := ⟨replace table.accidentSurcharges.none.amount⟩
      one := ⟨replace table.accidentSurcharges.one.amount⟩
      twoOrMore := ⟨replace table.accidentSurcharges.twoOrMore.amount⟩ }

section Fields

variable (table : RateTable)

/-- Walking through categories, brackets and tiers comes to each field once, under its own key. -/
theorem entries_eq_keyed_fields : table.entries = table.keyedFields := rfl

theorem keyed_fields_keys : table.keyedFields.map Prod.fst = listedKeys := rfl

theorem listed_keys_nodup : listedKeys.Nodup := by decide

theorem keyed_fields_injective {left right : RateTable}
    (same : left.keyedFields = right.keyedFields) : left = right := by
  obtain ⟨⟨⟨_⟩, ⟨_⟩, ⟨_⟩, ⟨_⟩⟩, ⟨_, _, _, _⟩, ⟨⟨_⟩, ⟨_⟩, ⟨_⟩⟩⟩ := left
  obtain ⟨⟨⟨_⟩, ⟨_⟩, ⟨_⟩, ⟨_⟩⟩, ⟨_, _, _, _⟩, ⟨⟨_⟩, ⟨_⟩, ⟨_⟩⟩⟩ := right
  simpa [keyedFields, and_assoc] using same

theorem keyed_fields_map_amounts (replace : Decimal → Decimal) :
    (table.mapAmounts replace).keyedFields =
      table.keyedFields.map fun entry => (entry.1, replace entry.2) := rfl

theorem place_keyed_fields (replace : Decimal → Decimal) (start : RateTable) :
    table.keyedFields.foldlM (fun placed entry => place? placed entry.1 (replace entry.2)) start =
      some (table.mapAmounts replace) := by
  simp [keyedFields, place?, mapAmounts]

theorem map_amounts_same {replace : Decimal → Decimal}
    (same : ∀ amount, (replace amount).toRat = amount.toRat) :
    (table.mapAmounts replace).sameAmounts table = true := by
  rw [same_amounts_iff]
  refine ⟨fun category => ?_, fun bracket => ?_, fun tier => ?_⟩
  · cases category <;> exact same _
  · cases bracket <;> exact same _
  · cases tier <;> exact same _

end Fields

section Lines

theorem pieces_cons {c : Char} (rest : List Char) (mark : c ≠ ' ') :
    pieces (c :: rest) = (pieces rest).modifyHead (c :: ·) := by
  rw [pieces]
  rintro _ rfl
  exact absurd rfl mark

theorem pieces_append {chars : List Char} (noBlank : ' ' ∉ chars) (rest : List Char) :
    pieces (chars ++ rest) = (pieces rest).modifyHead (chars ++ ·) := by
  induction chars with
  | nil => exact (congrFun List.modifyHead_id (pieces rest)).symm
  | cons c chars induction =>
      have mark := List.ne_of_not_mem_cons noBlank
      have later := List.not_mem_of_not_mem_cons noBlank
      rw [List.cons_append, pieces_cons _ (Ne.symm mark), induction later,
        List.modifyHead_modifyHead]
      rfl

theorem lines_of_breaks {lines : List (List Char)} (noBreak : ∀ line ∈ lines, '\n' ∉ line) :
    (lines.flatMap (· ++ ['\n'])).splitOn '\n' = lines ++ [[]] := by
  induction lines with
  | nil => rfl
  | cons line lines induction =>
      obtain ⟨own, later⟩ := List.forall_mem_cons.mp noBreak
      rw [List.flatMap_cons, List.append_assoc, List.singleton_append,
        List.splitOn_append_cons_self_of_not_mem own, induction later, List.cons_append]

theorem key_has_no_blank : ∀ key ∈ listedKeys, ' ' ∉ key.toList ∧ '\n' ∉ key.toList := by
  decide

theorem amount_has_no_blank (amount : Decimal) : ' ' ∉ amount.chars ∧ '\n' ∉ amount.chars := by
  constructor <;>
    · intro written
      have mark := amount.mem_chars written
      revert mark
      decide

variable (table : RateTable)

theorem field_key_has_no_blank : ∀ entry ∈ table.keyedFields,
    ' ' ∉ entry.1.toList ∧ '\n' ∉ entry.1.toList := by
  intro entry member
  exact key_has_no_blank _ (table.keyed_fields_keys ▸ List.mem_map_of_mem member)

theorem line_has_no_break : ∀ entry ∈ table.keyedFields, '\n' ∉ line entry := by
  intro entry member
  simp [line, (table.field_key_has_no_blank entry member).2, amount_has_no_blank]

theorem pieces_of_line : ∀ entry ∈ table.keyedFields,
    pieces (line entry) = [entry.1.toList, entry.2.chars] := by
  intro entry member
  have value := pieces_append (amount_has_no_blank entry.2).1 []
  rw [List.append_nil] at value
  rw [line, pieces_append (table.field_key_has_no_blank entry member).1, pieces, value]
  simp [pieces]

theorem pieces_of_lines :
    (table.keyedFields.map line).map pieces =
      table.keyedFields.map fun entry => [entry.1.toList, entry.2.chars] := by
  rw [List.map_map]
  exact List.map_congr_left table.pieces_of_line

theorem listing_lines :
    table.listing.toList = (table.keyedFields.map line).flatMap (· ++ ['\n']) := by
  have each : ∀ entry : String × Decimal,
      (entry.1 ++ " = " ++ entry.2.text ++ "\n").toList = line entry ++ ['\n'] := by
    intro entry
    simp [line, Decimal.text]
  rw [listing, entries_eq_keyed_fields, String.toList_join]
  simp only [List.flatMap_map, each]

theorem split_listing :
    table.listing.toList.splitOn '\n' = table.keyedFields.map line ++ [[]] := by
  rw [listing_lines]
  apply lines_of_breaks
  rw [List.forall_mem_map]
  exact table.line_has_no_break

theorem foldlM_enter_line {reread : Decimal → Decimal}
    (taken : ∀ amount : Decimal, Decimal.ofChars? amount.chars = some (reread amount))
    (start : RateTable) :
    (table.keyedFields.map line).foldlM enterLine? start = some (table.mapAmounts reread) := by
  have entered : ∀ entry ∈ table.keyedFields, ∀ placed,
      enterLine? placed (line entry) = place? placed entry.1 (reread entry.2) := by
    intro entry member placed
    rw [enterLine?, table.pieces_of_line entry member]
    dsimp only
    rw [taken, String.ofList_toList]
    rfl
  rw [← table.place_keyed_fields reread start]
  generalize table.keyedFields = entries at entered ⊢
  induction entries generalizing start with
  | nil => rfl
  | cons entry entries induction =>
      obtain ⟨first, later⟩ := List.forall_mem_cons.mp entered
      rw [List.map_cons, List.foldlM_cons, List.foldlM_cons, first]
      congr 1
      funext placed
      exact induction placed later

theorem lines_injective {left right : RateTable}
    (same : left.keyedFields.map line = right.keyedFields.map line) : left = right := by
  have sides := congrArg (List.map pieces) same
  rw [pieces_of_lines, pieces_of_lines] at sides
  apply keyed_fields_injective
  refine List.map_injective_iff.mpr ?_ sides
  intro entry other pair
  simp only [List.cons.injEq, and_true, String.toList_inj] at pair
  exact Prod.ext pair.1 (Decimal.eq_of_chars pair.2)

end Lines

/-- The listing is eleven lines, each of them one key, a separator and one amount. The keys are
distinct and the same for all tables, each stands for one field, and the amounts put into the fields
of their keys are an equal table with the same places; tables that are listed alike are the same. -/
theorem listing_is_lossless (table : RateTable) :
    ∃ lines : List (List Char), table.listing.toList.splitOn '\n' = lines ++ [[]] ∧
      lines.length = 11 ∧ listedKeys.Nodup ∧ table.keyedFields.map Prod.fst = listedKeys ∧
      lines.map pieces =
        table.keyedFields.map (fun (key, amount) => [key.toList, amount.chars]) ∧
      (∃ read, (∀ start, lines.foldlM enterLine? start = some read) ∧
        read.sameAmounts table = true ∧
        read.keyedFields.map (fun (_, amount) => amount.scale) =
          table.keyedFields.map (fun (_, amount) => amount.scale)) ∧
      ∀ other : RateTable, table.listing = other.listing → table = other := by
  choose reread taken same scale using Decimal.read_own_amount
  refine ⟨table.keyedFields.map line, table.split_listing, rfl, listed_keys_nodup,
    table.keyed_fields_keys, table.pieces_of_lines, ?_, ?_⟩
  · refine ⟨table.mapAmounts reread, table.foldlM_enter_line taken, table.map_amounts_same same, ?_⟩
    rw [keyed_fields_map_amounts, List.map_map]
    exact List.map_congr_left fun entry _ => scale entry.2
  · intro other same
    have split := split_listing table
    rw [same, split_listing other] at split
    exact lines_injective (List.append_cancel_right split).symm

/-- The middle factor with its own digits, and the same factor with one more place. -/
theorem longer_factor_is_listed_apart :
    let table (factor : Decimal) := standard.withAgeFactor .from25To65 factor
    standard = table (.literal false 10 1) ∧
      standard.sameAmounts (table (.literal false 100 2)) = true ∧
      standard.listing ≠ (table (.literal false 100 2)).listing := by
  intro table
  obtain ⟨lines, -, -, -, -, -, -, alike⟩ := listing_is_lossless standard
  have own : standard.listing = (table (.literal false 10 1)).listing := by
    rw [← String.toList_inj, listing_lines, listing_lines]
    rfl
  refine ⟨alike _ own, by decide, ?_⟩
  intro same
  have changed := congrArg (fun table => table.ageFactors.age25To65) (alike _ same)
  revert changed
  decide

end MotorTariff.RateTable
