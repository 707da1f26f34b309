import Mathlib.Data.List.Infix
import MotorTariff.Proofs.Money.Shown
import MotorTariff.Proofs.Premium.Accumulator

/-!
# A printed breakdown adds up

Each line of a breakdown shows its own amount rounded to cents, and the last one the rounded total.
The amounts are read back off the text line by line. Together they miss the printed total by half a
cent for each line at most, since the total itself is exact, and amounts of whole cents add up to
it.
-/

set_option autoImplicit false

namespace MotorTariff.Premium

section Reading

/-- The amount of a line between two known texts, and what follows the line. -/
def lineAmount? (before after : String) (chars : List Char) : Option (Rat × List Char) := do
  let (amount, chars) ← Money.amountAt? (← chars.dropPrefix? before.toList)
  return (amount, ← chars.dropPrefix? (after ++ "\n").toList)

def adjustmentAmounts? : List Adjustment → List Char → Option (List Rat × List Char)
  | [], chars => some ([], chars)
  | adjustment :: others, chars => do
      let (amount, chars) ←
        lineAmount? (adjustment.label ++ " Adjustment: ") (" - " ++ adjustment.explanation) chars
      let (amounts, chars) ← adjustmentAmounts? others chars
      return (amount :: amounts, chars)

structure PrintedAmounts where
  baseRate : Rat
  adjustments : List Rat
  total : Rat

/-- The amounts that a breakdown shows, if it is made of the lines of this premium and no others. -/
def printedAmounts? (premium : Premium) (breakdown : String) : Option PrintedAmounts := do
  let (baseRate, chars) ← lineAmount? "Base Rate: " "" breakdown.toList
  let (adjustments, chars) ← adjustmentAmounts? premium.adjustments chars
  let (total, chars) ← lineAmount? "Total Premium: " "" chars
  if chars = [] then some ⟨baseRate, adjustments, total⟩ else none

variable (rest : List Char)

theorem line_amount_of_line (before : String) (money : Money) {after : String}
    (ends : ∀ c ∈ after.toList.head?, c.isDigit = false) :
    lineAmount? before after ((before ++ money.display ++ after ++ "\n").toList ++ rest) =
      some (money.roundToCents.value, rest) := by
  have line : (before ++ money.display ++ after ++ "\n").toList ++ rest =
      before.toList ++ (money.display.toList ++ ((after ++ "\n").toList ++ rest)) := by
    simp only [String.toList_append, List.append_assoc]
  have lineEnds : ∀ c ∈ ((after ++ "\n").toList ++ rest).head?, c.isDigit = false := by
    intro c first
    rw [String.toList_append] at first
    cases known : after.toList with
    | nil =>
        rw [known] at first
        cases first
        rfl
    | cons other chars =>
        rw [known] at first
        exact ends c (known ▸ first)
  unfold lineAmount?
  rw [line, List.dropPrefix?_append_of_beq _ (beq_self_eq_true _)]
  simp only [Option.bind_eq_bind, Option.bind_some]
  rw [Money.amount_at_display money lineEnds]
  simp only [Option.bind_some]
  rw [List.dropPrefix?_append_of_beq _ (beq_self_eq_true _)]
  rfl

theorem adjustment_amounts_of_lines (adjustments : List Adjustment) :
    adjustmentAmounts? adjustments
        ((String.join (adjustments.map adjustmentLine)).toList ++ rest) =
      some (adjustments.map fun adjustment => adjustment.amount.roundToCents.value, rest) := by
  induction adjustments with
  | nil => rw [List.map_nil, String.join_nil]; rfl
  | cons adjustment others ih =>
      have ends : ∀ c ∈ (" - " ++ adjustment.explanation).toList.head?, c.isDigit = false := by
        rw [String.toList_append]
        rintro _ ⟨⟩
        rfl
      have line := line_amount_of_line ((String.join (others.map adjustmentLine)).toList ++ rest)
        (adjustment.label ++ " Adjustment: ") adjustment.amount ends
      have same : adjustment.label ++ " Adjustment: " ++ adjustment.amount.display ++
          (" - " ++ adjustment.explanation) ++ "\n" = adjustmentLine adjustment := by
        simp only [adjustmentLine, String.append_assoc]
      rw [same] at line
      rw [List.map_cons, String.join_cons, String.toList_append, List.append_assoc,
        adjustmentAmounts?, line]
      simp only [Option.bind_eq_bind, Option.bind_some]
      rw [ih]
      rfl

theorem printed_amounts_of_breakdown {premium : Premium} {total : Money}
    (totalled : premium.total = .ok total) :
    ∃ text, premium.breakdown = .ok text ∧
      premium.printedAmounts? text =
        some ⟨premium.baseRate.roundToCents.value,
          premium.amounts.map fun money => money.roundToCents.value,
          total.roundToCents.value⟩ := by
  have noDigit : ∀ c ∈ "".toList.head?, c.isDigit = false := by
    exact fun _ => nofun
  let adjustmentLines := String.join (premium.adjustments.map adjustmentLine)
  have baseLine :=
    line_amount_of_line (adjustmentLines.toList ++ ((totalLine total).toList ++ []))
      "Base Rate: " premium.baseRate noDigit
  have lines := adjustment_amounts_of_lines ((totalLine total).toList ++ []) premium.adjustments
  have lastLine := line_amount_of_line [] "Total Premium: " total noDigit
  rw [String.append_empty] at baseLine lastLine
  change lineAmount? _ _ ((totalLine total).toList ++ []) = _ at lastLine
  change lineAmount? _ _ ((baseRateLine premium.baseRate).toList ++ _) = _ at baseLine
  have written : (baseRateLine premium.baseRate ++ adjustmentLines ++ totalLine total).toList =
      (baseRateLine premium.baseRate).toList ++
        (adjustmentLines.toList ++ ((totalLine total).toList ++ [])) := by
    simp only [String.toList_append, List.append_assoc, List.append_nil]
  refine ⟨baseRateLine premium.baseRate ++ adjustmentLines ++ totalLine total, ?_, ?_⟩
  · rw [breakdown, totalled]
    rfl
  · unfold printedAmounts?
    rw [written, baseLine]
    simp only [Option.bind_eq_bind, Option.bind_some]
    rw [lines]
    simp only [Option.bind_some]
    rw [lastLine, amounts, List.map_map]
    rfl

end Reading

section Rounding

variable (amounts : List Money)

theorem abs_shown_sum_sub_le :
    |(amounts.map fun money => money.roundToCents.value).sum - (amounts.map Money.value).sum| ≤
      0.005 * amounts.length := by
  induction amounts with
  | nil => simp
  | cons money rest ih =>
      have head := Money.abs_shown_sub_le money
      have split : (((money :: rest).map fun money => money.roundToCents.value).sum -
          ((money :: rest).map Money.value).sum) =
          (money.roundToCents.value - money.value) +
            ((rest.map fun money => money.roundToCents.value).sum -
              (rest.map Money.value).sum) := by
        simp only [List.map_cons, List.sum_cons]
        ring
      rw [split, List.length_cons]
      push_cast
      refine (abs_add_le _ _).trans ?_
      linarith

/-- Whole cents of any sign, as a number of dollars. -/
def IsWholeCents (amount : Rat) : Prop := ∃ cents : Int, amount = cents / 100

variable {amounts}

theorem shown_sum_of_whole_cents (whole : ∀ money ∈ amounts, IsWholeCents money.value) :
    (amounts.map fun money => money.roundToCents.value).sum = (amounts.map Money.value).sum := by
  congr 1
  apply List.map_congr_left
  intro money member
  obtain ⟨cents, value⟩ := whole money member
  exact Money.shown_of_whole_cents value

theorem whole_cents_sum (whole : ∀ money ∈ amounts, IsWholeCents money.value) :
    IsWholeCents (amounts.map Money.value).sum := by
  induction amounts with
  | nil => exact ⟨0, by simp⟩
  | cons money rest ih =>
      obtain ⟨cents, value⟩ := whole money List.mem_cons_self
      obtain ⟨others, sum⟩ := ih fun other member => whole other (List.mem_cons_of_mem _ member)
      refine ⟨cents + others, ?_⟩
      rw [List.map_cons, List.sum_cons, value, sum]
      push_cast
      ring

end Rounding

/-- The amounts printed for a premium within the capacity, read as exact numbers: base rate and
adjustments together miss the total by half a cent for every printed line at most, and they are
equal to it if all amounts are whole cents. -/
theorem printed_amounts_reconcile {premium : Premium} (rounded : premium.IsRounded)
    (fits : premium.magnitude < Money.capacity) :
    ∃ text printed, premium.breakdown = .ok text ∧ premium.printedAmounts? text = some printed ∧
      printed.adjustments.length = premium.adjustments.length ∧
      |printed.baseRate + printed.adjustments.sum - printed.total| ≤
        0.005 * (premium.adjustments.length + 2) ∧
      ((∀ money ∈ premium.baseRate :: premium.amounts, IsWholeCents money.value) →
        printed.baseRate + printed.adjustments.sum = printed.total) := by
  obtain ⟨total, totalled, exact⟩ := total_is_exact rounded fits
  obtain ⟨text, rendered, read⟩ := printed_amounts_of_breakdown totalled
  have count : premium.amounts.length = premium.adjustments.length := List.length_map _
  refine ⟨text, _, rendered, read, by simp [count], ?_, ?_⟩
  · have baseRate := Money.abs_shown_sub_le premium.baseRate
    have adjustments := abs_shown_sum_sub_le premium.amounts
    have last := Money.abs_shown_sub_le total
    rw [exact, exactTotal] at last
    rw [count] at adjustments
    rw [abs_le] at baseRate adjustments last ⊢
    constructor <;> linarith
  · intro whole
    have adjustmentsWhole : ∀ money ∈ premium.amounts, IsWholeCents money.value := by
      intro money member
      exact whole money (List.mem_cons_of_mem _ member)
    obtain ⟨cents, baseValue⟩ := whole premium.baseRate List.mem_cons_self
    obtain ⟨others, sum⟩ := whole_cents_sum adjustmentsWhole
    have totalWhole : total.value = ((cents + others : Int) : Rat) / 100 := by
      rw [exact, exactTotal, baseValue, sum]
      push_cast
      ring
    dsimp only
    rw [Money.shown_of_whole_cents baseValue, shown_sum_of_whole_cents adjustmentsWhole,
      Money.shown_of_whole_cents totalWhole, exact, exactTotal]

/-- Half cents on every line, a credit, and a label that looks like lines of its own. -/
def halfCentPremium : Premium where
  baseRate := .ofDecimal (.literal false 5 3)
  adjustments :=
    [⟨"Total Premium: $1.00\n", .ofDecimal (.literal false 5 3), "$2.00"⟩,
      ⟨"Credit", .ofDecimal (.literal true 12345 3), " - $3.00"⟩]

theorem half_cent_premium_reconciles :
    ∃ text printed, halfCentPremium.breakdown = .ok text ∧
      halfCentPremium.printedAmounts? text = some printed ∧ printed.adjustments.length = 2 ∧
      |printed.baseRate + printed.adjustments.sum - printed.total| ≤ 0.005 * (2 + 2) := by
  have rounded : halfCentPremium.IsRounded := by
    constructor
    · exact ⟨_, rfl⟩
    · simp only [Money.is_rounded_iff_scale]
      decide
  obtain ⟨text, printed, rendered, read, count, near, -⟩ :=
    printed_amounts_reconcile rounded (by decide +kernel)
  exact ⟨text, printed, rendered, read, count, near⟩

def smallPremium : Premium where
  baseRate := .ofDecimal (.literal false 4 3)
  adjustments := []

/-- Printed amounts may add up by chance, so that they do says nothing about whole cents. -/
theorem agreement_without_whole_cents :
    ¬ ∀ premium : Premium, premium.IsRounded → premium.magnitude < Money.capacity →
      ∀ text printed, premium.breakdown = .ok text →
        premium.printedAmounts? text = some printed →
          (printed.baseRate + printed.adjustments.sum = printed.total ↔
            ∀ money ∈ premium.baseRate :: premium.amounts, IsWholeCents money.value) := by
  intro agreement
  have rounded : smallPremium.IsRounded := ⟨⟨_, rfl⟩, nofun⟩
  have totalled : smallPremium.total = .ok smallPremium.baseRate := by rfl
  obtain ⟨text, rendered, read⟩ := printed_amounts_of_breakdown totalled
  have shown : smallPremium.baseRate.roundToCents.value = 0 := by decide +kernel
  have exactly := agreement smallPremium rounded (by decide +kernel) text _ rendered read
  dsimp only at exactly
  rw [shown] at exactly
  have noLines : smallPremium.amounts = [] := rfl
  have agree : 0 + (smallPremium.amounts.map fun money => money.roundToCents.value).sum = 0 := by
    rw [noLines, List.map_nil, List.sum_nil, add_zero]
  obtain ⟨cents, value⟩ := exactly.mp agree smallPremium.baseRate List.mem_cons_self
  have amount : smallPremium.baseRate.value = 4 / 1000 := by decide +kernel
  rw [amount] at value
  have scaled : (cents * 10 : Rat) = 4 := by linarith
  have integral : cents * 10 = 4 := by exact_mod_cast scaled
  omega

end MotorTariff.Premium
