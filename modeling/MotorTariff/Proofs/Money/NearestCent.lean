import MotorTariff.Proofs.Decimal.HalfAway
import MotorTariff.Proofs.Decimal.Text

/-!
# The shown amount is the nearest cent

An amount is shown as dollars and two digits of cents, with no zeros in front that say nothing. The
number that the text spells is the multiple of a cent nearest to the amount, and the reader of
decimals takes the text for that number, also where the two places make a mantissa that it cannot
hold. Rounding to cents keeps the order, so the shown amounts are ordered as the amounts are.
-/

set_option autoImplicit false

namespace MotorTariff

/-- A dollar sign, perhaps a minus sign, an integer part, a point, and the cents. -/
structure DollarText where
  negative : Bool
  dollars : List Char
  cents : List Char
  integer_part : Digits.IsIntegerPart dollars
  cents_digits : ∀ c ∈ cents, c.isDigit = true
  two_cents : cents.length = 2

namespace DollarText

def text (shown : DollarText) : String :=
  String.ofList
    ('$' :: ((if shown.negative then ['-'] else []) ++ shown.dollars ++ '.' :: shown.cents))

/-- What the digits spell, with the sign. -/
def number (shown : DollarText) : Rat :=
  let magnitude : Rat :=
    Nat.ofDigitChars 10 shown.dollars 0 + (Nat.ofDigitChars 10 shown.cents 0 : Rat) / 100
  if shown.negative then -magnitude else magnitude

/-- The text of a whole number of cents. -/
def ofCents (negative : Bool) (cents : Nat) : DollarText where
  negative
  dollars := Nat.toDigits 10 (cents / 10 ^ 2)
  cents := Digits.fixed 2 (cents % 10 ^ 2)
  integer_part := Digits.to_digits_is_integer_part _
  cents_digits := Digits.fixed_are_digits _ 2
  two_cents := Digits.length_fixed ..

theorem number_of_cents (negative : Bool) (cents : Nat) :
    (ofCents negative cents).number =
      (if negative then -(cents : Rat) else cents) / 100 := by
  have split := Rounding.quotient_split cents (by decide : 0 < 100)
  have joined : ((cents / 100 : Nat) : Rat) + (cents % 100 : Nat) / 100 = cents / 100 := by
    exact_mod_cast split.symm
  simp only [number, ofCents, Nat.ofDigitChars_ten_toDigits, Digits.spelled_of_fixed, Nat.reducePow,
    Nat.mod_mod, joined]
  cases negative with
  | false => rfl
  | true => exact (neg_div _ _).symm

end DollarText

namespace Money

open Decimal Rounding

def decimalOfText? (text : String) : Option Decimal :=
  match text.toList with
  | '$' :: number => ofChars? number
  | _ => none

/-- The multiple of a cent that no other is nearer to the amount than, and of two as near the one
that is farther from zero. -/
structure IsNearestCent (amount shown : Rat) : Prop where
  whole : ∃ cents : Int, shown = cents / 100
  nearest : ∀ cents : Int, |amount - shown| ≤ |amount - cents / 100|
  away : ∀ cents : Int, |amount - cents / 100| = |amount - shown| → |(cents : Rat) / 100| ≤ |shown|

theorem away_at_is_nearest_cent (x : Rat) : IsNearestCent x (awayAt shownPlaces x) := by
  have places : (10 : Rat) ^ shownPlaces = 100 := by norm_num [shownPlaces]
  have distance : ∀ n : Int, |x - (n : Rat) / 100| = |x * 100 - n| / 100 := by
    intro n
    have scaled : x - (n : Rat) / 100 = (x * 100 - n) / 100 := by ring
    rw [scaled, abs_div, abs_of_pos (by norm_num : (0 : Rat) < 100)]
  have magnitude : ∀ n : Int, |(n : Rat) / 100| = (|n| : Int) / 100 := by
    intro n
    rw [abs_div, abs_of_pos (by norm_num : (0 : Rat) < 100), Int.cast_abs]
  have spec := half_away_spec (x * 100)
  rw [awayAt, places]
  constructor
  case whole => exact ⟨halfAway (x * 100), rfl⟩
  case nearest =>
    intro cents
    rw [distance, distance]
    exact div_le_div_of_nonneg_right (spec.nearest cents) (by norm_num)
  case away =>
    intro cents tie
    rw [distance, distance, div_left_inj' (by norm_num)] at tie
    have farther := spec.away cents tie
    rw [magnitude, magnitude]
    exact div_le_div_of_nonneg_right (by exact_mod_cast farther) (by norm_num)

theorem display_is_dollar_text (money : Money) :
    ∃ shown : DollarText, money.display = shown.text ∧
      shown.number = money.roundToCents.value := by
  have within : money.roundToCents.amount.scale ≤ 2 := scale_round_le ..
  let cents := money.roundToCents.amount.mantissa * 10 ^ (2 - money.roundToCents.amount.scale)
  refine ⟨.ofCents money.roundToCents.amount.negative cents, rfl, ?_⟩
  have value := signed_at_quotient money.roundToCents.amount within
  rw [DollarText.number_of_cents, Money.value, ← value, signedAt, signed]
  cases money.roundToCents.amount.negative with
  | false => norm_num [cents]
  | true => norm_num [cents]

theorem decimal_of_display (money : Money) :
    ∃ read, decimalOfText? money.display = some read ∧
      read.toRat = money.roundToCents.value := by
  have within : money.roundToCents.amount.scale ≤ shownPlaces := scale_round_le ..
  obtain ⟨read, accepted, same⟩ := read_with_places money.roundToCents.amount within
  refine ⟨read, ?_, same⟩
  rw [decimalOfText?, display, String.toList_ofList]
  exact accepted

/-- Every amount is shown in dollars and cents, its text spells and is read as the nearest cent, and
a smaller amount is never shown as a larger number. -/
theorem display_is_nearest_cent :
    (∀ money : Money, ∃ (shown : DollarText) (read : Decimal),
      money.display = shown.text ∧ decimalOfText? money.display = some read ∧
      read.toRat = shown.number ∧ IsNearestCent money.value shown.number) ∧
    ∀ smaller larger : Money, (smaller.compare larger).isLE = true →
      ∀ first second, decimalOfText? smaller.display = some first →
        decimalOfText? larger.display = some second → first.toRat ≤ second.toRat := by
  constructor
  · intro money
    obtain ⟨shown, written, number⟩ := display_is_dollar_text money
    obtain ⟨read, accepted, value⟩ := decimal_of_display money
    refine ⟨shown, read, written, accepted, value.trans number.symm, ?_⟩
    rw [number, round_to_cents_value]
    exact away_at_is_nearest_cent money.value
  · intro smaller larger order first second firstRead secondRead
    obtain ⟨firstKnown, firstAccepted, firstValue⟩ := decimal_of_display smaller
    obtain ⟨secondKnown, secondAccepted, secondValue⟩ := decimal_of_display larger
    rw [firstRead, Option.some.injEq] at firstAccepted
    rw [secondRead, Option.some.injEq] at secondAccepted
    rw [firstAccepted, secondAccepted, firstValue, secondValue, round_to_cents_value,
      round_to_cents_value]
    exact away_at_mono shownPlaces ((compare_is_le_iff smaller larger).mp order)

/-- A tie below zero, and a mantissa that has no room for the second place. -/
theorem tie_is_shown_below_largest_tenths :
    let smaller : Money := ⟨.literal true 125 3⟩
    let larger : Money := ⟨.literal false 79228162514264337593543950335 1⟩
    smaller.display = "$-0.13" ∧ larger.display = "$7922816251426433759354395033.50" ∧
    (smaller.compare larger).isLE = true ∧
    ∃ first second, decimalOfText? smaller.display = some first ∧
      decimalOfText? larger.display = some second ∧ first.toRat ≤ second.toRat := by
  intro smaller larger
  have order : (smaller.compare larger).isLE = true := by decide +kernel
  have firstRead : decimalOfText? smaller.display = some (.literal true 13 2) := by
    decide +kernel
  have secondRead : decimalOfText? larger.display =
      some (.literal false 79228162514264337593543950335 1) := by
    decide +kernel
  have ordered := display_is_nearest_cent.2 smaller larger order _ _ firstRead secondRead
  exact ⟨by decide +kernel, by decide +kernel, order, _, _, firstRead, secondRead, ordered⟩

end Money

end MotorTariff
