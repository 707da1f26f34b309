import MotorTariff.Proofs.Decimal.ShortDouble
import MotorTariff.Proofs.Decimal.Text
import MotorTariff.Proofs.Json.Float
import MotorTariff.Proofs.Json.RoundTrip
import MotorTariff.Proofs.Money.Stored

/-!
# Reading back an amount that was written

An amount is written as the double that stands for it. With few enough digits the text of that
double spells the amount itself, in a significand and a power of ten that are both doubles, so one
division reads the same double again. The plain digits of that double are then read as the amount.
-/

set_option autoImplicit false

namespace MotorTariff

-- Powers are the core library's own, also where other libraries define some.
attribute [local instance (high)] instPowNat

namespace Binary64

theorem same_of_magnitude {x y : Binary64} (magnitude : x.magnitude = y.magnitude)
    (negative : x.negative = y.negative) : x = y := by
  have units : (x.units : Rat) = y.units := by
    rw [units_eq_magnitude_mul, units_eq_magnitude_mul, magnitude]
  cases x
  cases y
  exact congrArg₂ Binary64.mk negative (by exact_mod_cast units)

theorem leading_lt_of_whole {found : Shortest} (plain : found.digits = 0 → found.exponent = 0)
    (nonneg : 0 ≤ found.exponent) {bound : Nat} (some : 0 < bound)
    (whole : found.digits * 10 ^ found.exponent.toNat < 10 ^ bound) : found.leading < bound := by
  unfold Shortest.leading
  rcases Nat.eq_zero_or_pos found.digits with zero | positive
  · rw [plain zero, zero, Nat.toDigits_zero, List.length_singleton]
    omega
  · have shift : found.exponent.toNat < bound :=
      (Nat.pow_lt_pow_iff_right (by decide : 1 < 10)).mp
        (Nat.lt_of_le_of_lt (Nat.le_mul_of_pos_left _ positive) whole)
    rw [← Nat.sub_add_cancel shift.le, Nat.pow_add] at whole
    have length := (Nat.length_toDigits_le_iff (by decide) (Nat.sub_pos_of_lt shift)).mpr
      (Nat.lt_of_mul_lt_mul_right whole)
    omega

theorem spelled_of_spells {found : Shortest} {n t : Nat} (spells : Spells found n t)
    (places : t ≤ 22) (small : n ≤ exactLimit) :
    ∃ k : Nat, 0 < k ∧ k ≤ 22 ∧ found.spelled.2 = -(k : Int) ∧
      rounded (found.spelled.1 : Nat) = (found.spelled.1 : Nat) ∧
      (found.spelled.1 : Rat) / 10 ^ k = n / 10 ^ t := by
  have digits := spells.digits_le
  have value := spells.value
  have least := spells.places
  unfold Shortest.spelled
  split_ifs with whole
  · obtain ⟨shift, exponent⟩ : ∃ shift : Nat, found.exponent = shift :=
      ⟨found.exponent.toNat, by omega⟩
    rw [exponent, Int.toNat_natCast] at digits ⊢
    rw [exponent, zpow_natCast] at value
    have five : 5 * (found.digits * 10 ^ shift) < 2 ^ 53 := by
      unfold exactLimit at small
      omega
    have even : ((found.digits * 10 ^ (shift + 1) : Nat) : Rat) =
        ((5 * (found.digits * 10 ^ shift) : Nat) : Rat) * 2 ^ 1 := by
      push_cast
      ring
    refine ⟨1, by decide, by decide, rfl, ?_, ?_⟩
    · rw [even, rounded_of_bits five]
    · rw [← value, Nat.cast_mul, Nat.cast_pow, pow_succ, pow_one]
      push_cast
      ring
  · have few : found.digits ≤ n :=
      (Nat.le_mul_of_pos_right _ (Nat.pow_pos (by decide))).trans digits
    have below : found.exponent < 0 := by
      by_contra nonneg
      have bound : found.digits * 10 ^ found.exponent.toNat < 10 ^ 16 :=
        Nat.lt_of_le_of_lt (digits.trans small) (by decide)
      have leading := leading_lt_of_whole spells.zero_plain (by omega) (by decide) bound
      omega
    obtain ⟨k, exponent⟩ : ∃ k : Nat, found.exponent = -(k : Int) :=
      ⟨(-found.exponent).toNat, by omega⟩
    refine ⟨k, by omega, by omega, exponent, ?_, ?_⟩
    · refine rounded_of_nat ?_
      unfold exactLimit at small
      omega
    · rw [← value, exponent, zpow_neg, zpow_natCast, div_eq_mul_inv]

end Binary64

namespace Decimal

open Binary64

theorem signed_quotient_eq (negative : Bool) {mantissa scale n t : Nat}
    (same : (mantissa : Rat) / 10 ^ scale = n / 10 ^ t) :
    signedQuotient negative mantissa scale = signedQuotient negative n t := by
  unfold signedQuotient
  cases negative with
  | false => exact same
  | true => rw [if_pos rfl, if_pos rfl, neg_div, neg_div, same]

theorem to_rat_with_double_sign (amount : Decimal) :
    amount.toRat =
      signedQuotient amount.toBinary64.negative amount.mantissa amount.scale := by
  rw [to_rat_eq_signed_quotient]
  rcases Nat.eq_zero_or_pos amount.mantissa with zero | positive
  · simp [signedQuotient, zero]
  · have sign : amount.toBinary64.negative = amount.negative := by
      rcases eq_or_ne amount.scale 0 with whole | fraction
      · rw [toBinary64, if_pos whole]
        simp [Binary64.withSign, isZero, positive.ne']
      · rw [to_binary64_of_fraction amount fraction]
        rfl
    rw [sign]

theorem plain_chars_read {x : Binary64} {n t : Nat} (spells : Spells (x.shortest .larger) n t)
    (places : t ≤ 22) (small : n ≤ exactLimit) :
    ∃ result, ofChars? x.plainChars = some result ∧
      result.toRat = signedQuotient x.negative n t := by
  have least := spells.places
  have value := spells.value
  have fits : (x.shortest .larger).digits * 10 ^ (x.shortest .larger).exponent.toNat < 2 ^ 96 :=
    Nat.lt_of_le_of_lt (spells.digits_le.trans small) (by decide)
  have whole : (x.shortest .larger).digits = 0 → (x.shortest .larger).exponent.toNat = 0 := by
    intro zero
    rw [spells.zero_plain zero]
    rfl
  have read := Reading.plain_positional x.negative (by omega) whole fits
  unfold Binary64.plainChars Binary64.minus ofChars?
  generalize x.shortest .larger = found at *
  have few : (-found.exponent).toNat ≤ 28 := by omega
  obtain ⟨result, parts⟩ := parts_of_bounds x.negative fits few
  refine ⟨result, by rw [read, parts]; rfl, ?_⟩
  obtain ⟨signed, scale⟩ := signed_of_parts parts
  have quotient : ((found.digits * 10 ^ found.exponent.toNat : Nat) : Rat) /
      10 ^ (-found.exponent).toNat = n / 10 ^ t := by
    have shift : found.exponent = found.exponent.toNat - ((-found.exponent).toNat : Int) := by omega
    rw [← value]
    conv_rhs => rw [shift, zpow_sub₀ (by norm_num), zpow_natCast, zpow_natCast]
    push_cast
    rw [mul_div_assoc]
  rw [to_rat_eq_quotient, signed, scale, ← signed_quotient_eq _ quotient, signedQuotient]
  cases x.negative <;> simp

end Decimal

namespace Json

open Binary64

namespace Number

/-- Dividing the significand by its power of ten rounds their quotient once. -/
theorem scale_by_ten_of_quotient {significand k : Nat} (below : 0 < k) (places : k ≤ 22)
    (exact : rounded significand = significand) :
    ∃ value, scaleByTen (ofNat significand) (-(k : Int)) 4 = some value ∧
      value.magnitude = rounded (significand / 10 ^ k) := by
  have power : (powerOfTen k).magnitude = 10 ^ k := by
    rw [powerOfTen, magnitude_of_nat, rounded_power_of_ten places]
  have quotient : ((ofNat significand).div (powerOfTen k)).magnitude =
      rounded (significand / 10 ^ k) := by
    rw [magnitude_div _ _ (by rw [power]; positivity), magnitude_of_nat, exact, power]
  have count : (-(k : Int)).natAbs = k := by omega
  rw [scaleByTen, count, if_pos (by omega), if_neg (by omega)]
  exact ⟨_, rfl, quotient⟩

theorem read_short_double {x : Binary64} {n t : Nat} (places : t ≤ 22)
    (rounds : x.magnitude = rounded (n / 10 ^ t)) (small : n ≤ exactLimit)
    (highest : x.units.log2 < 1200) {rest : Bytes} (ends : Ends rest) :
    read x.negative (Utf8.encode (x.shortest .evenDigit).documentChars ++ rest) =
      .ok (.float x, rest) := by
  obtain ⟨k, below, few, exponent, exact, quotient⟩ :=
    spelled_of_spells (shortest_spells places rounds small .evenDigit) places small
  obtain ⟨value, scaled, magnitude⟩ := scale_by_ten_of_quotient below few exact
  have same : value.withSign x.negative = x := by
    refine same_of_magnitude ?_ rfl
    rw [magnitude_with_sign, magnitude, quotient, rounds]
  rw [read_spelled highest x.negative ends, float, exponent, scaled]
  simp only [same]

end Number

/-- Of a written double nothing but its first byte decides that a number is read. -/
theorem amount_read_of_number {x : Binary64} {numeral : Numeral} {rest : Bytes}
    (taken : Number.read x.negative (Utf8.encode (x.shortest .evenDigit).documentChars ++ rest) =
      .ok (numeral, rest)) :
    AmountForm.read (Utf8.encode x.chars ++ rest) = AmountForm.ofNumeral numeral rest := by
  rcases double_text_front x with
    ⟨negative, signed⟩ | ⟨positive, plain, first, tail, digit, layout⟩
  · rw [negative] at taken
    rw [signed]
    change (Number.read true (Utf8.encode (x.shortest .evenDigit).documentChars ++ rest) >>= _) = _
    rw [taken]
    rfl
  · obtain ⟨notBlank, notMinus⟩ := Number.letter_of_digit_not_blank digit
    rw [positive, layout, List.cons_append] at taken
    rw [plain, layout, List.cons_append, AmountForm.read, skip_blanks_of_mark notBlank]
    simp only [if_neg notMinus, Number.digit_of_letter digit, Option.isSome_some, if_true, taken]
    rfl

namespace Form

/-- A short decimal is read back as the same amount, though perhaps with fewer trailing zeros. -/
theorem decimal_reads_back {amount : Decimal} (short : amount.IsShort) :
    ∃ result, decimal.ReadsBack amount result ∧ result.toRat = amount.toRat := by
  obtain ⟨n, t, small, places, quotient⟩ := Decimal.quotient_of_short short
  have rounds := Decimal.magnitude_of_short short
  rw [quotient] at rounds
  obtain ⟨result, read, value⟩ :=
    Decimal.plain_chars_read (shortest_spells places rounds small .larger) places small
  refine ⟨result, ?_, ?_⟩
  · intro rest ends
    have taken := Number.read_short_double places rounds small amount.to_binary64_log2_lt ends
    change AmountForm.read (Utf8.encode amount.toBinary64.chars ++ rest) = _
    rw [amount_read_of_number taken, AmountForm.ofNumeral]
    simp only [read]
  · rw [value, Decimal.to_rat_with_double_sign, Decimal.signed_quotient_eq _ quotient]

theorem money_reads_back {money : Money} (short : money.amount.IsShort) :
    ∃ result, Form.money.ReadsBack money result ∧ result.amount.toRat = money.amount.toRat := by
  obtain ⟨result, reads, value⟩ := decimal_reads_back short
  refine ⟨⟨result⟩, fun rest ends => ?_, value⟩
  have taken := reads rest ends
  change (decimal.read (Utf8.encode (decimal.write money.amount).compact ++ rest)).map _ = _
  rw [taken]
  rfl

end Form

end Json

end MotorTariff
