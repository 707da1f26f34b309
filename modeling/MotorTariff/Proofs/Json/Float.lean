import MotorTariff.Proofs.Binary64.Shortest
import MotorTariff.Proofs.Binary64.Text
import MotorTariff.Proofs.Decimal.Double
import MotorTariff.Proofs.Json.Integer

/-!
# Reading a double that was written

A double is written with a point, or with an exponent after a single digit or a point. In each form
all digits but one closing zero are those of the shortest decimal, so the reader computes its double
from exactly that decimal.
-/

set_option autoImplicit false

namespace MotorTariff

-- Powers are the core library's own, also where other libraries define some.
attribute [local instance (high)] instPowNat

namespace Json.Number

open Binary64 (IsSplit positional)
open Digits (IsIntegerPart)

section Stages

variable {rest : Bytes} (negative : Bool)

theorem read_split {n places : Nat} {integer fraction : List Char} (some : 0 < places)
    (split : IsSplit n places integer fraction) (fits : n < significandLimit)
    (stops : startsWithDigit rest = false) :
    read negative (Utf8.encode (integer ++ '.' :: fraction) ++ rest) =
      afterFraction negative n (-(places : Int)) rest := by
  obtain ⟨part, digits, value, length⟩ := split
  rw [← value, Nat.ofDigitChars_append] at fits
  have integerFits := Nat.lt_of_le_of_lt (Digits.le_of_digit_chars fraction _) fits
  have point : startsWithDigit (Mark.point :: (Utf8.encode fraction ++ rest)) = false := by rfl
  have taken := take_digits_of_written fraction digits stops 0 fits
  rw [Nat.zero_add, ← Nat.ofDigitChars_append, value, length] at taken
  rw [Utf8.encode_append, List.append_assoc, Utf8.encode_cons, List.append_assoc]
  change read negative (Utf8.encode integer ++ Mark.point :: (Utf8.encode fraction ++ rest)) = _
  rw [read_integer_part negative part integerFits point]
  change afterPoint negative _ 0 (Utf8.encode fraction ++ rest) = _
  rw [afterPoint, taken]
  simp only [stops, Bool.false_eq_true, if_false, some.ne', Int.zero_sub]

theorem after_fraction_of_ends (ends : Ends rest) (significand : Nat) (exponent : Int) :
    afterFraction negative significand exponent rest =
      float negative significand exponent rest := by
  cases rest with
  | nil => rfl
  | cons b rest =>
      obtain ⟨-, -, notExponent⟩ := ends b rfl
      simp [afterFraction, notExponent]

theorem after_exponent_mark_written (ends : Ends rest) (below : Bool) (significand : Nat)
    (exponent : Int) {shift : Nat} (small : shift < exponentLimit) :
    afterExponentMark negative significand exponent
        (Utf8.encode ((if below then '-' else '+') :: Nat.toDigits 10 shift) ++ rest) =
      float negative significand (if below then exponent - shift else exponent + shift) rest := by
  obtain ⟨first, digits, written, digit⟩ := (Digits.to_digits_is_integer_part shift).front
  have value : Nat.ofDigitChars 10 digits (first.toNat - '0'.toNat) = shift := by
    rw [← Nat.ofDigitChars_ten_toDigits (n := shift), written, Nat.ofDigitChars_cons, Nat.mul_zero,
      Nat.zero_add]
  have allDigits : ∀ c ∈ digits, c.isDigit = true := by
    intro c member
    apply Digits.to_digits_are_digits shift
    rw [written]
    exact List.mem_cons_of_mem _ member
  have stops := starts_with_digit_of_ends ends
  have taken := take_digits_of_written digits allDigits stops 0
    (Nat.lt_of_le_of_lt value.le small)
  rw [value] at taken
  rw [written, Utf8.encode_cons, Utf8.encode_cons, encode_digit digit, List.append_assoc,
    List.singleton_append, List.cons_append]
  cases below with
  | true =>
      have other : Mark.minus ≠ Mark.plus := by decide
      change afterExponentMark negative significand exponent
        (Mark.minus :: Mark.letter first :: (Utf8.encode digits ++ rest)) = _
      simp only [afterExponentMark, if_neg other, if_true, digit_of_letter digit, taken, stops,
        Bool.false_eq_true, if_false]
  | false =>
      change afterExponentMark negative significand exponent
        (Mark.plus :: Mark.letter first :: (Utf8.encode digits ++ rest)) = _
      simp only [afterExponentMark, if_true, digit_of_letter digit, taken, stops,
        Bool.false_eq_true, if_false]

theorem written_exponent (ends : Ends rest) (significand : Nat) (shift : Int)
    (small : shift.natAbs < exponentLimit) :
    let tail := Utf8.encode
      ('e' :: (if shift < 0 then '-' else '+') :: Nat.toDigits 10 shift.natAbs) ++ rest
    startsWithDigit tail = false ∧
      afterInteger negative significand 0 tail = float negative significand shift rest ∧
      ∀ exponent, afterFraction negative significand exponent tail =
        float negative significand (exponent + shift) rest := by
  have moved : ∀ exponent : Int,
      (if decide (shift < 0) = true then exponent - (shift.natAbs : Int)
        else exponent + shift.natAbs) = exponent + shift := by
    intro exponent
    by_cases below : shift < 0
    · rw [if_pos (decide_eq_true below)]
      omega
    · rw [if_neg (by simpa using below)]
      omega
  have marked : ∀ exponent : Int, afterExponentMark negative significand exponent
      (Utf8.encode ((if shift < 0 then '-' else '+') :: Nat.toDigits 10 shift.natAbs) ++ rest) =
        float negative significand (exponent + shift) rest := by
    intro exponent
    have written := after_exponent_mark_written negative ends (decide (shift < 0)) significand
      exponent small
    rw [moved] at written
    simpa only [decide_eq_true_eq] using written
  refine ⟨rfl, ?_, marked⟩
  rw [← Int.zero_add shift, ← marked, Int.zero_add]
  rfl

end Stages

end Json.Number

namespace Binary64.Shortest

variable (found : Shortest)

def leading : Int := found.exponent + (Nat.toDigits 10 found.digits).length - 1

def documentChars : List Char :=
  if -5 ≤ found.leading ∧ found.leading ≤ 15 then
    positional (Nat.toDigits 10 found.digits) found.exponent ++
      (if 0 ≤ found.exponent then ['.', '0'] else [])
  else
    positional (Nat.toDigits 10 found.digits)
        (1 - ((Nat.toDigits 10 found.digits).length : Int)) ++
      'e' :: (if found.leading < 0 then '-' else '+') :: Nat.toDigits 10 found.leading.natAbs

theorem chars_of_double (x : Binary64) :
    x.chars = minus x ++ (x.shortest .evenDigit).documentChars := rfl

/-- The significand that is read, and the power of ten that goes with it: in a whole number the zero
after the point counts as a digit. -/
def spelled : Nat × Int :=
  if 0 ≤ found.exponent ∧ found.leading ≤ 15 then
    (found.digits * 10 ^ (found.exponent.toNat + 1), -1)
  else (found.digits, found.exponent)

section Whole

variable {found}

theorem whole_fits (nonneg : 0 ≤ found.exponent) (short : found.leading ≤ 15) :
    found.digits * 10 ^ (found.exponent.toNat + 1) < Json.Number.significandLimit := by
  have present : 0 < (Nat.toDigits 10 found.digits).length := Nat.length_toDigits_pos
  have bound := (Nat.length_toDigits_le_iff (by decide) present).mp
    (le_refl (Nat.toDigits 10 found.digits).length)
  have scaled := Nat.mul_lt_mul_of_pos_right bound
    (Nat.pow_pos (n := found.exponent.toNat + 1) (by decide : 0 < 10))
  rw [← Nat.pow_add] at scaled
  have few : (Nat.toDigits 10 found.digits).length + (found.exponent.toNat + 1) ≤ 17 := by
    unfold leading at short
    omega
  have power := Nat.pow_le_pow_right (by decide : 0 < 10) few
  have limit : 10 ^ 17 < Json.Number.significandLimit := by decide
  omega

end Whole

end Binary64.Shortest

namespace Json.Number

open Binary64

section Forms

variable {rest : Bytes} (ends : Ends rest) (negative : Bool) (found : Shortest)

include ends

theorem read_whole (plain : found.digits = 0 → found.exponent = 0) (nonneg : 0 ≤ found.exponent)
    (short : found.leading ≤ 15) :
    read negative (Utf8.encode found.documentChars ++ rest) =
      float negative (found.digits * 10 ^ (found.exponent.toNat + 1)) (-1) rest := by
  have within : -5 ≤ found.leading := by
    have present : 0 < (Nat.toDigits 10 found.digits).length := Nat.length_toDigits_pos
    unfold Shortest.leading
    omega
  have written : found.documentChars =
      Nat.toDigits 10 found.digits ++ List.replicate found.exponent.toNat '0' ++ '.' :: ['0'] := by
    rw [Shortest.documentChars, if_pos ⟨within, short⟩, positional, if_pos nonneg, if_pos nonneg]
  have split : IsSplit (found.digits * 10 ^ (found.exponent.toNat + 1)) 1
      (Nat.toDigits 10 found.digits ++ List.replicate found.exponent.toNat '0') ['0'] := by
    refine ⟨zeros_after_is_integer_part _ fun zero => by rw [plain zero]; rfl,
      Digits.zeros_are_digits 1, ?_, rfl⟩
    rw [Nat.ofDigitChars_append, value_of_zeros_after, Nat.pow_succ, ← Nat.mul_assoc,
      Nat.mul_comm _ 10]
    rfl
  rw [written, read_split negative Nat.one_pos split (Shortest.whole_fits nonneg short)
    (starts_with_digit_of_ends ends), after_fraction_of_ends negative ends]
  rfl

theorem read_fraction (fits : found.digits < significandLimit) (below : found.exponent < 0)
    (within : -5 ≤ found.leading ∧ found.leading ≤ 15) :
    read negative (Utf8.encode found.documentChars ++ rest) =
      float negative found.digits found.exponent rest := by
  obtain ⟨places, exponent⟩ : ∃ places : Nat, found.exponent = -(places : Int) :=
    ⟨(-found.exponent).toNat, by omega⟩
  have some : 0 < places := by omega
  obtain ⟨integer, fraction, written, split⟩ := positional_split found.digits some
  rw [Shortest.documentChars, if_pos within, exponent, if_neg (by omega), List.append_nil, written,
    read_split negative some split fits (starts_with_digit_of_ends ends),
    after_fraction_of_ends negative ends]

theorem read_scientific (fits : found.digits < significandLimit)
    (short : found.leading.natAbs < exponentLimit)
    (outside : ¬ (-5 ≤ found.leading ∧ found.leading ≤ 15)) :
    read negative (Utf8.encode found.documentChars ++ rest) =
      float negative found.digits found.exponent rest := by
  obtain ⟨stops, afterDigits, afterPlaces⟩ :=
    written_exponent negative ends found.digits found.leading short
  rw [Shortest.documentChars, if_neg outside, Utf8.encode_append, List.append_assoc]
  generalize Utf8.encode ('e' :: (if found.leading < 0 then '-' else '+') ::
    Nat.toDigits 10 found.leading.natAbs) ++ rest = tail at stops afterDigits afterPlaces ⊢
  have present : 0 < (Nat.toDigits 10 found.digits).length := Nat.length_toDigits_pos
  rcases (Nat.succ_le_of_lt present).eq_or_lt with single | several
  · have whole : positional (Nat.toDigits 10 found.digits)
        (1 - ((Nat.toDigits 10 found.digits).length : Int)) = Nat.toDigits 10 found.digits := by
      rw [← single]
      simp [positional]
    have value : Nat.ofDigitChars 10 (Nat.toDigits 10 found.digits) 0 = found.digits :=
      Nat.ofDigitChars_ten_toDigits
    have exponent : found.leading = found.exponent := by
      unfold Shortest.leading
      omega
    rw [whole, read_integer_part negative (Digits.to_digits_is_integer_part found.digits)
      (value.symm ▸ fits) stops, value, afterDigits, exponent]
  · obtain ⟨places, length⟩ : ∃ places : Nat,
        (Nat.toDigits 10 found.digits).length = places + 1 :=
      ⟨(Nat.toDigits 10 found.digits).length - 1, by omega⟩
    have shift : 1 - ((Nat.toDigits 10 found.digits).length : Int) = -(places : Int) := by omega
    have exponent : -(places : Int) + found.leading = found.exponent := by
      unfold Shortest.leading
      omega
    have some : 0 < places := by omega
    obtain ⟨integer, fraction, written, split⟩ := positional_split found.digits some
    rw [shift, written, read_split negative some split fits stops, afterPlaces, exponent]

/-- A written double is read from the digits and the power of ten that its text spells. -/
theorem read_document_chars (plain : found.digits = 0 → found.exponent = 0)
    (fits : found.digits < significandLimit) (short : found.leading.natAbs < exponentLimit) :
    read negative (Utf8.encode found.documentChars ++ rest) =
      float negative found.spelled.1 found.spelled.2 rest := by
  by_cases whole : 0 ≤ found.exponent ∧ found.leading ≤ 15
  · rw [Shortest.spelled, if_pos whole]
    exact read_whole ends negative found plain whole.1 whole.2
  · rw [Shortest.spelled, if_neg whole]
    by_cases within : -5 ≤ found.leading ∧ found.leading ≤ 15
    · exact read_fraction ends negative found fits (by omega) within
    · exact read_scientific ends negative found fits short within

end Forms

theorem scaled_up_is_finite {significand places : Nat} (small : significand < significandLimit)
    (few : places ≤ 61) : ((ofNat significand).mul (powerOfTen places)).isInfinite = false := by
  have digits : (significand : Rat) ≤ 2 ^ 64 := by
    exact_mod_cast small.le
  have power : ((10 ^ places : Nat) : Rat) ≤ 10 ^ 61 := by
    push_cast
    exact pow_le_pow_right₀ (by norm_num) few
  have first := rounded_le (Nat.cast_nonneg (α := Rat) significand)
  have second := rounded_le (Nat.cast_nonneg (α := Rat) (10 ^ places))
  rw [← magnitude_of_nat] at first second
  have factors : (ofNat significand).magnitude * (powerOfTen places).magnitude ≤
      (2 * 2 ^ 64 + 1) * (2 * 10 ^ 61 + 1) :=
    mul_le_mul (by linarith) (second.trans (by linarith)) (magnitude_nonneg _) (by norm_num)
  have product := rounded_le (mul_nonneg (magnitude_nonneg (ofNat significand))
    (magnitude_nonneg (powerOfTen places)))
  rw [← magnitude_mul] at product
  have room : 2 * ((2 * 2 ^ 64 + 1) * (2 * 10 ^ 61 + 1)) + 1 ≤ (2 : Rat) ^ (150 + 150) := by
    rw [pow_add]
    norm_num
  exact finite_of_magnitude_le (le_trans (by linarith) room) (by decide)

theorem scale_by_ten_some {significand : Nat} {exponent : Int}
    (small : significand < significandLimit) (lower : -600 ≤ exponent) (upper : exponent ≤ 61) :
    ∃ value, scaleByTen (ofNat significand) exponent 4 = some value := by
  rw [scaleByTen]
  by_cases near : exponent.natAbs ≤ 308
  · rw [if_pos near]
    by_cases nonneg : 0 ≤ exponent
    · have finite := scaled_up_is_finite small (by omega : exponent.natAbs ≤ 61)
      rw [if_pos nonneg]
      simp only [finite, Bool.false_eq_true, if_false]
      exact ⟨_, rfl⟩
    · rw [if_neg nonneg]
      exact ⟨_, rfl⟩
  · rw [if_neg near]
    cases zero : (ofNat significand).isZero with
    | true =>
        rw [if_pos rfl]
        exact ⟨_, rfl⟩
    | false =>
        have below : ¬ 0 ≤ exponent := by omega
        have reached : (exponent + 308).natAbs ≤ 308 := by omega
        have further : ¬ 0 ≤ exponent + 308 := by omega
        rw [if_neg (by decide), if_neg below, scaleByTen, if_pos reached, if_neg further]
        exact ⟨_, rfl⟩

section Doubles

variable {x : Binary64} (highest : x.units.log2 < 1200)

include highest

theorem digits_fit (prefer : Preference) : (x.shortest prefer).digits < significandLimit := by
  have limit : 10 ^ 17 < significandLimit := by decide
  exact Nat.lt_of_le_of_lt (shortest_within_reach prefer highest).digits_le limit

/-- Whatever its sign, a double that is not too large is read from what its text spells. -/
theorem read_spelled (negative : Bool) {rest : Bytes} (ends : Ends rest) :
    read negative (Utf8.encode (x.shortest .evenDigit).documentChars ++ rest) =
      float negative (x.shortest .evenDigit).spelled.1 (x.shortest .evenDigit).spelled.2 rest := by
  have reach := shortest_within_reach .evenDigit highest
  have fits := digits_fit highest .evenDigit
  generalize x.shortest .evenDigit = found at reach fits ⊢
  have length : (Nat.toDigits 10 found.digits).length ≤ 18 :=
    (Nat.length_toDigits_le_iff (by decide) (by decide)).mpr
      (Nat.lt_of_le_of_lt reach.digits_le (by decide))
  have short : found.leading.natAbs < exponentLimit := by
    have lower := reach.exponent_ge
    have upper := reach.exponent_le
    have bound : 1000 < exponentLimit := by decide
    unfold Shortest.leading
    omega
  exact read_document_chars ends negative found reach.zero_plain fits short

theorem read_double_text (negative : Bool) :
    ∃ value, ∀ rest, Ends rest →
      read negative (Utf8.encode (x.shortest .evenDigit).documentChars ++ rest) =
        .ok (.float value, rest) := by
  have reach := shortest_within_reach .evenDigit highest
  have fits := digits_fit highest .evenDigit
  obtain ⟨value, scaled⟩ : ∃ value, scaleByTen (ofNat (x.shortest .evenDigit).spelled.1)
      (x.shortest .evenDigit).spelled.2 4 = some value := by
    unfold Shortest.spelled
    split_ifs with whole
    · exact scale_by_ten_some (Shortest.whole_fits whole.1 whole.2)
        (show (-600 : Int) ≤ -1 by decide) (show (-1 : Int) ≤ 61 by decide)
    · exact scale_by_ten_some fits (by have := reach.exponent_ge; omega) reach.exponent_le
  refine ⟨value.withSign negative, fun rest ends => ?_⟩
  rw [read_spelled highest negative ends, float, scaled]

end Doubles

end Json.Number

namespace Binary64

theorem document_chars_front (found : Shortest) :
    ∃ first more, found.documentChars = first :: more ∧ first.isDigit = true := by
  unfold Shortest.documentChars
  split_ifs with within
  all_goals
    obtain ⟨first, more, written, digit⟩ := positional_front found.digits _
    rw [written]
    exact ⟨first, _, rfl, digit⟩

theorem double_text_front (x : Binary64) :
    (x.negative = true ∧
      Utf8.encode x.chars = Json.Mark.minus :: Utf8.encode (x.shortest .evenDigit).documentChars) ∨
    (x.negative = false ∧ Utf8.encode x.chars = Utf8.encode (x.shortest .evenDigit).documentChars ∧
      ∃ first tail, first.isDigit = true ∧
        Utf8.encode (x.shortest .evenDigit).documentChars = Json.Mark.letter first :: tail) := by
  have chars := Shortest.chars_of_double x
  rw [minus] at chars
  cases negative : x.negative with
  | true =>
      rw [negative, if_pos rfl, List.singleton_append] at chars
      exact Or.inl ⟨rfl, by rw [chars, Utf8.encode_cons]; rfl⟩
  | false =>
      rw [negative, if_neg (by decide), List.nil_append] at chars
      obtain ⟨first, more, written, digit⟩ := document_chars_front (x.shortest .evenDigit)
      refine Or.inr ⟨rfl, by rw [chars], first, Utf8.encode more, digit, ?_⟩
      rw [written, Utf8.encode_cons, Json.Number.encode_digit digit, List.singleton_append]

end Binary64

end MotorTariff
