import Mathlib.Tactic.Ring
import MotorTariff.Proofs.Decimal.Nearest

/-!
# Sums, differences and products are rounded once

Every operation on decimals computes its exact result and fits it into a decimal. What comes out
denotes the nearest number for which there is room, and nothing comes out exactly where the result
overflows. The short cuts for zeros and for tiny products agree with that. A sum or a difference
starts from the larger scale of its operands and can only drop digits from there.
-/

set_option autoImplicit false

namespace MotorTariff.Decimal

open Rounding

/-- The outcome of an operation whose exact result is the given number. -/
structure RoundsOnce (outcome : Option Decimal) (exact : Rat) : Prop where
  overflow : outcome = none ↔ Overflows exact
  value : ∀ {amount : Decimal}, outcome = some amount → amount.toRat = nearest exact

@[simp] theorem to_rat_one : one.toRat = 1 := by
  rfl

theorem to_rat_on_grid (amount : Decimal) : amount.toRat * 10 ^ amount.scale = amount.signed := by
  rw [to_rat_eq_quotient, div_mul_cancel₀ _ (by positivity)]

theorem abs_signed (amount : Decimal) : |amount.signed| = amount.mantissa := by
  unfold signed
  split_ifs <;> simp

theorem abs_signed_lt (amount : Decimal) : |amount.signed| < 2 ^ 96 := by
  rw [abs_signed]
  exact_mod_cast amount.mantissa_lt

theorem nearest_to_rat (amount : Decimal) : nearest amount.toRat = amount.toRat :=
  nearest_of_grid amount.scale_le (to_rat_on_grid amount) (abs_signed_lt amount)

theorem to_rat_has_room (amount : Decimal) : HasRoom amount.toRat amount.scale := by
  rw [HasRoom, to_rat_on_grid, half_even_int]
  exact abs_signed_lt amount

theorem to_rat_not_overflows (amount : Decimal) : ¬ Overflows amount.toRat := by
  rw [overflows_iff_no_room, not_not]
  exact has_room_of_le le_rfl (Nat.zero_le _) (to_rat_has_room amount)

theorem exact_rounds_once {amount : Decimal} {exact : Rat} (same : amount.toRat = exact) :
    RoundsOnce (some amount) exact := by
  subst same
  constructor
  · simpa using to_rat_not_overflows amount
  · rintro _ ⟨⟩
    exact (nearest_to_rat amount).symm

section Fit

def signedQuotient (negative : Bool) (mantissa scale : Nat) : Rat :=
  (if negative then -(mantissa : Rat) else mantissa) / 10 ^ scale

variable (negative : Bool) (mantissa : Nat) {scale places : Nat}

theorem half_even_signed_quotient (fewer : places ≤ scale) :
    halfEven (signedQuotient negative mantissa scale * 10 ^ places) =
      if negative then -(roundDiv .toEven mantissa (10 ^ (scale - places)) : Int)
      else roundDiv .toEven mantissa (10 ^ (scale - places)) := by
  have dropped : (mantissa : Rat) / 10 ^ scale * 10 ^ places =
      (mantissa : Rat) / ((10 ^ (scale - places) : Nat) : Rat) := by
    have split : (10 : Rat) ^ scale = 10 ^ (scale - places) * 10 ^ places := by
      rw [← pow_add, Nat.sub_add_cancel fewer]
    have nonzero : (10 : Rat) ^ places ≠ 0 := by positivity
    push_cast
    rw [split, ← div_div, div_mul_cancel₀ _ nonzero]
  have rounded := half_even_quotient mantissa
    (Nat.pow_pos (n := scale - places) (by decide : 0 < 10))
  rw [← dropped] at rounded
  cases negative with
  | false => simpa [signedQuotient] using rounded
  | true => simpa [signedQuotient, neg_div, half_even_neg] using rounded

theorem parts_at_scale (fewer : places ≤ scale) (within : places ≤ 28) :
    (ofParts? negative (roundDiv .toEven mantissa (10 ^ (scale - places))) places = none ∧
        ¬ HasRoom (signedQuotient negative mantissa scale) places) ∨
      ∃ amount,
        ofParts? negative (roundDiv .toEven mantissa (10 ^ (scale - places))) places =
          some amount ∧
        amount.scale = places ∧ HasRoom (signedQuotient negative mantissa scale) places ∧
        amount.toRat = nearestAt places (signedQuotient negative mantissa scale) := by
  have rounded := half_even_signed_quotient negative mantissa fewer
  have room : HasRoom (signedQuotient negative mantissa scale) places ↔
      roundDiv .toEven mantissa (10 ^ (scale - places)) < 2 ^ 96 := by
    rw [HasRoom, rounded]
    split_ifs
    · rw [abs_neg, Nat.abs_cast]
      exact_mod_cast Iff.rfl
    · rw [Nat.abs_cast]
      exact_mod_cast Iff.rfl
  by_cases small : roundDiv .toEven mantissa (10 ^ (scale - places)) < 2 ^ 96
  · obtain ⟨amount, parts⟩ := parts_of_bounds negative small within
    obtain ⟨value, written⟩ := signed_of_parts parts
    refine Or.inr ⟨amount, parts, written, room.mpr small, ?_⟩
    rw [to_rat_eq_quotient, value, written, nearestAt, rounded]
  · refine Or.inl ⟨?_, fun fits => small (room.mp fits)⟩
    rw [ofParts?, dif_neg fun fits => small fits.1]

/-- What a search from the kept places downwards is to return: the number at the most places that
there is room for, or nothing if there is room at none. -/
structure TakesMostPlaces (x : Rat) (kept : Nat) (outcome : Option Decimal) : Prop where
  full : outcome = none → ∀ tried ≤ kept, ¬ HasRoom x tried
  least : ∀ amount, outcome = some amount → amount.scale ≤ kept
  room : ∀ amount, outcome = some amount → HasRoom x amount.scale
  fullAbove : ∀ amount, outcome = some amount →
    ∀ tried, amount.scale < tried → tried ≤ kept → ¬ HasRoom x tried
  value : ∀ amount, outcome = some amount → amount.toRat = nearestAt amount.scale x

theorem takes_most_at_first {x : Rat} {kept : Nat} {amount : Decimal}
    (written : amount.scale = kept) (room : HasRoom x kept)
    (value : amount.toRat = nearestAt kept x) :
    TakesMostPlaces x kept (some amount) := by
  subst written
  constructor
  · rintro ⟨⟩
  · rintro _ ⟨⟩
    exact le_rfl
  · rintro _ ⟨⟩
    exact room
  · rintro _ ⟨⟩ tried above below
    omega
  · rintro _ ⟨⟩
    exact value

theorem takes_most_past_full {x : Rat} {kept : Nat} {outcome : Option Decimal}
    (fullHere : ¬ HasRoom x (kept + 1)) (below : TakesMostPlaces x kept outcome) :
    TakesMostPlaces x (kept + 1) outcome := by
  constructor
  · intro nothing tried least
    rcases Nat.le_succ_iff.mp least with lower | rfl
    · exact below.full nothing tried lower
    · exact fullHere
  · intro amount found
    exact (below.least amount found).trans (Nat.le_succ kept)
  · exact below.room
  · intro amount found tried above least
    rcases Nat.le_succ_iff.mp least with lower | rfl
    · exact below.fullAbove amount found tried above lower
    · exact fullHere
  · exact below.value

theorem fit_from_takes_most_places (kept : Nat) (fewer : kept ≤ scale) (within : kept ≤ 28) :
    TakesMostPlaces (signedQuotient negative mantissa scale) kept
      (fitFrom negative mantissa scale kept) := by
  induction kept with
  | zero =>
      rw [fitFrom, ← Nat.sub_zero scale]
      rcases parts_at_scale negative mantissa fewer within with
        ⟨none, full⟩ | ⟨amount, parts, written, room, value⟩
      · rw [none]
        constructor
        · intro _ tried least
          rwa [Nat.le_zero.mp least]
        all_goals rintro _ ⟨⟩
      · rw [parts]
        exact takes_most_at_first written room value
  | succ kept ih =>
      rw [fitFrom]
      rcases parts_at_scale negative mantissa fewer within with
        ⟨none, full⟩ | ⟨amount, parts, written, room, value⟩
      · rw [none]
        exact takes_most_past_full full (ih (by omega) (by omega))
      · rw [parts]
        exact takes_most_at_first written room value

/-- Where a search starts below the most places there can be, the number needs no more places. -/
theorem rounds_once_of_takes_most {x : Rat} {kept : Nat} {outcome : Option Decimal}
    (most : TakesMostPlaces x kept outcome) (within : kept ≤ 28)
    (written : kept < 28 → ∃ n : Int, x * 10 ^ kept = n) : RoundsOnce outcome x := by
  cases found : outcome with
  | none =>
      constructor
      · rw [overflows_iff_no_room]
        exact iff_of_true rfl (most.full found 0 (Nat.zero_le _))
      · rintro amount ⟨⟩
  | some amount =>
      have least := most.least amount found
      have room := most.room amount found
      constructor
      · rw [overflows_iff_no_room]
        exact iff_of_false (by simp) (not_not.mpr (has_room_of_le le_rfl (Nat.zero_le _) room))
      rintro _ ⟨⟩
      have reached := le_roomy_places (least.trans within) room
      rw [most.value amount found, nearest]
      rcases reached.eq_or_lt with same | more
      · rw [same]
      · -- Room for one place more, which the search did not try: all digits are there already.
        have nextRoom : HasRoom x (amount.scale + 1) := has_room_of_le_roomy (Nat.succ_pos _) more
        have last : amount.scale = kept := by
          by_contra lower
          exact most.fullAbove amount found (amount.scale + 1) (Nat.lt_succ_self _) (by omega)
            nextRoom
        have further := roomy_places_le x
        obtain ⟨n, grid⟩ := written (by omega)
        rw [← last] at grid
        rw [nearest_at_of_grid le_rfl grid, nearest_at_of_grid reached grid]

theorem fit_rounds_once (scale : Nat) :
    RoundsOnce (fit negative mantissa scale) (signedQuotient negative mantissa scale) := by
  have most := fit_from_takes_most_places negative mantissa (min scale 28)
    (Nat.min_le_left ..) (Nat.min_le_right scale 28)
  refine rounds_once_of_takes_most most (Nat.min_le_right ..) ?_
  intro short
  have whole : min scale 28 = scale := by omega
  refine ⟨if negative then -(mantissa : Int) else mantissa, ?_⟩
  rw [whole, signedQuotient, div_mul_cancel₀ _ (by positivity)]
  split_ifs <;> simp

theorem signed_quotient_of_int (signed : Int) (scale : Nat) :
    signedQuotient (decide (signed < 0)) signed.natAbs scale = (signed : Rat) / 10 ^ scale := by
  rw [signedQuotient]
  congr 1
  by_cases below : signed < 0
  · simp only [below, decide_true, if_true]
    rw [Nat.cast_natAbs, abs_of_neg below]
    simp
  · simp only [below, decide_false, Bool.false_eq_true, if_false]
    rw [Nat.cast_natAbs, abs_of_nonneg (not_lt.mp below)]

theorem fit_signed_rounds_once (signed : Int) (scale : Nat) :
    RoundsOnce (fitSigned signed scale) ((signed : Rat) / 10 ^ scale) := by
  rw [← signed_quotient_of_int]
  exact fit_rounds_once _ _ _

variable {negative mantissa}

theorem sign_of_fit_from {kept : Nat} {amount : Decimal}
    (found : fitFrom negative mantissa scale kept = some amount) :
    amount.negative = (negative && !amount.isZero) := by
  have ofParts : ∀ {parts places : Nat}, ofParts? negative parts places = some amount →
      amount.negative = (negative && !amount.isZero) := by
    intro parts places built
    unfold ofParts? at built
    split_ifs at built
    cases built
    rfl
  induction kept with
  | zero => exact ofParts found
  | succ kept ih =>
      rw [fitFrom] at found
      split at found
      next fitted parts =>
        cases found
        exact ofParts parts
      next => exact ih found

theorem to_rat_with_sign {amount : Decimal} (found : fit negative mantissa scale = some amount) :
    (amount.withSign negative).toRat = amount.toRat := by
  have sign := sign_of_fit_from found
  have same : (amount.withSign negative).signed = amount.signed := by
    unfold withSign signed
    rw [sign]
    by_cases zero : amount.mantissa = 0
    · simp [zero]
    · simp [isZero, zero]
  rw [to_rat_eq_quotient, to_rat_eq_quotient, same]
  rfl

end Fit

/-- An operation that starts from this many fraction digits: besides rounding its exact result once
it adds no digits, and is off by at most half a unit of the last digit that it leaves. -/
structure DropsDigits (outcome : Option Decimal) (exact : Rat) (places : Nat) : Prop
    extends RoundsOnce outcome exact where
  scale_le : ∀ {amount : Decimal}, outcome = some amount → amount.scale ≤ places
  near : ∀ {amount : Decimal}, outcome = some amount →
    |amount.toRat - exact| ≤ 1 / 2 / 10 ^ amount.scale

theorem exact_drops_nothing {amount : Decimal} {exact : Rat} {places : Nat}
    (same : amount.toRat = exact) (within : amount.scale ≤ places) :
    DropsDigits (some amount) exact places := by
  refine ⟨exact_rounds_once same, ?_, ?_⟩
  · rintro _ ⟨⟩
    exact within
  · rintro _ ⟨⟩
    rw [same, sub_self, abs_zero]
    positivity

theorem fit_signed_drops_digits (signed : Int) (scale : Nat) :
    DropsDigits (fitSigned signed scale) ((signed : Rat) / 10 ^ scale) scale := by
  have most := fit_from_takes_most_places (decide (signed < 0)) signed.natAbs (min scale 28)
    (Nat.min_le_left ..) (Nat.min_le_right scale 28)
  rw [signed_quotient_of_int] at most
  refine ⟨fit_signed_rounds_once signed scale, ?_, ?_⟩
  · intro amount fitted
    exact (most.least amount fitted).trans (Nat.min_le_left ..)
  · intro amount fitted
    rw [most.value amount fitted]
    apply abs_nearest_at_sub_le

section Arithmetic

variable (left right : Decimal)

theorem to_rat_neg (amount : Decimal) : amount.neg.toRat = -amount.toRat := by
  have flipped : amount.neg.signed = -amount.signed := by
    unfold neg signed
    cases amount.negative <;> simp
  rw [to_rat_eq_quotient, to_rat_eq_quotient, flipped]
  push_cast
  exact neg_div _ _

theorem add_drops_digits :
    DropsDigits (left.add? right) (left.toRat + right.toRat) (max left.scale right.scale) := by
  unfold add?
  split_ifs with leftZero rightZero
  · apply exact_drops_nothing
    · rw [(is_zero_iff_to_rat left).mp leftZero, zero_add]
    · apply Nat.le_max_right
  · apply exact_drops_nothing
    · rw [(is_zero_iff_to_rat right).mp rightZero, add_zero]
    · apply Nat.le_max_left
  · dsimp only
    rw [← signed_at_quotient left (Nat.le_max_left left.scale right.scale),
      ← signed_at_quotient right (Nat.le_max_right left.scale right.scale), ← add_div]
    exact_mod_cast fit_signed_drops_digits _ _

theorem sub_drops_digits :
    DropsDigits (left.sub? right) (left.toRat - right.toRat) (max left.scale right.scale) := by
  unfold sub?
  by_cases leftZero : left.isZero = true
  · rw [if_pos leftZero, (is_zero_iff_to_rat left).mp leftZero, zero_sub]
    split_ifs with rightZero
    · apply exact_drops_nothing
      · rw [(is_zero_iff_to_rat right).mp rightZero, neg_zero]
      · apply Nat.le_max_right
    · apply exact_drops_nothing
      · apply to_rat_neg
      · apply Nat.le_max_right
  rw [if_neg leftZero]
  split_ifs with rightZero
  · apply exact_drops_nothing
    · rw [(is_zero_iff_to_rat right).mp rightZero, sub_zero]
    · apply Nat.le_max_left
  · dsimp only
    rw [← signed_at_quotient left (Nat.le_max_left left.scale right.scale),
      ← signed_at_quotient right (Nat.le_max_right left.scale right.scale), ← sub_div]
    exact_mod_cast fit_signed_drops_digits _ _

theorem add_rounds_once : RoundsOnce (left.add? right) (left.toRat + right.toRat) :=
  (add_drops_digits left right).toRoundsOnce

theorem sub_rounds_once : RoundsOnce (left.sub? right) (left.toRat - right.toRat) :=
  (sub_drops_digits left right).toRoundsOnce

theorem to_rat_mul_eq_quotient :
    left.toRat * right.toRat =
      signedQuotient (left.negative != right.negative) (left.mantissa * right.mantissa)
        (left.scale + right.scale) := by
  rw [to_rat_eq_quotient, to_rat_eq_quotient, div_mul_div_comm, ← pow_add, signedQuotient]
  congr 1
  unfold signed
  cases left.negative <;> cases right.negative <;> simp

/-- Factors with short mantissas and many fraction digits have a product below half of the last
place. -/
theorem short_product_rounds_once {left right : Decimal} (leftShort : left.mantissa < shortBound)
    (rightShort : right.mantissa < shortBound) (tiny : 47 < left.scale + right.scale) :
    RoundsOnce (some zero) (left.toRat * right.toRat) := by
  have magnitude : |left.toRat * right.toRat| * 10 ^ 28 < 1 / 2 := by
    have mantissas : left.mantissa * right.mantissa ≤ shortBound * shortBound :=
      Nat.mul_le_mul leftShort.le rightShort.le
    have mantissasCast : (left.mantissa : Rat) * right.mantissa ≤ shortBound * shortBound := by
      exact_mod_cast mantissas
    have scales : (10 : Rat) ^ 48 ≤ 10 ^ (left.scale + right.scale) :=
      pow_le_pow_right₀ (by norm_num) tiny
    have quotient : |left.toRat * right.toRat| ≤ shortBound * shortBound / 10 ^ 48 := by
      rw [to_rat_eq_quotient, to_rat_eq_quotient, div_mul_div_comm, ← pow_add, abs_div, abs_mul,
        ← Int.cast_abs, ← Int.cast_abs, abs_signed, abs_signed,
        abs_of_pos (by positivity : (0 : Rat) < 10 ^ (left.scale + right.scale))]
      push_cast
      exact div_le_div₀ (by positivity) mantissasCast (by positivity) scales
    calc
      |left.toRat * right.toRat| * 10 ^ 28 ≤ shortBound * shortBound / 10 ^ 48 * 10 ^ 28 :=
        mul_le_mul_of_nonneg_right quotient (by positivity)
      _ < 1 / 2 := by norm_num [shortBound]
  constructor
  · have small : |left.toRat * right.toRat| < 1 / 2 := by
      linarith [abs_nonneg (left.toRat * right.toRat)]
    simp [Overflows, half_even_of_small small]
  · rintro _ ⟨⟩
    rw [to_rat_zero, nearest_of_tiny magnitude]

theorem mul_rounds_once : RoundsOnce (left.mul? right) (left.toRat * right.toRat) := by
  have fitted := fit_rounds_once (left.negative != right.negative)
    (left.mantissa * right.mantissa) (left.scale + right.scale)
  rw [← to_rat_mul_eq_quotient] at fitted
  unfold mul?
  by_cases vanishes : left.isZero = true ∨ right.isZero = true
  · have product : left.toRat * right.toRat = 0 := by
      rw [mul_eq_zero]
      exact vanishes.imp (is_zero_iff_to_rat left).mp (is_zero_iff_to_rat right).mp
    rw [if_pos (by simpa using vanishes)]
    exact exact_rounds_once (by rw [product, to_rat_zero])
  rw [if_neg (by simpa using vanishes)]
  dsimp only
  split_ifs with short tiny
  · exact short_product_rounds_once short.1 short.2 tiny
  · exact fitted
  · constructor
    · rw [Option.map_eq_none_iff]
      exact fitted.overflow
    · intro amount signed
      obtain ⟨unsigned, found, rfl⟩ := Option.map_eq_some_iff.mp signed
      rw [to_rat_with_sign found]
      exact fitted.value found

end Arithmetic

section Exact

/-- Some mantissa that fits writes the number, with no more fraction digits than there can be. -/
def IsRepresentable (x : Rat) : Prop :=
  ∃ (mantissa : Int) (places : Nat),
    |mantissa| < 2 ^ 96 ∧ places ≤ 28 ∧ x * 10 ^ places = mantissa

variable {outcome : Option Decimal} {exact : Rat}

/-- An operation returns its exact result if a decimal can write that result at all, whatever
mantissa and scale the operation itself comes by. -/
theorem exact_of_representable (once : RoundsOnce outcome exact)
    (representable : IsRepresentable exact) :
    ∃ amount, outcome = some amount ∧ amount.toRat = exact := by
  obtain ⟨mantissa, places, small, within, grid⟩ := representable
  have room : HasRoom exact places := by
    rw [HasRoom, grid, half_even_int]
    exact small
  cases found : outcome with
  | none =>
      have overflows := once.overflow.mp found
      rw [overflows_iff_no_room] at overflows
      exact absurd (has_room_of_le le_rfl (Nat.zero_le _) room) overflows
  | some amount =>
      refine ⟨amount, rfl, ?_⟩
      rw [once.value found, nearest_of_grid within grid small]

end Exact

end MotorTariff.Decimal
