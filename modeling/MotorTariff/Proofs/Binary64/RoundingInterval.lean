import MotorTariff.Proofs.Binary64.Shortest

/-!
# The numbers that round to a double

A number that rounds to a double lies in the interval in which digits are searched, and the interval
is narrow: two of its points are no further apart than a share of `2 ^ -52` of the double. So on a
grid that is coarser than that share at most one point is found.
-/

set_option autoImplicit false

namespace MotorTariff.Binary64

-- Powers are the core library's own, also where other libraries define some.
attribute [local instance (high)] instPowNat

open Rounding Binary64.Interval

namespace Interval

/-- A magnitude between the bounds; the bounds count if they round to the value. -/
def Holds (range : Interval) (q : Rat) : Prop :=
  if range.closed then
    (range.lower : Rat) / (4 * unitsPerOne) ≤ q ∧ q ≤ (range.upper : Rat) / (4 * unitsPerOne)
  else (range.lower : Rat) / (4 * unitsPerOne) < q ∧ q < (range.upper : Rat) / (4 * unitsPerOne)

theorem contains_iff (range : Interval) (digits : Nat) (exponent : Int) :
    range.contains digits exponent = true ↔ range.Holds (digits * 10 ^ exponent) := by
  have above := scaled_le_iff digits exponent range.upper
  have below := le_scaled_iff digits exponent range.lower
  have strictAbove := le_scaled_iff digits exponent range.upper
  have strictBelow := scaled_le_iff digits exponent range.lower
  have shape : range.contains digits exponent =
      if range.closed then
        decide ((scaled digits exponent range.lower).2 ≤ (scaled digits exponent range.lower).1 ∧
          (scaled digits exponent range.upper).1 ≤ (scaled digits exponent range.upper).2)
      else
        decide ((scaled digits exponent range.lower).2 < (scaled digits exponent range.lower).1 ∧
          (scaled digits exponent range.upper).1 < (scaled digits exponent range.upper).2) := rfl
  rw [shape, Holds]
  cases range.closed with
  | true => rw [if_pos rfl, if_pos rfl, decide_eq_true_iff, above, below]
  | false =>
      rw [if_neg (by decide), if_neg (by decide), decide_eq_true_iff, ← not_le, ← not_le,
        strictAbove, strictBelow, not_le, not_le]

section Holds

variable {range : Interval} {a b c : Rat}

theorem bounds_of_holds (holds : range.Holds a) :
    (range.lower : Rat) / (4 * unitsPerOne) ≤ a ∧
      a ≤ (range.upper : Rat) / (4 * unitsPerOne) := by
  unfold Holds at holds
  split_ifs at holds
  · exact holds
  · exact ⟨holds.1.le, holds.2.le⟩

theorem holds_between (first : range.Holds a) (last : range.Holds b) (above : a ≤ c)
    (below : c ≤ b) : range.Holds c := by
  unfold Holds at first last ⊢
  split_ifs at first last ⊢
  · exact ⟨first.1.trans above, below.trans last.2⟩
  · exact ⟨first.1.trans_le above, below.trans_lt last.2⟩

end Holds

end Interval

section Bits

variable {significand grid : Nat}

theorem log2_of_bits (low : 2 ^ 52 ≤ significand) (high : significand < 2 ^ 53) :
    (significand * 2 ^ grid).log2 = 52 + grid := by
  have power : 0 < 2 ^ grid := Nat.pow_pos (by decide)
  have nonzero : significand * 2 ^ grid ≠ 0 := (Nat.mul_pos (by omega) power).ne'
  rw [Nat.log2_eq_iff nonzero, Nat.pow_add, show 52 + grid + 1 = 53 + grid by omega, Nat.pow_add]
  exact ⟨Nat.mul_le_mul_right _ low, Nat.mul_lt_mul_of_pos_right high power⟩

/-- The distance to the neighbour below in units: below a power of two it is half of that above. -/
def gapBelow (significand grid : Nat) : Nat :=
  if significand = 2 ^ 52 ∧ 0 < grid then 2 ^ grid / 2 else 2 ^ grid

theorem gap_below_le (significand grid : Nat) : gapBelow significand grid ≤ 2 ^ grid := by
  unfold gapBelow
  split_ifs
  · exact Nat.div_le_self _ _
  · exact le_rfl

theorem interval_of_bits (low : 2 ^ 52 ≤ significand) (high : significand < 2 ^ 53) :
    interval (significand * 2 ^ grid) =
      { lower := 4 * (significand * 2 ^ grid) - 2 * gapBelow significand grid
        value := 4 * (significand * 2 ^ grid)
        upper := 4 * (significand * 2 ^ grid) + 2 * 2 ^ grid
        closed := significand % 2 = 0 } := by
  have exponent : (significand * 2 ^ grid).log2 - 52 = grid := by
    rw [log2_of_bits low high]
    omega
  have quotient : significand * 2 ^ grid / 2 ^ grid = significand :=
    Nat.mul_div_cancel _ (Nat.pow_pos (by decide))
  unfold interval
  rw [exponent]
  dsimp only
  rw [quotient]
  rfl

theorem lower_cast (low : 2 ^ 52 ≤ significand) :
    ((4 * (significand * 2 ^ grid) - 2 * gapBelow significand grid : Nat) : Rat) =
      4 * (significand * 2 ^ grid) - 2 * gapBelow significand grid := by
  have gap := gap_below_le significand grid
  have whole : 2 ^ grid ≤ significand * 2 ^ grid :=
    Nat.le_mul_of_pos_left _ (by omega)
  rw [Nat.cast_sub (by omega)]
  push_cast
  rfl

theorem holds_of_bits {y : Rat} (low : 2 ^ 52 ≤ significand) (high : significand < 2 ^ 53)
    (between : (significand : Rat) * 2 ^ grid - gapBelow significand grid / 2 ≤ y ∧
      y ≤ significand * 2 ^ grid + 2 ^ grid / 2)
    (strict : significand % 2 = 1 →
      (significand : Rat) * 2 ^ grid - gapBelow significand grid / 2 < y ∧
        y < significand * 2 ^ grid + 2 ^ grid / 2) :
    (interval (significand * 2 ^ grid)).Holds (y / unitsPerOne) := by
  have positive := units_per_one_pos
  have quarters : ∀ bound : Rat, bound / (4 * unitsPerOne) = bound / 4 / unitsPerOne := by
    intro bound
    rw [div_div]
  rw [interval_of_bits low high, Holds]
  dsimp only
  rw [lower_cast low, quarters, quarters, div_le_div_iff_of_pos_right positive,
    div_le_div_iff_of_pos_right positive, div_lt_div_iff_of_pos_right positive,
    div_lt_div_iff_of_pos_right positive]
  push_cast
  split_ifs with even
  · constructor <;> linarith
  · have odd : significand % 2 = 1 := by
      have parity := Nat.mod_two_eq_zero_or_one significand
      have other : ¬ significand % 2 = 0 := by simpa using even
      omega
    obtain ⟨lower, upper⟩ := strict odd
    constructor <;> linarith

theorem value_holds (low : 2 ^ 52 ≤ significand) (high : significand < 2 ^ 53) :
    (interval (significand * 2 ^ grid)).Holds
      (((significand * 2 ^ grid : Nat) : Rat) / unitsPerOne) := by
  have gap : 0 < gapBelow significand grid := by
    unfold gapBelow
    split_ifs with least
    · obtain ⟨places, rfl⟩ := Nat.exists_eq_succ_of_ne_zero least.2.ne'
      rw [Nat.pow_succ, Nat.mul_div_cancel _ (by decide)]
      exact Nat.pow_pos (by decide)
    · exact Nat.pow_pos (by decide)
  have gapCast : (0 : Rat) < gapBelow significand grid := by exact_mod_cast gap
  have power : (0 : Rat) < 2 ^ grid := by positivity
  refine holds_of_bits low high ?_ fun _ => ?_
  all_goals
    push_cast
    constructor <;> linarith

/-- Points of one interval are closer than a share of `2 ^ -52` of the double. -/
theorem holds_close (low : 2 ^ 52 ≤ significand) (high : significand < 2 ^ 53) {a b : Rat}
    (first : (interval (significand * 2 ^ grid)).Holds a)
    (second : (interval (significand * 2 ^ grid)).Holds b) :
    |a - b| ≤ ((significand * 2 ^ grid : Nat) : Rat) / unitsPerOne / 2 ^ 52 := by
  have positive := units_per_one_pos
  have quarters : (0 : Rat) < 4 * unitsPerOne := mul_pos (by norm_num) positive
  have power : (0 : Rat) < 2 ^ grid := by positivity
  have gap : (gapBelow significand grid : Rat) ≤ 2 ^ grid := by
    exact_mod_cast gap_below_le significand grid
  have bits : (2 : Rat) ^ 52 ≤ significand := by exact_mod_cast low
  have ends : ∀ c, (interval (significand * 2 ^ grid)).Holds c →
      (significand : Rat) * 2 ^ grid - 2 ^ grid / 2 ≤ c * unitsPerOne ∧
        c * unitsPerOne ≤ significand * 2 ^ grid + 2 ^ grid / 2 := by
    intro c holds
    have bounds := bounds_of_holds holds
    rw [interval_of_bits low high] at bounds
    dsimp only at bounds
    rw [lower_cast low, div_le_iff₀ quarters, le_div_iff₀ quarters] at bounds
    push_cast at bounds
    constructor <;> linarith [bounds.1, bounds.2]
  obtain ⟨aboveFirst, belowFirst⟩ := ends a first
  obtain ⟨aboveSecond, belowSecond⟩ := ends b second
  have width : |a - b| * unitsPerOne ≤ 2 ^ grid := by
    have scaled : |a - b| * unitsPerOne = |(a - b) * unitsPerOne| := by
      rw [abs_mul, abs_of_pos positive]
    rw [scaled, abs_le]
    constructor <;> linarith
  have share : (2 : Rat) ^ grid * 2 ^ 52 ≤ significand * 2 ^ grid := by
    linarith [mul_le_mul_of_nonneg_right bits power.le]
  rw [le_div_iff₀ (by positivity), le_div_iff₀ positive, Nat.cast_mul, Nat.cast_pow,
    Nat.cast_ofNat]
  calc |a - b| * 2 ^ 52 * unitsPerOne
      = |a - b| * unitsPerOne * 2 ^ 52 := mul_right_comm _ _ _
    _ ≤ 2 ^ grid * 2 ^ 52 := mul_le_mul_of_nonneg_right width (by positivity)
    _ ≤ significand * 2 ^ grid := share

end Bits

section Rounding

section Neighbours

variable {significand grid : Nat} {y : Rat}

theorem gap_below_of_odd (odd : significand % 2 = 1) : gapBelow significand grid = 2 ^ grid := by
  unfold gapBelow
  rw [if_neg]
  rintro ⟨rfl, -⟩
  exact absurd odd (by decide)

theorem distance_on_grid (y : Rat) (significand grid : Nat) :
    |y - significand * 2 ^ grid| = |y / 2 ^ grid - (significand : Int)| * 2 ^ grid := by
  have power : (0 : Rat) < 2 ^ grid := by positivity
  rw [← abs_of_pos power, ← abs_mul, abs_of_pos power, sub_mul, div_mul_cancel₀ _ power.ne',
    Int.cast_natCast]

/-- At most half a grid step off, less than that if the significand is odd, and not below a power of
two. -/
theorem holds_of_significand (low : 2 ^ 52 ≤ significand) (high : significand < 2 ^ 53)
    (spec : IsHalfEven (y / 2 ^ grid) significand) (below : 2 ^ 52 * 2 ^ grid ≤ y) :
    (interval (significand * 2 ^ grid)).Holds (y / unitsPerOne) := by
  have power : (0 : Rat) < 2 ^ grid := by positivity
  have distance := distance_on_grid y significand grid
  have near : |y - significand * 2 ^ grid| ≤ 2 ^ grid / 2 := by
    rw [distance]
    linarith [mul_le_mul_of_nonneg_right spec.near power.le]
  obtain ⟨lower, upper⟩ := abs_le.mp near
  have gap : (significand : Rat) * 2 ^ grid - gapBelow significand grid / 2 ≤ y := by
    unfold gapBelow
    split_ifs with least
    · rw [least.1]
      push_cast
      linarith [Nat.cast_nonneg (α := Rat) (2 ^ grid / 2)]
    · push_cast
      linarith
  refine holds_of_bits low high ⟨gap, by linarith⟩ fun odd => ?_
  have strict : |y - significand * 2 ^ grid| < 2 ^ grid / 2 := by
    apply near.lt_of_ne
    intro tie
    have even := spec.even (by rw [distance] at tie; field_simp at tie ⊢; linarith)
    omega
  obtain ⟨above, under⟩ := abs_lt.mp strict
  rw [gap_below_of_odd odd]
  push_cast
  constructor <;> linarith

theorem holds_of_carry (near : |y - 2 ^ 53 * 2 ^ grid| ≤ 2 ^ grid / 2) :
    (interval (2 ^ 52 * 2 ^ (grid + 1))).Holds (y / unitsPerOne) := by
  -- The significand carried, so the double is a power of two on the next grid, and the gap below
  -- it is a step of the old one.
  obtain ⟨lower, upper⟩ := abs_le.mp near
  have half : gapBelow (2 ^ 52) (grid + 1) = 2 ^ grid := by
    unfold gapBelow
    rw [if_pos ⟨rfl, Nat.succ_pos _⟩, Nat.pow_succ, Nat.mul_div_cancel _ (by decide)]
  refine holds_of_bits le_rfl (by norm_num) ?_ (fun odd => absurd odd (by decide))
  rw [half]
  push_cast
  rw [pow_succ]
  norm_num at lower upper ⊢
  constructor <;> linarith

end Neighbours

variable {y : Rat} (large : 2 ^ 52 ≤ y)

include large

theorem holds_of_nearest {units : Nat} (rounds : (units : Rat) = nearest y) :
    (interval units).Holds (y / unitsPerOne) := by
  obtain ⟨below, -⟩ := grid_bounds large
  obtain ⟨significand, low, high, spec, nearest⟩ := nearest_significand large
  rw [nearest] at rounds
  generalize gridExponent y = grid at below spec rounds
  have whole : units = significand * 2 ^ grid := by exact_mod_cast rounds
  rcases high.lt_or_eq with fits | rfl
  · rw [whole]
    exact holds_of_significand low fits spec below
  · have carried : units = 2 ^ 52 * 2 ^ (grid + 1) := by
      rw [whole, Nat.pow_succ 2 grid]
      omega
    have near := mul_le_mul_of_nonneg_right spec.near (by positivity : (0 : Rat) ≤ 2 ^ grid)
    rw [← distance_on_grid] at near
    rw [carried]
    refine holds_of_carry ?_
    push_cast at near
    linarith

theorem bits_of_nearest {units : Nat} (rounds : (units : Rat) = nearest y) :
    ∃ significand grid, 2 ^ 52 ≤ significand ∧ significand < 2 ^ 53 ∧
      units = significand * 2 ^ grid := by
  obtain ⟨significand, low, high, -, nearest⟩ := nearest_significand large
  rw [nearest] at rounds
  have whole : units = significand * 2 ^ gridExponent y := by exact_mod_cast rounds
  rcases high.lt_or_eq with fits | full
  · exact ⟨significand, gridExponent y, low, fits, whole⟩
  · refine ⟨2 ^ 52, gridExponent y + 1, le_rfl, by norm_num, ?_⟩
    rw [whole, full, Nat.pow_succ 2 (gridExponent y)]
    omega

end Rounding

end MotorTariff.Binary64
