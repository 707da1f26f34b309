import MotorTariff.Proofs.Binary64.RoundingInterval

/-!
# Decimals that are found again

A decimal with few digits is alone on its grid within the interval of the double nearest to it, and
alone on every coarser grid that it lies on. So the search for the shortest digits, which goes from
coarse grids to fine ones, finds nothing but that decimal, whatever it prefers on a tie.
-/

set_option autoImplicit false

namespace MotorTariff.Binary64

-- Powers are the core library's own, also where other libraries define some.
attribute [local instance (high)] instPowNat

open Rounding Binary64.Interval

/-- The largest whole number whose tenfold has no more than 53 bits besides the last, a zero. -/
def exactLimit : Nat := 2 ^ 54 / 10

section Grid

variable {prefer : Preference} {range : Interval} {exponent : Int}

theorem grid_below_bounds (range : Interval) (exponent : Int) :
    (gridBelow range exponent : Rat) * 10 ^ exponent ≤ range.value / (4 * unitsPerOne) ∧
      (range.value : Rat) / (4 * unitsPerOne) <
        ((gridBelow range exponent + 1 : Nat) : Rat) * 10 ^ exponent := by
  obtain ⟨step, value⟩ := scaled_eq 1 exponent range.value
  have positive := scaled_denominator_pos exponent
  have power : (0 : Rat) < 10 ^ exponent := zpow_pos (by norm_num) _
  rw [Nat.cast_one, one_mul] at step
  unfold gridBelow
  generalize (4 * unitsPerOne * 10 ^ (-exponent).toNat : Rat) = denominator at step value positive
  generalize (range.value : Rat) / (4 * unitsPerOne) = q at value ⊢
  generalize scaled 1 exponent range.value = parts at step value ⊢
  have stepPositive : 0 < parts.1 := by
    rw [← Nat.cast_pos (α := Rat), step]
    exact mul_pos power positive
  have low : ((parts.2 / parts.1 * parts.1 : Nat) : Rat) ≤ parts.2 := by
    exact_mod_cast Nat.div_mul_le_self parts.2 parts.1
  have high : (parts.2 : Rat) < (((parts.2 / parts.1 + 1) * parts.1 : Nat) : Rat) := by
    have := Nat.lt_mul_div_succ parts.2 stepPositive
    rw [Nat.mul_comm] at this
    exact_mod_cast this
  rw [Nat.cast_mul, value, step, ← mul_assoc, mul_le_mul_iff_of_pos_right positive] at low
  rw [Nat.cast_mul, value, step, ← mul_assoc, mul_lt_mul_iff_of_pos_right positive] at high
  exact ⟨low, high⟩

theorem grid_choice_of_point {point : Nat} (nonzero : point ≠ 0)
    (inside : range.Holds (point * 10 ^ exponent))
    (value : range.Holds (range.value / (4 * unitsPerOne))) :
    ∃ chosen, gridChoice prefer range exponent = some chosen := by
  -- Where a grid has a point in the interval, one is chosen: one of the neighbours of the value
  -- stands between the value and that point.
  obtain ⟨below, above⟩ := grid_below_bounds range exponent
  have power : (0 : Rat) < 10 ^ exponent := zpow_pos (by norm_num) _
  apply grid_choice_of_neighbour
  rcases Nat.lt_or_ge (gridBelow range exponent) point with larger | smaller
  · have order : ((gridBelow range exponent + 1 : Nat) : Rat) ≤ point := by exact_mod_cast larger
    have between := mul_le_mul_of_nonneg_right order power.le
    exact Or.inr ((contains_iff _ _ _).mpr (holds_between value inside above.le between))
  · have order : (point : Rat) ≤ gridBelow range exponent := by exact_mod_cast smaller
    have between := mul_le_mul_of_nonneg_right order power.le
    exact Or.inl ⟨(contains_iff _ _ _).mpr (holds_between inside value between below), by omega⟩

/-- Points of two grids that both lie on a third are equal if they are closer than its step. -/
theorem same_of_grid {a b : Nat} {e f grid : Int} (first : grid ≤ e) (second : grid ≤ f)
    (close : |(a : Rat) * 10 ^ e - b * 10 ^ f| < 10 ^ grid) : (a : Rat) * 10 ^ e = b * 10 ^ f := by
  have refine : ∀ (c : Nat) (h : Int), grid ≤ h →
      (c : Rat) * 10 ^ h = ((c * 10 ^ (h - grid).toNat : Nat) : Int) * 10 ^ grid := by
    intro c h within
    have shift : h = (h - grid).toNat + grid := by omega
    push_cast
    rw [mul_assoc, ← zpow_natCast, ← zpow_add₀ (by norm_num), ← shift]
  have step : (0 : Rat) < 10 ^ grid := zpow_pos (by norm_num) _
  rw [refine a e first, refine b f second] at close ⊢
  rw [← sub_mul, abs_mul, abs_of_pos step, mul_lt_iff_lt_one_left step] at close
  have whole :
      |((a * 10 ^ (e - grid).toNat : Nat) : Int) - (b * 10 ^ (f - grid).toNat : Nat)| < 1 := by
    exact_mod_cast close
  rw [sub_eq_zero.mp (Int.abs_lt_one_iff.mp whole)]

end Grid

theorem trim_ends_in_digit (found : Shortest) (digits : found.digits ≤ 10 ^ 17)
    (nonzero : found.digits ≠ 0) : (found.trim 17).digits % 10 ≠ 0 := by
  obtain ⟨zeros, -, kept, -, stops⟩ := trim_spec found 17
  have present : (found.trim 17).digits ≠ 0 := by
    intro zero
    rw [kept, zero, Nat.zero_mul] at nonzero
    exact nonzero rfl
  rcases stops with all | zero | stopped
  · -- Seventeen zeros leave a single one of the largest digits there can be.
    rw [kept, all] at digits
    have one : (found.trim 17).digits ≤ 1 := by omega
    omega
  · exact absurd zero present
  · exact stopped

theorem trim_value (found : Shortest) (fuel : Nat) :
    ((found.trim fuel).digits : Rat) * 10 ^ (found.trim fuel).exponent =
      found.digits * 10 ^ found.exponent := by
  obtain ⟨zeros, -, kept, exponent, -⟩ := trim_spec found fuel
  rw [exponent, kept, zpow_add₀ (by norm_num), zpow_natCast]
  push_cast
  ring

theorem decimal_eq_power (n t : Nat) : (n : Rat) / 10 ^ t = n * 10 ^ (-(t : Int)) := by
  rw [zpow_neg, zpow_natCast, div_eq_mul_inv]

theorem decimal_on_grid (n : Nat) {t : Nat} {grid : Int} (within : grid ≤ -(t : Int)) :
    ((n * 10 ^ (-(t : Int) - grid).toNat : Nat) : Rat) * 10 ^ grid = (n : Rat) / 10 ^ t := by
  have shift : -(t : Int) = (-(t : Int) - grid).toNat + grid := by omega
  rw [decimal_eq_power]
  push_cast
  rw [mul_assoc, ← zpow_natCast, ← zpow_add₀ (by norm_num), ← shift]

/-- On a finer grid than the decimal's own the digits would be a multiple of ten. -/
theorem exponent_ge_of_ending {digits n t : Nat} {exponent : Int} (ending : digits % 10 ≠ 0)
    (value : (digits : Rat) * 10 ^ exponent = n / 10 ^ t) : -(t : Int) ≤ exponent := by
  by_contra finer
  have ten : (0 : Rat) < 10 ^ exponent := zpow_pos (by norm_num) _
  rw [← decimal_on_grid n (by omega : exponent ≤ -(t : Int)), mul_left_inj' ten.ne'] at value
  have whole : digits = n * 10 ^ (-(t : Int) - exponent).toNat := by exact_mod_cast value
  obtain ⟨more, shift⟩ : ∃ more : Nat, (-(t : Int) - exponent).toNat = more + 1 :=
    ⟨(-(t : Int) - exponent).toNat - 1, by omega⟩
  rw [whole, shift, Nat.pow_succ, ← Nat.mul_assoc, Nat.mul_mod_left] at ending
  exact ending rfl

section Short

variable {n t : Nat} (positive : 0 < n) (places : t ≤ 22)

include positive places

theorem short_is_normal : (2 : Rat) ^ 52 ≤ (n : Rat) / 10 ^ t * unitsPerOne := by
  have power : (10 : Rat) ^ t ≤ 2 ^ 74 :=
    (pow_le_pow_right₀ (by norm_num) places).trans (by norm_num)
  have room : (2 : Rat) ^ 52 * 2 ^ 74 ≤ unitsPerOne := by
    rw [units_per_one_cast, ← pow_add]
    exact pow_le_pow_right₀ (by norm_num) (by norm_num)
  have one : (1 : Rat) ≤ n := by exact_mod_cast positive
  rw [div_mul_eq_mul_div, le_div_iff₀ (by positivity)]
  calc (2 : Rat) ^ 52 * 10 ^ t
      ≤ 2 ^ 52 * 2 ^ 74 := mul_le_mul_of_nonneg_left power (by positivity)
    _ ≤ unitsPerOne := room
    _ ≤ n * unitsPerOne := le_mul_of_one_le_left units_per_one_pos.le one

variable {x : Binary64} (rounds : x.magnitude = rounded (n / 10 ^ t))

include rounds

theorem short_interval :
    (interval x.units).Holds ((n : Rat) / 10 ^ t) ∧ (interval x.units).Holds x.magnitude ∧
      ∀ a, (interval x.units).Holds a →
        |a - (n : Rat) / 10 ^ t| ≤ x.magnitude / 2 ^ 52 := by
  have normal := short_is_normal positive places
  have nonzero := units_per_one_pos
  have units : (x.units : Rat) = nearest ((n : Rat) / 10 ^ t * unitsPerOne) := by
    rw [units_eq_magnitude_mul, rounds, rounded, div_mul_cancel₀ _ nonzero.ne']
  have inside := holds_of_nearest normal units
  rw [mul_div_cancel_right₀ _ nonzero.ne'] at inside
  obtain ⟨significand, grid, low, high, bits⟩ := bits_of_nearest normal units
  have value : x.magnitude = ((significand * 2 ^ grid : Nat) : Rat) / unitsPerOne := by
    rw [magnitude, bits]
  rw [bits] at inside ⊢
  rw [value]
  exact ⟨inside, value_holds low high, fun a holds => holds_close low high holds inside⟩

theorem grid_offers (prefer : Preference) {grid : Int} (within : grid ≤ -(t : Int)) :
    ∃ chosen, gridChoice prefer (interval x.units) grid = some chosen := by
  obtain ⟨inside, value, -⟩ := short_interval positive places rounds
  have quarters : ((4 * x.units : Nat) : Rat) / (4 * unitsPerOne) = x.magnitude := by
    rw [Nat.cast_mul, Nat.cast_ofNat, mul_div_mul_left _ _ (by norm_num), magnitude]
  have nonzero : n * 10 ^ (-(t : Int) - grid).toNat ≠ 0 :=
    (Nat.mul_pos positive (Nat.pow_pos (by decide))).ne'
  refine grid_choice_of_point nonzero ?_ ?_
  · rw [decimal_on_grid n within]
    exact inside
  · change (interval x.units).Holds (((4 * x.units : Nat) : Rat) / (4 * unitsPerOne))
    rw [quarters]
    exact value

variable (small : n ≤ exactLimit)

include small

theorem short_magnitude_bounds :
    0 < x.magnitude ∧ x.magnitude * 10 ^ t < 2 ^ 52 := by
  have normal := short_is_normal positive places
  obtain ⟨lower, upper⟩ := abs_le.mp (abs_rounded_sub_le normal)
  rw [← rounds] at lower upper
  have power : (0 : Rat) < 10 ^ t := by positivity
  have quotient : (0 : Rat) < (n : Rat) / 10 ^ t := div_pos (by exact_mod_cast positive) power
  have limit : (n : Rat) ≤ 1801439850948198 := by exact_mod_cast small
  have product : (n : Rat) / 10 ^ t * 10 ^ t = n := div_mul_cancel₀ _ power.ne'
  constructor
  · norm_num at lower
    linarith
  · have scaled : x.magnitude * 10 ^ t ≤ ((n : Rat) / 10 ^ t + n / 10 ^ t / 2 ^ 53) * 10 ^ t :=
      mul_le_mul_of_nonneg_right (by linarith) power.le
    rw [add_mul, div_mul_eq_mul_div ((n : Rat) / 10 ^ t), product] at scaled
    norm_num at scaled ⊢
    linarith

theorem short_units : 0 < x.units ∧ x.units.log2 < 1200 := by
  obtain ⟨present, bounded⟩ := short_magnitude_bounds positive places rounds small
  have one : (1 : Rat) ≤ 10 ^ t := one_le_pow₀ (by norm_num)
  have below : x.magnitude ≤ 2 ^ 52 := by
    have := mul_le_mul_of_nonneg_left one present.le
    linarith
  refine ⟨?_, (log2_lt_of_magnitude below).trans (by decide)⟩
  rw [Nat.pos_iff_ne_zero]
  intro zero
  rw [magnitude, zero, Nat.cast_zero, zero_div] at present
  exact present.ne rfl

theorem short_grid {leading : Int} (lower : (10 : Rat) ^ leading ≤ x.magnitude)
    (upper : x.magnitude < 10 ^ (leading + 1)) :
    ∃ grid : Int, grid ≤ leading ∧ grid ≤ -(t : Int) ∧ leading - grid ≤ 16 ∧
      x.magnitude / 2 ^ 52 < 10 ^ grid := by
  obtain ⟨present, bounded⟩ := short_magnitude_bounds positive places rounds small
  have power : (0 : Rat) < 10 ^ t := by positivity
  rcases le_total leading (-(t : Int)) with outside | inside
  · refine ⟨leading, le_rfl, outside, by omega, ?_⟩
    have ten : (0 : Rat) < 10 ^ leading := zpow_pos (by norm_num) _
    rw [zpow_add₀ (by norm_num), zpow_one] at upper
    rw [div_lt_iff₀ (by positivity)]
    norm_num
    linarith
  · refine ⟨-(t : Int), inside, le_rfl, ?_, ?_⟩
    · have short : (10 : Rat) ^ leading < 10 ^ (16 - (t : Int)) := by
        have scaled := mul_le_mul_of_nonneg_right lower power.le
        rw [zpow_sub₀ (by norm_num), zpow_natCast, lt_div_iff₀ power]
        norm_num at bounded ⊢
        linarith
      have order := (zpow_lt_zpow_iff_right₀ (by norm_num : (1 : Rat) < 10)).mp short
      omega
    · rw [div_lt_iff₀ (by positivity), zpow_neg, zpow_natCast, inv_mul_eq_div, lt_div_iff₀ power]
      exact bounded

/-- The digits found for the double nearest to a short decimal are those of the decimal. -/
theorem shortest_of_short (prefer : Preference) :
    ((x.shortest prefer).digits : Rat) * 10 ^ (x.shortest prefer).exponent = n / 10 ^ t ∧
      -(t : Int) ≤ (x.shortest prefer).exponent := by
  obtain ⟨-, -, close⟩ := short_interval positive places rounds
  obtain ⟨units, highest⟩ := short_units positive places rounds small
  have nonzero : x.isZero = false := by
    rw [isZero, beq_eq_false_iff_ne]
    exact units.ne'
  obtain ⟨lower, upper, -, -⟩ := leading_of_units units highest
  rw [shortest, nonzero, if_neg (by decide)]
  dsimp only at lower upper ⊢
  generalize leadingExponent x.units (leadingGuess x.units) 4 = leading at lower upper ⊢
  obtain ⟨grid, gridLeading, gridPlaces, reach, step⟩ :=
    short_grid positive places rounds small lower upper
  obtain ⟨_, offered⟩ := grid_offers positive places rounds prefer gridPlaces
  have count : leading - ((leading - grid).toNat : Int) = grid := by omega
  rcases shortest_from_cases prefer (interval x.units) leading 0 17 with
    ⟨tried, point, -, few, chosen, none, found⟩ | ⟨-, none⟩
  · have early : tried ≤ (leading - grid).toNat := by
      by_contra late
      have missed := none (leading - grid).toNat (Nat.zero_le _) (by omega)
      rw [count, offered] at missed
      cases missed
    obtain ⟨holds, present, near⟩ := grid_choice_spec chosen
    -- The point found is on the decimal's grid too, and there is no other point there.
    have same : (point : Rat) * 10 ^ (leading - (tried : Int)) = n / 10 ^ t := by
      have distance := (close _ ((contains_iff _ _ _).mp holds)).trans_lt step
      rw [decimal_eq_power] at distance ⊢
      exact same_of_grid (by omega) gridPlaces distance
    have points := grid_below_lt upper tried
    have power : 10 ^ (tried + 1) ≤ 10 ^ 17 := Nat.pow_le_pow_right (by decide) (by omega)
    have digits : point ≤ 10 ^ 17 := by omega
    have trimmed := (trim_value ⟨point, leading - tried⟩ 17).trans same
    have ending := trim_ends_in_digit ⟨point, leading - tried⟩ digits present
    rw [found]
    exact ⟨trimmed, exponent_ge_of_ending ending trimmed⟩
  · have missed := none (leading - grid).toNat (Nat.zero_le _) (by omega)
    rw [count, offered] at missed
    cases missed

end Short

/-- Digits that make up a decimal, with no more places than it has. -/
structure Spells (found : Shortest) (n t : Nat) : Prop where
  value : (found.digits : Rat) * 10 ^ found.exponent = n / 10 ^ t
  places : -(t : Int) ≤ found.exponent
  zero_plain : found.digits = 0 → found.exponent = 0

theorem shortest_spells {n t : Nat} (places : t ≤ 22) {x : Binary64}
    (rounds : x.magnitude = rounded (n / 10 ^ t)) (small : n ≤ exactLimit) (prefer : Preference) :
    Spells (x.shortest prefer) n t := by
  rcases Nat.eq_zero_or_pos n with rfl | positive
  · have nothing : rounded ((0 : Nat) : Rat) = 0 := by
      rw [rounded_of_nat (by norm_num), Nat.cast_zero]
    have zero : x.isZero = true := by
      rw [is_zero_iff_magnitude, rounds, Nat.cast_zero, zero_div]
      exact_mod_cast nothing
    rw [shortest, if_pos zero]
    exact ⟨by simp, by simp, fun _ => rfl⟩
  · obtain ⟨value, least⟩ := shortest_of_short positive places rounds small prefer
    obtain ⟨-, highest⟩ := short_units positive places rounds small
    exact ⟨value, least, (shortest_within_reach prefer highest).zero_plain⟩

theorem Spells.digits_le {found : Shortest} {n t : Nat} (spells : Spells found n t) :
    found.digits * 10 ^ found.exponent.toNat ≤ n := by
  have value := spells.value
  have least := spells.places
  have power : (0 : Rat) < 10 ^ t := by positivity
  have whole : (found.digits : Rat) * 10 ^ (found.exponent + t) = n := by
    rw [zpow_add₀ (by norm_num), zpow_natCast, ← mul_assoc, value, div_mul_cancel₀ _ power.ne']
  have shift : found.exponent + (t : Int) =
      found.exponent.toNat + (found.exponent + t - found.exponent.toNat).toNat := by omega
  have one : (1 : Rat) ≤ 10 ^ (found.exponent + t - found.exponent.toNat).toNat :=
    one_le_pow₀ (by norm_num)
  rw [shift, zpow_add₀ (by norm_num), zpow_natCast, zpow_natCast, ← mul_assoc] at whole
  have bound : (found.digits : Rat) * 10 ^ found.exponent.toNat ≤ n := by
    rw [← whole]
    exact le_mul_of_one_le_right (by positivity) one
  exact_mod_cast bound

end MotorTariff.Binary64
