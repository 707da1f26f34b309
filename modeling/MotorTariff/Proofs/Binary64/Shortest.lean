import MotorTariff.Binary64.Shortest
import MotorTariff.Proofs.Binary64.Operations

/-!
# Shortest digits

The search for digits compares whole numbers that stand for magnitudes over a common denominator.
Its first digit is where it is claimed to be, so no grid has more than seventeen digits.
-/

set_option autoImplicit false

namespace MotorTariff.Binary64

-- Powers are the core library's own, also where other libraries define some.
attribute [local instance (high)] instPowNat

namespace Interval

section Scaled

variable (digits : Nat) (exponent : Int) (quarters : Nat)

theorem scaled_eq :
    ((scaled digits exponent quarters).1 : Rat) =
        digits * 10 ^ exponent * (4 * unitsPerOne * 10 ^ (-exponent).toNat) ∧
      ((scaled digits exponent quarters).2 : Rat) =
        quarters / (4 * unitsPerOne) * (4 * unitsPerOne * 10 ^ (-exponent).toNat) := by
  have shift : exponent + ((-exponent).toNat : Int) = exponent.toNat := by omega
  have power : (10 : Rat) ^ exponent * 10 ^ (-exponent).toNat = 10 ^ exponent.toNat := by
    rw [← zpow_natCast, ← zpow_natCast, ← zpow_add₀ (by norm_num), shift]
  have positive := units_per_one_pos
  unfold scaled
  generalize unitsPerOne = units at positive
  constructor
  · push_cast
    rw [← power]
    ring
  · push_cast
    field_simp

theorem scaled_denominator_pos :
    (0 : Rat) < 4 * unitsPerOne * 10 ^ (-exponent).toNat := by
  have positive := units_per_one_pos
  positivity

theorem scaled_le_iff :
    (scaled digits exponent quarters).1 ≤ (scaled digits exponent quarters).2 ↔
      (digits : Rat) * 10 ^ exponent ≤ quarters / (4 * unitsPerOne) := by
  obtain ⟨point, value⟩ := scaled_eq digits exponent quarters
  rw [← Nat.cast_le (α := Rat), point, value,
    mul_le_mul_iff_of_pos_right (scaled_denominator_pos exponent)]

theorem le_scaled_iff :
    (scaled digits exponent quarters).2 ≤ (scaled digits exponent quarters).1 ↔
      (quarters : Rat) / (4 * unitsPerOne) ≤ digits * 10 ^ exponent := by
  obtain ⟨point, value⟩ := scaled_eq digits exponent quarters
  rw [← Nat.cast_le (α := Rat), point, value,
    mul_le_mul_iff_of_pos_right (scaled_denominator_pos exponent)]

end Scaled

end Interval

open Binary64.Interval

theorem leading_exponent_bounds {units fuel : Nat} {candidate : Int}
    (lower : (10 : Rat) ^ candidate ≤ (units : Rat) / unitsPerOne)
    (upper : (units : Rat) / unitsPerOne < 10 ^ (candidate + fuel + 1)) :
    (10 : Rat) ^ leadingExponent units candidate fuel ≤ (units : Rat) / unitsPerOne ∧
      (units : Rat) / unitsPerOne < 10 ^ (leadingExponent units candidate fuel + 1) ∧
      candidate ≤ leadingExponent units candidate fuel ∧
      leadingExponent units candidate fuel ≤ candidate + fuel := by
  induction fuel generalizing candidate with
  | zero =>
      rw [Nat.cast_zero, add_zero] at upper
      exact ⟨lower, upper, le_rfl, (Int.add_zero candidate).ge⟩
  | succ fuel ih =>
      have reaches := scaled_le_iff 1 (candidate + 1) (4 * units)
      have quarters : ((4 * units : Nat) : Rat) / (4 * unitsPerOne) = units / unitsPerOne := by
        push_cast
        rw [mul_div_mul_left _ _ (by norm_num)]
      rw [Nat.cast_one, one_mul, quarters] at reaches
      rw [leadingExponent]
      by_cases next : (scaled 1 (candidate + 1) (4 * units)).1 ≤
          (scaled 1 (candidate + 1) (4 * units)).2
      · simp only [if_pos next]
        have further : candidate + 1 + fuel + 1 = candidate + ((fuel + 1 : Nat) : Int) + 1 := by
          push_cast
          ring
        obtain ⟨low, high, above, below⟩ := ih (reaches.mp next) (by rw [further]; exact upper)
        exact ⟨low, high, by omega, by push_cast; omega⟩
      · simp only [if_neg next]
        exact ⟨lower, not_le.mp (mt reaches.mpr next), le_rfl, by omega⟩

def guessAt (highest : Nat) : Int := ((highest : Int) - 1074) * 30103 / 100000 - 1

set_option maxRecDepth 20000 in
theorem guess_near : ∀ highest < 1200,
    (scaled 1 (guessAt highest) (4 * 2 ^ highest)).1 ≤
        (scaled 1 (guessAt highest) (4 * 2 ^ highest)).2 ∧
      (scaled 1 (guessAt highest + 5) (4 * 2 ^ (highest + 1))).2 ≤
        (scaled 1 (guessAt highest + 5) (4 * 2 ^ (highest + 1))).1 := by
  decide +kernel

section Leading

variable {units : Nat} (positive : 0 < units) (highest : units.log2 < 1200)

include positive highest

theorem leading_guess_near :
    (10 : Rat) ^ leadingGuess units ≤ (units : Rat) / unitsPerOne ∧
      (units : Rat) / unitsPerOne < 10 ^ (leadingGuess units + 5) := by
  obtain ⟨lower, upper⟩ := guess_near units.log2 highest
  have unit := units_per_one_pos
  have lowest : ((4 * 2 ^ units.log2 : Nat) : Rat) / (4 * unitsPerOne) ≤ units / unitsPerOne := by
    have bit : ((2 ^ units.log2 : Nat) : Rat) ≤ units := by
      exact_mod_cast Nat.log2_self_le positive.ne'
    rw [Nat.cast_mul, Nat.cast_ofNat, mul_div_mul_left _ _ (by norm_num)]
    exact div_le_div_of_nonneg_right bit unit.le
  have above : (units : Rat) / unitsPerOne <
      ((4 * 2 ^ (units.log2 + 1) : Nat) : Rat) / (4 * unitsPerOne) := by
    have bit : (units : Rat) < (2 ^ (units.log2 + 1) : Nat) := by
      exact_mod_cast Nat.lt_log2_self (n := units)
    rw [Nat.cast_mul, Nat.cast_ofNat, mul_div_mul_left _ _ (by norm_num)]
    exact div_lt_div_of_pos_right bit unit
  have lowerPower := (scaled_le_iff 1 (guessAt units.log2) (4 * 2 ^ units.log2)).mp lower
  have upperPower := (le_scaled_iff 1 (guessAt units.log2 + 5) (4 * 2 ^ (units.log2 + 1))).mp upper
  rw [Nat.cast_one, one_mul] at lowerPower upperPower
  exact ⟨lowerPower.trans lowest, above.trans_le upperPower⟩

theorem leading_of_units :
    let leading := leadingExponent units (leadingGuess units) 4
    (10 : Rat) ^ leading ≤ (units : Rat) / unitsPerOne ∧
      (units : Rat) / unitsPerOne < 10 ^ (leading + 1) ∧ -325 ≤ leading ∧ leading ≤ 44 := by
  obtain ⟨lower, upper⟩ := leading_guess_near positive highest
  have reach : leadingGuess units + 5 = leadingGuess units + ((4 : Nat) : Int) + 1 := by omega
  rw [reach] at upper
  obtain ⟨low, high, above, below⟩ := leading_exponent_bounds lower upper
  have guess : -325 ≤ leadingGuess units ∧ leadingGuess units ≤ 40 := by
    unfold leadingGuess
    omega
  exact ⟨low, high, by omega, by push_cast at below; omega⟩

end Leading

section Choice

variable {prefer : Preference} {range : Interval} {exponent : Int} {point : Nat}

def gridBelow (range : Interval) (exponent : Int) : Nat :=
  (scaled 1 exponent range.value).2 / (scaled 1 exponent range.value).1

/-- Whatever is preferred, one of the two neighbours is chosen, only if it is in the interval. -/
theorem grid_choice_spec (chosen : gridChoice prefer range exponent = some point) :
    range.contains point exponent = true ∧ point ≠ 0 ∧
      (point = gridBelow range exponent ∨ point = gridBelow range exponent + 1) := by
  unfold gridChoice at chosen
  unfold gridBelow
  generalize scaled 1 exponent range.value = parts at chosen ⊢
  obtain ⟨step, value⟩ := parts
  dsimp only at chosen ⊢
  generalize value / step = lower at chosen ⊢
  split at chosen
  next => cases chosen
  next below above =>
    rw [Bool.and_eq_true, bne_iff_ne] at below
    cases chosen
    exact ⟨below.1, below.2, Or.inl rfl⟩
  next below above =>
    cases chosen
    exact ⟨above, Nat.succ_ne_zero _, Or.inr rfl⟩
  next below above =>
    rw [Bool.and_eq_true, bne_iff_ne] at below
    have either : point = lower ∨ point = lower + 1 := by
      split_ifs at chosen
      · exact Or.inl (Option.some.inj chosen).symm
      · exact Or.inr (Option.some.inj chosen).symm
      · cases prefer with
        | evenDigit =>
            have same := Option.some.inj chosen
            omega
        | larger => exact Or.inr (Option.some.inj chosen).symm
    rcases either with rfl | rfl
    · exact ⟨below.1, below.2, Or.inl rfl⟩
    · exact ⟨above, Nat.succ_ne_zero _, Or.inr rfl⟩

theorem grid_choice_of_neighbour
    (neighbour : range.contains (gridBelow range exponent) exponent = true ∧
        gridBelow range exponent ≠ 0 ∨
      range.contains (gridBelow range exponent + 1) exponent = true) :
    ∃ chosen, gridChoice prefer range exponent = some chosen := by
  unfold gridChoice
  unfold gridBelow at neighbour
  generalize scaled 1 exponent range.value = parts at neighbour ⊢
  obtain ⟨step, value⟩ := parts
  dsimp only at neighbour ⊢
  generalize value / step = lower at neighbour ⊢
  split
  next noneBelow noneAbove =>
    rw [Bool.and_eq_false_iff, bne_eq_false_iff_eq] at noneBelow
    rw [noneAbove] at neighbour
    rcases neighbour with ⟨inside, nonzero⟩ | outside
    · rw [inside] at noneBelow
      exact absurd noneBelow (by simp [nonzero])
    · cases outside
  next => exact ⟨_, rfl⟩
  next => exact ⟨_, rfl⟩
  next =>
    split_ifs
    · exact ⟨_, rfl⟩
    · exact ⟨_, rfl⟩
    · cases prefer <;> exact ⟨_, rfl⟩

end Choice

theorem shortest_from_cases (prefer : Preference) (range : Interval) (leading : Int)
    (digits fuel : Nat) :
    (∃ count point, digits ≤ count ∧ count < digits + fuel ∧
        gridChoice prefer range (leading - count) = some point ∧
        (∀ earlier, digits ≤ earlier → earlier < count →
          gridChoice prefer range (leading - earlier) = none) ∧
        shortestFrom prefer range leading digits fuel = ⟨point, leading - count⟩) ∨
      shortestFrom prefer range leading digits fuel = ⟨0, 0⟩ ∧
        ∀ count, digits ≤ count → count < digits + fuel →
          gridChoice prefer range (leading - count) = none := by
  induction fuel generalizing digits with
  | zero => exact Or.inr ⟨rfl, fun count low high => absurd high (by omega)⟩
  | succ fuel ih =>
      rw [shortestFrom]
      cases chosen : gridChoice prefer range (leading - digits) with
      | some point =>
          exact Or.inl ⟨digits, point, le_rfl, by omega, chosen,
            fun earlier low high => absurd high (Nat.not_lt.mpr low), rfl⟩
      | none =>
          dsimp only
          have also : ∀ {bound}, (∀ count, digits + 1 ≤ count → count < bound →
                gridChoice prefer range (leading - count) = none) →
              ∀ count, digits ≤ count → count < bound →
                gridChoice prefer range (leading - count) = none := by
            intro bound later count low high
            rcases low.eq_or_lt with rfl | further
            · exact chosen
            · exact later count further high
          rcases ih (digits + 1) with ⟨count, point, low, high, later, none, found⟩ | ⟨found, none⟩
          · exact Or.inl ⟨count, point, by omega, by omega, later, also none, found⟩
          · exact Or.inr ⟨found, also fun count low high => none count low (by omega)⟩

theorem trim_spec (found : Shortest) (fuel : Nat) :
    ∃ zeros ≤ fuel, found.digits = (found.trim fuel).digits * 10 ^ zeros ∧
      (found.trim fuel).exponent = found.exponent + zeros ∧
      (zeros = fuel ∨ (found.trim fuel).digits = 0 ∨ (found.trim fuel).digits % 10 ≠ 0) := by
  induction fuel generalizing found with
  | zero => exact ⟨0, le_rfl, by simp [Shortest.trim], by simp [Shortest.trim], Or.inl rfl⟩
  | succ fuel ih =>
      rw [Shortest.trim]
      by_cases more : found.digits % 10 = 0 ∧ found.digits ≠ 0
      · rw [if_pos more]
        obtain ⟨zeros, bound, digits, exponent, stops⟩ := ih ⟨found.digits / 10, found.exponent + 1⟩
        refine ⟨zeros + 1, by omega, ?_, ?_, ?_⟩
        · have tenth := Nat.div_add_mod found.digits 10
          rw [Nat.pow_succ, ← Nat.mul_assoc, ← digits]
          dsimp only
          omega
        · rw [exponent]
          push_cast
          ring
        · rcases stops with out | stopped
          · exact Or.inl (by omega)
          · exact Or.inr stopped
      · rw [if_neg more]
        refine ⟨0, Nat.zero_le _, by simp, by simp, Or.inr ?_⟩
        omega

/-- A grid with this many digits after the first has no points of more digits below the value. -/
theorem grid_below_lt {units : Nat} {leading : Int}
    (upper : (units : Rat) / unitsPerOne < 10 ^ (leading + 1)) (count : Nat) :
    gridBelow (interval units) (leading - count) < 10 ^ (count + 1) := by
  obtain ⟨step, value⟩ := scaled_eq 1 (leading - count) (4 * units)
  have positive := scaled_denominator_pos (leading - count)
  generalize (4 * unitsPerOne * 10 ^ (-(leading - count)).toNat : Rat) = denominator
    at step value positive
  have quarters : ((4 * units : Nat) : Rat) / (4 * unitsPerOne) = units / unitsPerOne := by
    rw [Nat.cast_mul, Nat.cast_ofNat, mul_div_mul_left _ _ (by norm_num)]
  have exponents : (10 : Rat) ^ (leading + 1) = 10 ^ (leading - count) * 10 ^ (count + 1) := by
    rw [← zpow_natCast, ← zpow_add₀ (by norm_num)]
    congr 1
    push_cast
    ring
  rw [quarters] at value
  rw [Nat.cast_one, one_mul] at step
  have power : (0 : Rat) < 10 ^ (leading - (count : Int)) := zpow_pos (by norm_num) _
  have stepPositive : 0 < (scaled 1 (leading - count) (4 * units)).1 := by
    rw [← Nat.cast_pos (α := Rat), step]
    exact mul_pos power positive
  change (scaled 1 (leading - count) (4 * units)).2 / (scaled 1 (leading - count) (4 * units)).1 < _
  rw [Nat.div_lt_iff_lt_mul stepPositive, ← Nat.cast_lt (α := Rat), value, Nat.cast_mul, step]
  calc (units : Rat) / unitsPerOne * denominator
      < 10 ^ (leading + 1) * denominator := mul_lt_mul_of_pos_right upper positive
    _ = ((10 ^ (count + 1) : Nat) : Rat) * (10 ^ (leading - (count : Int)) * denominator) := by
        rw [exponents]
        push_cast
        ring

/-- What the digits of a double that is not too large can be, whatever is preferred on a tie. -/
structure WithinReach (found : Shortest) : Prop where
  digits_le : found.digits ≤ 10 ^ 17
  zero_plain : found.digits = 0 → found.exponent = 0
  exponent_ge : -341 ≤ found.exponent
  exponent_le : found.exponent ≤ 61

theorem zero_within_reach : WithinReach ⟨0, 0⟩ :=
  ⟨by decide, fun _ => rfl, by decide, by decide⟩

theorem trim_within_reach {found : Shortest} (digits : found.digits ≤ 10 ^ 17)
    (plain : found.digits = 0 → found = ⟨0, 0⟩) (lower : -341 ≤ found.exponent)
    (upper : found.exponent ≤ 44) : WithinReach (found.trim 17) := by
  rcases eq_or_ne found.digits 0 with zero | nonzero
  · rw [plain zero]
    exact zero_within_reach
  obtain ⟨zeros, bound, kept, exponent, -⟩ := trim_spec found 17
  have fewer : (found.trim 17).digits ≤ found.digits := by
    rw [kept]
    exact Nat.le_mul_of_pos_right _ (Nat.pow_pos (by decide))
  refine ⟨fewer.trans digits, fun trimmed => absurd ?_ nonzero, by omega, by omega⟩
  rw [kept, trimmed, Nat.zero_mul]

theorem shortest_within_reach (prefer : Preference) {x : Binary64} (highest : x.units.log2 < 1200) :
    WithinReach (x.shortest prefer) := by
  rw [shortest]
  cases zero : x.isZero with
  | true =>
      rw [if_pos rfl]
      exact zero_within_reach
  | false =>
      have positive : 0 < x.units := by
        rw [isZero, beq_eq_false_iff_ne] at zero
        exact Nat.pos_of_ne_zero zero
      obtain ⟨-, upper, above, below⟩ := leading_of_units positive highest
      rw [if_neg (by decide)]
      dsimp only at upper above below ⊢
      generalize leadingExponent x.units (leadingGuess x.units) 4 = leading at upper above below ⊢
      rcases shortest_from_cases prefer (interval x.units) leading 0 17 with
        ⟨count, point, -, few, chosen, -, found⟩ | ⟨found, -⟩
      · obtain ⟨-, nonzero, near⟩ := grid_choice_spec chosen
        have points := grid_below_lt upper count
        have power : 10 ^ (count + 1) ≤ 10 ^ 17 := Nat.pow_le_pow_right (by decide) (by omega)
        rw [found]
        refine trim_within_reach ?_ (fun none => absurd none nonzero) ?_ ?_
        · dsimp only
          omega
        · dsimp only
          omega
        · dsimp only
          omega
      · rw [found]
        exact trim_within_reach (by decide) (fun _ => rfl) (by decide) (by decide)

end MotorTariff.Binary64
