import MotorTariff.Proofs.Money.Stored

/-!
# Rounding a rational number half away from zero

Amounts are shown with ties going away from zero, while they are stored with ties going to even. Two
roundings in a row, to ever fewer places, are one rounding except just below a tie of the coarser
one: there the finer rounding may reach the tie, and the coarser then goes the other way.
-/

set_option autoImplicit false

namespace MotorTariff

namespace Rounding

/-- The nearest integer; of two equally near ones, the one farther from zero. -/
def halfAway (x : Rat) : Int := if 0 ≤ x then ⌊x + 1 / 2⌋ else -⌊-x + 1 / 2⌋

theorem half_away_of_nonneg {x : Rat} (nonneg : 0 ≤ x) : halfAway x = ⌊x + 1 / 2⌋ :=
  if_pos nonneg

theorem half_away_le {x : Rat} (nonneg : 0 ≤ x) : (halfAway x : Rat) ≤ x + 1 / 2 := by
  rw [half_away_of_nonneg nonneg]
  exact Int.floor_le _

theorem half_away_nonneg {x : Rat} (nonneg : 0 ≤ x) : 0 ≤ halfAway x := by
  rw [half_away_of_nonneg nonneg]
  exact Int.floor_nonneg.mpr (by linarith)

theorem half_away_neg (x : Rat) : halfAway (-x) = -halfAway x := by
  have tie : ⌊(1 / 2 : Rat)⌋ = 0 := by norm_num
  unfold halfAway
  rcases lt_trichotomy x 0 with below | rfl | above
  · rw [if_pos (by linarith), if_neg (not_le.mpr below), neg_neg]
  · simp only [neg_zero, le_refl, if_true, zero_add, tie]
  · rw [if_neg (by linarith), if_pos above.le, neg_neg]

theorem half_away_quotient (numerator : Nat) {denominator : Nat} (positive : 0 < denominator) :
    halfAway ((numerator : Rat) / denominator) =
      roundDiv .awayFromZero numerator denominator := by
  -- Rounding a quotient of natural numbers is rounding the rational number: doubled, the remainder
  -- reaches the denominator exactly if half of it is enough for the next integer.
  have positiveCast : (0 : Rat) < denominator := by exact_mod_cast positive
  have remainder : numerator % denominator < denominator := Nat.mod_lt _ positive
  have remainderCast : ((numerator % denominator : Nat) : Rat) < denominator := by
    exact_mod_cast remainder
  have part : ((numerator % denominator : Nat) : Rat) / denominator < 1 :=
    (div_lt_one positiveCast).mpr remainderCast
  have partNonneg : (0 : Rat) ≤ (numerator % denominator : Nat) / denominator := by positivity
  have small : ((numerator % denominator : Nat) : Rat) / denominator < 1 / 2 ↔
      2 * (numerator % denominator) < denominator := by
    rw [div_lt_div_iff₀ positiveCast (by norm_num), mul_comm, one_mul]
    exact_mod_cast Iff.rfl
  rw [half_away_of_nonneg (by positivity), quotient_split numerator positive, Int.floor_eq_iff]
  by_cases below : 2 * (numerator % denominator) < denominator
  · have half := small.mpr below
    have rounded : roundDiv .awayFromZero numerator denominator = numerator / denominator := by
      simp [roundDiv, below]
    rw [rounded, Int.cast_natCast]
    constructor <;> linarith
  · have half := not_lt.mp (mt small.mp below)
    have rounded : roundDiv .awayFromZero numerator denominator =
        numerator / denominator + 1 := by
      simp [roundDiv, below]
    rw [rounded, Int.cast_natCast, Nat.cast_succ]
    constructor <;> linarith

/-- No integer is nearer to the number, and one that is as near is no farther from zero. -/
structure IsHalfAway (x : Rat) (n : Int) : Prop where
  nearest : ∀ other : Int, |x - n| ≤ |x - other|
  away : ∀ other : Int, |x - other| = |x - n| → |other| ≤ |n|

theorem half_away_spec_of_nonneg {x : Rat} (nonneg : 0 ≤ x) : IsHalfAway x (halfAway x) := by
  have lower : (halfAway x : Rat) ≤ x + 1 / 2 := half_away_le nonneg
  have upper : x + 1 / 2 < halfAway x + 1 := by
    rw [half_away_of_nonneg nonneg]
    exact Int.lt_floor_add_one _
  have near : |x - halfAway x| ≤ 1 / 2 := abs_le.mpr ⟨by linarith, by linarith⟩
  have above : ∀ other : Int, halfAway x < other → 1 / 2 < |x - other| := by
    intro other greater
    have next : (halfAway x : Rat) + 1 ≤ other := by exact_mod_cast greater
    rw [abs_sub_comm]
    exact lt_of_lt_of_le (by linarith) (le_abs_self _)
  constructor
  · intro other
    rcases lt_trichotomy other (halfAway x) with less | rfl | greater
    · have next : (other : Rat) + 1 ≤ halfAway x := by exact_mod_cast less
      exact near.trans (le_trans (by linarith) (le_abs_self _))
    · exact le_rfl
    · exact near.trans (above other greater).le
  · intro other tie
    have notAbove : other ≤ halfAway x := by
      by_contra greater
      linarith [above other (not_le.mp greater)]
    have notNegative : 0 ≤ other := by
      by_contra negative
      have negativeCast : (other : Rat) + 1 ≤ 0 := by exact_mod_cast not_le.mp negative
      linarith [le_abs_self (x - other)]
    rwa [abs_of_nonneg notNegative, abs_of_nonneg (half_away_nonneg nonneg)]

theorem half_away_spec (x : Rat) : IsHalfAway x (halfAway x) := by
  rcases le_total 0 x with nonneg | nonpos
  · exact half_away_spec_of_nonneg nonneg
  have mirrored := half_away_spec_of_nonneg (neg_nonneg.mpr nonpos)
  rw [half_away_neg] at mirrored
  have distance : ∀ n : Int, |-x - ((-n : Int) : Rat)| = |x - n| := by
    intro n
    rw [Int.cast_neg, neg_sub_neg, abs_sub_comm]
  constructor
  · intro other
    rw [← distance other, ← distance (halfAway x)]
    exact mirrored.nearest (-other)
  · intro other tie
    rw [← distance other, ← distance (halfAway x)] at tie
    rw [← abs_neg other, ← abs_neg (halfAway x)]
    exact mirrored.away (-other) tie

theorem half_away_mono {x y : Rat} (order : x ≤ y) : halfAway x ≤ halfAway y := by
  have ofNonneg : ∀ {a b : Rat}, 0 ≤ a → a ≤ b → halfAway a ≤ halfAway b := by
    intro a b nonneg less
    rw [half_away_of_nonneg nonneg, half_away_of_nonneg (nonneg.trans less)]
    exact Int.floor_le_floor (by linarith)
  rcases le_total 0 x with xNonneg | xNonpos
  · exact ofNonneg xNonneg order
  rcases le_total 0 y with yNonneg | yNonpos
  · have mirrored := half_away_nonneg (neg_nonneg.mpr xNonpos)
    rw [half_away_neg] at mirrored
    have above := half_away_nonneg yNonneg
    omega
  · have mirrored := ofNonneg (neg_nonneg.mpr yNonpos) (neg_le_neg order)
    rw [half_away_neg, half_away_neg] at mirrored
    omega

end Rounding

namespace Decimal

open Rounding

def awayAt (places : Nat) (x : Rat) : Rat := halfAway (x * 10 ^ places) / 10 ^ places

theorem away_at_neg (places : Nat) (x : Rat) : awayAt places (-x) = -awayAt places x := by
  rw [awayAt, awayAt, neg_mul, half_away_neg]
  push_cast
  rw [neg_div]

theorem away_at_mono (places : Nat) {x y : Rat} (order : x ≤ y) :
    awayAt places x ≤ awayAt places y := by
  have power : (0 : Rat) < 10 ^ places := by positivity
  have rounded : halfAway (x * 10 ^ places) ≤ halfAway (y * 10 ^ places) :=
    half_away_mono (mul_le_mul_of_nonneg_right order power.le)
  exact div_le_div_of_nonneg_right (by exact_mod_cast rounded) power.le

theorem away_at_of_grid {places : Nat} {x : Rat} {n : Int} (grid : x * 10 ^ places = n) :
    awayAt places x = x := by
  have power : (10 : Rat) ^ places ≠ 0 := by positivity
  have whole : halfAway (n : Rat) = n := by
    have tie : ⌊(1 / 2 : Rat)⌋ = 0 := by norm_num
    unfold halfAway
    split_ifs with nonneg
    · rw [Int.floor_intCast_add, tie, add_zero]
    · rw [← Int.cast_neg, Int.floor_intCast_add, tie, add_zero, Int.neg_neg]
  rw [awayAt, grid, whole, ← grid, mul_div_cancel_right₀ _ power]

theorem round_away_to_rat (places : Nat) (amount : Decimal) :
    (amount.round .awayFromZero places).toRat = awayAt places amount.toRat := by
  by_cases within : amount.scale ≤ places
  · have grid := signed_at_eq_product amount within
    rw [round_of_scale_le _ within, away_at_of_grid grid.symm]
  have fewer : places ≤ amount.scale := Nat.le_of_not_le within
  have power : (10 : Rat) ^ places ≠ 0 := by positivity
  have split : (10 : Rat) ^ amount.scale = 10 ^ (amount.scale - places) * 10 ^ places := by
    rw [← pow_add, Nat.sub_add_cancel fewer]
  have dropped : (amount.mantissa : Rat) / 10 ^ amount.scale * 10 ^ places =
      (amount.mantissa : Rat) / ((10 ^ (amount.scale - places) : Nat) : Rat) := by
    push_cast
    rw [split, ← div_div, div_mul_cancel₀ _ power]
  have rounded := half_away_quotient amount.mantissa
    (Nat.pow_pos (n := amount.scale - places) (by decide : 0 < 10))
  rw [← dropped] at rounded
  rw [to_rat_eq_quotient, signed_round _ within, scale_round _ within, to_rat_eq_quotient, signed]
  cases amount.negative with
  | false => simp [awayAt, rounded]
  | true => simp [awayAt, neg_div, half_away_neg, rounded]

end Decimal

namespace Money

open Rounding Decimal

theorem round_to_cents_value (money : Money) :
    money.roundToCents.value = awayAt shownPlaces money.value :=
  round_away_to_rat shownPlaces money.amount

/-- The part past the last whole cent is less than half a cent, by half of the last kept place at
most. So it is kept as half a cent. -/
def IsKeptAsHalfCent (x : Rat) : Prop :=
  0.495 ≤ Int.fract (|x| * 100) ∧ Int.fract (|x| * 100) < 0.5

section Units

variable {cents units : Int} {part : Rat} (spec : IsHalfEven (100 * (cents + part)) units)

include spec

theorem units_below_half_cent (nonneg : 0 ≤ part) (below : part < 0.495) :
    100 * cents ≤ units ∧ units < 100 * cents + 50 := by
  obtain ⟨lower, upper⟩ := abs_le.mp spec.near
  have few : (units : Rat) < 100 * cents + 50 := by linarith
  have many : (100 * cents : Rat) - 1 < units := by linarith
  have fewInt : units < 100 * cents + 50 := by exact_mod_cast few
  have manyInt : 100 * cents - 1 < units := by exact_mod_cast many
  omega

theorem units_reach_half_cent (lt : part < 1) (reaches : 0.495 ≤ part) :
    100 * cents + 50 ≤ units ∧ units ≤ 100 * cents + 100 := by
  -- The kept units of an amount reach the half cent from half a unit below it on. At half a unit
  -- they do as well: the half cent is an even number of units, and the unit below it an odd one.
  obtain ⟨lower, upper⟩ := abs_le.mp spec.near
  have most : (100 * cents : Rat) + 49 ≤ units := by linarith
  have few : (units : Rat) < 100 * cents + 101 := by linarith
  have mostInt : 100 * cents + 49 ≤ units := by exact_mod_cast most
  have fewInt : units < 100 * cents + 101 := by exact_mod_cast few
  refine ⟨?_, by omega⟩
  by_contra short
  have last : units = 100 * cents + 49 := by omega
  have lastCast : (units : Rat) = 100 * cents + 49 := by exact_mod_cast last
  have tie : |100 * (cents + part) - units| = 1 / 2 := by
    rw [abs_of_nonneg (by linarith)]
    linarith
  have even := spec.even tie
  omega

end Units

section Nonneg

variable {x : Rat}

theorem shown_of_nonneg (nonneg : 0 ≤ x) :
    awayAt shownPlaces x =
      if Int.fract (x * 100) < 0.5 then (⌊x * 100⌋ : Rat) / 100
      else ((⌊x * 100⌋ : Rat) + 1) / 100 := by
  have places : (10 : Rat) ^ shownPlaces = 100 := by norm_num [shownPlaces]
  have split : x * 100 = ⌊x * 100⌋ + Int.fract (x * 100) := (Int.floor_add_fract _).symm
  have partNonneg := Int.fract_nonneg (x * 100)
  have partLt := Int.fract_lt_one (x * 100)
  rw [awayAt, places, half_away_of_nonneg (by positivity)]
  split_ifs with below
  · have floor : ⌊x * 100 + 1 / 2⌋ = ⌊x * 100⌋ := by
      rw [Int.floor_eq_iff]
      constructor <;> linarith
    rw [floor]
  · have floor : ⌊x * 100 + 1 / 2⌋ = ⌊x * 100⌋ + 1 := by
      rw [Int.floor_eq_iff]
      push_cast
      constructor <;> linarith
    rw [floor]
    push_cast
    rfl

theorem shown_of_kept_of_nonneg (nonneg : 0 ≤ x) :
    awayAt shownPlaces (nearestAt keptPlaces x) =
      if Int.fract (x * 100) < 0.495 then (⌊x * 100⌋ : Rat) / 100
      else ((⌊x * 100⌋ : Rat) + 1) / 100 := by
  have kept : (10 : Rat) ^ keptPlaces = 10000 := by norm_num [keptPlaces]
  have shown : (10 : Rat) ^ shownPlaces = 100 := by norm_num [shownPlaces]
  have exact : x * 10000 = 100 * (⌊x * 100⌋ + Int.fract (x * 100)) := by
    rw [Int.floor_add_fract]
    ring
  have spec := half_even_spec (x * 10000)
  have unitsNonneg := half_even_nonneg (x := x * 10000) (by positivity)
  rw [awayAt, nearestAt, kept, shown]
  rw [exact] at spec unitsNonneg ⊢
  generalize halfEven (100 * (⌊x * 100⌋ + Int.fract (x * 100))) = units at *
  have unitsCast : (0 : Rat) ≤ units := by exact_mod_cast unitsNonneg
  rw [half_away_of_nonneg (by positivity)]
  split_ifs with below
  · obtain ⟨least, most⟩ := units_below_half_cent spec (Int.fract_nonneg _) below
    have leastCast : (100 * ⌊x * 100⌋ : Rat) ≤ units := by exact_mod_cast least
    have mostCast : (units : Rat) < 100 * ⌊x * 100⌋ + 50 := by exact_mod_cast most
    have floor : ⌊(units : Rat) / 10000 * 100 + 1 / 2⌋ = ⌊x * 100⌋ := by
      rw [Int.floor_eq_iff]
      constructor <;> linarith
    rw [floor]
  · obtain ⟨least, most⟩ := units_reach_half_cent spec (Int.fract_lt_one _) (not_lt.mp below)
    have leastCast : (100 * ⌊x * 100⌋ : Rat) + 50 ≤ units := by exact_mod_cast least
    have mostCast : (units : Rat) ≤ 100 * ⌊x * 100⌋ + 100 := by exact_mod_cast most
    have floor : ⌊(units : Rat) / 10000 * 100 + 1 / 2⌋ = ⌊x * 100⌋ + 1 := by
      rw [Int.floor_eq_iff]
      push_cast
      constructor <;> linarith
    rw [floor]
    push_cast
    rfl

theorem shown_of_kept_excess_of_nonneg (nonneg : 0 ≤ x) :
    (IsKeptAsHalfCent x →
        awayAt shownPlaces (nearestAt keptPlaces x) = awayAt shownPlaces x + 0.01) ∧
      (¬ IsKeptAsHalfCent x →
        awayAt shownPlaces (nearestAt keptPlaces x) = awayAt shownPlaces x) := by
  rw [shown_of_nonneg nonneg, shown_of_kept_of_nonneg nonneg, IsKeptAsHalfCent,
    abs_of_nonneg nonneg]
  generalize Int.fract (x * 100) = part
  constructor
  · rintro ⟨reaches, below⟩
    rw [if_neg (not_lt.mpr reaches), if_pos below]
    ring
  · intro outside
    by_cases small : part < 0.495
    · rw [if_pos small, if_pos (small.trans (by norm_num))]
    · have large : ¬ part < 0.5 := fun below => outside ⟨not_lt.mp small, below⟩
      rw [if_neg small, if_neg large]

end Nonneg

/-- An amount that is kept and then shown is shown as the exact one would be, or a cent farther from
zero, and that exactly where the exact one falls short of a half cent that the kept one reaches. -/
theorem shown_of_kept (x : Rat) :
    (IsKeptAsHalfCent x →
        awayAt shownPlaces (nearestAt keptPlaces x) =
          awayAt shownPlaces x + if x < 0 then -0.01 else 0.01) ∧
      (¬ IsKeptAsHalfCent x →
        awayAt shownPlaces (nearestAt keptPlaces x) = awayAt shownPlaces x) := by
  rcases le_or_gt 0 x with nonneg | below
  · rw [if_neg (not_lt.mpr nonneg)]
    exact shown_of_kept_excess_of_nonneg nonneg
  · have mirrored := shown_of_kept_excess_of_nonneg (neg_nonneg.mpr below.le)
    have same : IsKeptAsHalfCent (-x) ↔ IsKeptAsHalfCent x := by
      rw [IsKeptAsHalfCent, IsKeptAsHalfCent, abs_neg]
    rw [nearest_at_neg, away_at_neg, away_at_neg, same] at mirrored
    rw [if_pos below]
    exact ⟨fun kept => by linarith [mirrored.1 kept], fun other => by linarith [mirrored.2 other]⟩

end Money

end MotorTariff
