import Mathlib.Data.Nat.Find
import MotorTariff.Proofs.Decimal.HalfEven
import MotorTariff.Proofs.Decimal.Value

/-!
# What decimal arithmetic returns

An exact result is rounded once, to as many fraction digits as there is room for. How many that are
depends on the exact number alone and not on how the operands are written, so every operation
returns one function of the exact result. That function keeps the order, fixes the decimals, and
fails exactly where the result overflows.
-/

set_option autoImplicit false

namespace MotorTariff.Decimal

open Rounding

/-- Rounded to this many fraction digits, the number has a mantissa that fits. -/
def HasRoom (x : Rat) (places : Nat) : Prop := |halfEven (x * 10 ^ places)| < 2 ^ 96

instance (x : Rat) : DecidablePred (HasRoom x) := fun places =>
  inferInstanceAs (Decidable (|halfEven (x * 10 ^ places)| < 2 ^ 96))

/-- Rounded half to even to an integer, the number is too large for a mantissa. -/
def Overflows (x : Rat) : Prop := 2 ^ 96 ≤ |halfEven x|

def roomyPlaces (x : Rat) : Nat := Nat.findGreatest (HasRoom x) 28

def nearestAt (places : Nat) (x : Rat) : Rat := halfEven (x * 10 ^ places) / 10 ^ places

/-- The number rounded half to even to as many fraction digits as there is room for. -/
def nearest (x : Rat) : Rat := nearestAt (roomyPlaces x) x

section Room

variable {x y : Rat} {places fewer : Nat}

theorem overflows_iff_no_room (x : Rat) : Overflows x ↔ ¬ HasRoom x 0 := by
  rw [Overflows, HasRoom, pow_zero, mul_one, not_lt]

theorem has_room_of_le (smaller : |y| ≤ |x|) (fewerPlaces : fewer ≤ places)
    (room : HasRoom x places) : HasRoom y fewer := by
  have power : (10 : Rat) ^ fewer ≤ 10 ^ places := pow_le_pow_right₀ (by norm_num) fewerPlaces
  have scaled : |y * 10 ^ fewer| ≤ |x * 10 ^ places| := by
    rw [abs_mul, abs_mul, abs_of_pos (by positivity : (0 : Rat) < 10 ^ fewer),
      abs_of_pos (by positivity : (0 : Rat) < 10 ^ places)]
    exact mul_le_mul smaller power (by positivity) (abs_nonneg x)
  unfold HasRoom at room ⊢
  rw [abs_half_even] at room ⊢
  exact (half_even_mono scaled).trans_lt room

theorem has_room_neg (x : Rat) (places : Nat) : HasRoom (-x) places ↔ HasRoom x places := by
  rw [HasRoom, HasRoom, neg_mul, half_even_neg, abs_neg]

theorem roomy_places_le (x : Rat) : roomyPlaces x ≤ 28 := Nat.findGreatest_le 28

theorem le_roomy_places (within : places ≤ 28) (room : HasRoom x places) :
    places ≤ roomyPlaces x := Nat.le_findGreatest within room

theorem has_room_of_le_roomy (positive : 0 < places) (below : places ≤ roomyPlaces x) :
    HasRoom x places := by
  have room : HasRoom x (roomyPlaces x) := Nat.findGreatest_of_ne_zero rfl (by omega)
  exact has_room_of_le le_rfl below room

theorem no_room_above (above : roomyPlaces x < places) (within : places ≤ 28) :
    ¬ HasRoom x places := Nat.findGreatest_is_greatest above within

theorem roomy_places_anti (smaller : |x| ≤ |y|) : roomyPlaces y ≤ roomyPlaces x := by
  rcases Nat.eq_zero_or_pos (roomyPlaces y) with none | some
  · rw [none]
    exact Nat.zero_le _
  · exact le_roomy_places (roomy_places_le y)
      (has_room_of_le smaller le_rfl (has_room_of_le_roomy some le_rfl))

end Room

section Nearest

variable {x y : Rat}

theorem nearest_at_neg (places : Nat) (x : Rat) : nearestAt places (-x) = -nearestAt places x := by
  rw [nearestAt, nearestAt, neg_mul, half_even_neg]
  push_cast
  rw [neg_div]

theorem nearest_neg (x : Rat) : nearest (-x) = -nearest x := by
  have sameRoom : roomyPlaces (-x) = roomyPlaces x := by
    unfold roomyPlaces
    congr 1
    funext places
    exact propext (has_room_neg x places)
  rw [nearest, sameRoom, nearest_at_neg, nearest]

theorem nearest_at_mono (places : Nat) (order : x ≤ y) :
    nearestAt places x ≤ nearestAt places y := by
  have power : (0 : Rat) < 10 ^ places := by positivity
  have rounded : halfEven (x * 10 ^ places) ≤ halfEven (y * 10 ^ places) :=
    half_even_mono (mul_le_mul_of_nonneg_right order power.le)
  exact div_le_div_of_nonneg_right (by exact_mod_cast rounded) power.le

theorem abs_nearest_at_sub_le (places : Nat) (x : Rat) :
    |nearestAt places x - x| ≤ 1 / 2 / 10 ^ places := by
  have power : (0 : Rat) < 10 ^ places := by positivity
  have near := (half_even_spec (x * 10 ^ places)).near
  have scaled : |nearestAt places x - x| * 10 ^ places =
      |x * 10 ^ places - halfEven (x * 10 ^ places)| := by
    rw [← abs_of_pos power, ← abs_mul, abs_of_pos power, nearestAt, sub_mul,
      div_mul_cancel₀ _ power.ne', abs_sub_comm]
  rw [le_div_iff₀ power, scaled]
  exact near

theorem nearest_at_of_grid {places more : Nat} {n : Int} (within : places ≤ more)
    (grid : x * 10 ^ places = n) : nearestAt more x = x := by
  have power : (10 : Rat) ^ more ≠ 0 := by positivity
  have finer : x * 10 ^ more = ((n * 10 ^ (more - places) : Int) : Rat) := by
    push_cast
    rw [← grid, mul_assoc, ← pow_add, Nat.add_sub_cancel' within]
  rw [nearestAt, finer, half_even_int, ← finer, mul_div_cancel_right₀ _ power]

theorem nearest_of_grid {places : Nat} {n : Int} (within : places ≤ 28)
    (grid : x * 10 ^ places = n) (small : |n| < 2 ^ 96) : nearest x = x := by
  have room : HasRoom x places := by
    rw [HasRoom, grid, half_even_int]
    exact small
  exact nearest_at_of_grid (le_roomy_places within room) grid

theorem nearest_of_tiny (tiny : |x| * 10 ^ 28 < 1 / 2) : nearest x = 0 := by
  have scaled : |x * 10 ^ 28| < 1 / 2 := by
    rwa [abs_mul, abs_of_pos (by positivity : (0 : Rat) < 10 ^ 28)]
  have room : HasRoom x 28 := by
    rw [HasRoom, half_even_of_small scaled]
    norm_num
  have most : roomyPlaces x = 28 :=
    le_antisymm (roomy_places_le x) (le_roomy_places le_rfl room)
  rw [nearest, most, nearestAt, half_even_of_small scaled, Int.cast_zero, zero_div]

/-- Room at more places than these bounds the number by the largest mantissa one place further. -/
theorem nearest_le_of_more_room {places : Nat} (more : places < roomyPlaces x) :
    nearest x ≤ (2 ^ 96 - 1) / 10 ^ (places + 1) := by
  have room : |halfEven (x * 10 ^ roomyPlaces x)| < 2 ^ 96 :=
    has_room_of_le_roomy (by omega) le_rfl
  have mantissa : halfEven (x * 10 ^ roomyPlaces x) ≤ 2 ^ 96 - 1 := by
    have := le_abs_self (halfEven (x * 10 ^ roomyPlaces x))
    omega
  have mantissaCast : (halfEven (x * 10 ^ roomyPlaces x) : Rat) ≤ 2 ^ 96 - 1 := by
    exact_mod_cast mantissa
  have shift : (10 : Rat) ^ (places + 1) ≤ 10 ^ roomyPlaces x :=
    pow_le_pow_right₀ (by norm_num) more
  exact div_le_div₀ (by norm_num) mantissaCast (by positivity) shift

/-- Without room for a place more, the mantissa is at least a tenth of its bound, rounded. -/
theorem le_nearest_of_full (nonneg : 0 ≤ x) (further : roomyPlaces x + 1 ≤ 28) :
    7922816251426433759354395034 / 10 ^ roomyPlaces x ≤ nearest x := by
  have noRoom : ¬ HasRoom x (roomyPlaces x + 1) := no_room_above (Nat.lt_succ_self _) further
  have scaled : 0 ≤ x * 10 ^ (roomyPlaces x + 1) := mul_nonneg nonneg (by positivity)
  have reaches : 2 ^ 96 ≤ halfEven (x * 10 ^ (roomyPlaces x + 1)) := by
    rw [HasRoom, abs_of_nonneg (half_even_nonneg scaled), not_lt] at noRoom
    exact noRoom
  have tenth : ((2 : Rat) ^ 96 - 1 / 2) / 10 ≤ x * 10 ^ roomyPlaces x := by
    have bound := le_half_even reaches
    rw [pow_succ (10 : Rat)] at bound
    push_cast at bound
    linarith
  have rounded : halfEven (((2 : Rat) ^ 96 - 1 / 2) / 10) = 7922816251426433759354395034 := by
    decide +kernel
  have mantissa := half_even_mono tenth
  rw [rounded] at mantissa
  have power : (0 : Rat) < 10 ^ roomyPlaces x := by positivity
  exact div_le_div_of_nonneg_right (by exact_mod_cast mantissa) power.le

theorem nearest_mono_of_nonneg (nonneg : 0 ≤ x) (order : x ≤ y) : nearest x ≤ nearest y := by
  have magnitudes : |x| ≤ |y| := by
    rw [abs_of_nonneg nonneg, abs_of_nonneg (nonneg.trans order)]
    exact order
  rcases (roomy_places_anti magnitudes).eq_or_lt with same | moreRoom
  · rw [nearest, nearest, ← same]
    exact nearest_at_mono _ order
  · -- With more room for the smaller one, the largest mantissa one place further is between them.
    have between : ((2 : Rat) ^ 96 - 1) / 10 ^ (roomyPlaces y + 1) ≤
        7922816251426433759354395034 / 10 ^ roomyPlaces y := by
      rw [pow_succ (10 : Rat), div_le_div_iff₀ (by positivity) (by positivity)]
      have power : (0 : Rat) < 10 ^ roomyPlaces y := by positivity
      linarith
    calc nearest x
        ≤ (2 ^ 96 - 1) / 10 ^ (roomyPlaces y + 1) := nearest_le_of_more_room moreRoom
      _ ≤ 7922816251426433759354395034 / 10 ^ roomyPlaces y := between
      _ ≤ nearest y := le_nearest_of_full (nonneg.trans order)
          ((Nat.succ_le_of_lt moreRoom).trans (roomy_places_le x))

@[simp] theorem nearest_zero : nearest 0 = 0 := by
  exact nearest_of_grid (n := 0) (Nat.zero_le 28) (by simp) (by norm_num)

theorem nearest_mono (order : x ≤ y) : nearest x ≤ nearest y := by
  rcases le_total 0 x with xNonneg | xNonpos
  · exact nearest_mono_of_nonneg xNonneg order
  rcases le_total 0 y with yNonneg | yNonpos
  · have xBelow := nearest_mono_of_nonneg le_rfl (neg_nonneg.mpr xNonpos)
    have yAbove := nearest_mono_of_nonneg le_rfl yNonneg
    rw [nearest_zero] at yAbove
    rw [nearest_zero, nearest_neg] at xBelow
    linarith
  · have mirrored := nearest_mono_of_nonneg (neg_nonneg.mpr yNonpos) (neg_le_neg order)
    rw [nearest_neg, nearest_neg] at mirrored
    linarith

end Nearest

end MotorTariff.Decimal
