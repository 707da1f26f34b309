/-!
Rounding a quotient of natural numbers to an integer. The two ways of settling a tie are a
parameter; everything else about rounding is the same for both, and the bounds below are all
that later modules need to know.
-/

set_option autoImplicit false

namespace MotorTariff

/-- Where a quotient that lies exactly between two integers goes. -/
inductive Tie where
  | toEven
  | awayFromZero
  deriving DecidableEq, Repr

def roundDiv (tie : Tie) (numerator denominator : Nat) : Nat :=
  let quotient := numerator / denominator
  let twice := 2 * (numerator % denominator)
  if twice < denominator then quotient
  else if denominator < twice then quotient + 1
  else match tie with
    | .toEven => quotient + quotient % 2
    | .awayFromZero => quotient + 1

namespace Rounding

theorem roundDiv_floor_or_next (tie : Tie) (numerator denominator : Nat) :
    roundDiv tie numerator denominator = numerator / denominator ∨
      (roundDiv tie numerator denominator = numerator / denominator + 1 ∧
        denominator ≤ 2 * (numerator % denominator)) := by
  by_cases below : 2 * (numerator % denominator) < denominator
  · exact Or.inl (by simp [roundDiv, below])
  by_cases above : denominator < 2 * (numerator % denominator)
  · exact Or.inr ⟨by simp [roundDiv, below, above], by omega⟩
  cases tie with
  | awayFromZero => exact Or.inr ⟨by simp [roundDiv, below, above], by omega⟩
  | toEven =>
      rcases Nat.mod_two_eq_zero_or_one (numerator / denominator) with even | odd
      · exact Or.inl (by simp [roundDiv, below, above, even])
      · exact Or.inr ⟨by simp [roundDiv, below, above, odd], by omega⟩

theorem roundDiv_one (tie : Tie) (numerator : Nat) : roundDiv tie numerator 1 = numerator := by
  simp [roundDiv, Nat.mod_one]

theorem roundDiv_mul_le (tie : Tie) (numerator denominator : Nat) :
    2 * (roundDiv tie numerator denominator * denominator) ≤ 2 * numerator + denominator := by
  have split_numerator := Nat.div_add_mod numerator denominator
  rw [Nat.mul_comm] at split_numerator
  rcases roundDiv_floor_or_next tie numerator denominator with floor | ⟨next, large⟩
  · rw [floor]; omega
  · rw [next, Nat.add_mul]; omega

theorem le_roundDiv_mul (tie : Tie) (numerator : Nat) {denominator : Nat}
    (positive : 0 < denominator) :
    2 * numerator ≤ 2 * (roundDiv tie numerator denominator * denominator) + denominator := by
  have split_numerator := Nat.div_add_mod numerator denominator
  rw [Nat.mul_comm] at split_numerator
  have remainder_lt := Nat.mod_lt numerator positive
  rcases roundDiv_floor_or_next tie numerator denominator with floor | ⟨next, large⟩
  · have small : 2 * (numerator % denominator) ≤ denominator := by
      simp only [roundDiv] at floor
      split at floor
      · omega
      · split at floor <;> omega
    rw [floor]; omega
  · rw [next, Nat.add_mul]; omega

theorem roundDiv_le (tie : Tie) (numerator : Nat) {denominator : Nat} (positive : 0 < denominator) :
    roundDiv tie numerator denominator ≤ numerator := by
  rcases roundDiv_floor_or_next tie numerator denominator with floor | ⟨next, large⟩
  · rw [floor]
    exact Nat.div_le_self ..
  · rw [next]
    have split_numerator := Nat.div_add_mod numerator denominator
    have : numerator / denominator ≤ denominator * (numerator / denominator) :=
      Nat.le_mul_of_pos_left _ positive
    omega

end Rounding

end MotorTariff
