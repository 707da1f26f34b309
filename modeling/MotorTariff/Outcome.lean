/-!
Outcomes of computations that may fail: a computation in steps succeeds exactly if its steps do.
-/

set_option autoImplicit false

namespace MotorTariff

variable {Problem Value Other : Type}

theorem bind_ok_iff {outcome : Except Problem Value} {next : Value → Except Problem Other}
    {result : Other} :
    (outcome >>= next) = .ok result ↔ ∃ value, outcome = .ok value ∧ next value = .ok result := by
  cases outcome with
  | error problem => simp [bind, Except.bind]
  | ok value => simp [bind, Except.bind]

theorem ok_bind (value : Value) (next : Value → Except Problem Other) :
    (Except.ok value >>= next) = next value := rfl

theorem map_ok_iff {outcome : Except Problem Value} {f : Value → Other} {result : Other} :
    f <$> outcome = .ok result ↔ ∃ value, outcome = .ok value ∧ f value = result := by
  cases outcome with
  | error problem => simp [Functor.map, Except.map]
  | ok value => simp [Functor.map, Except.map]

end MotorTariff
