import MotorTariff.Program.Writer

/-!
# Writers that get everything written

A writer that takes at least one byte of whatever it is given, and keeps what it takes, is given the
rest again until nothing is left. So it ends up with all the bytes in their order behind what it had
before, however few of them it takes at a time.
-/

set_option autoImplicit false

namespace MotorTariff.Writer

variable {State : Type}

/-- The writer takes some of the bytes it is given, always; `written` is what it has got. -/
def Accepting (writer : Writer State) (written : State → Bytes) : Prop :=
  ∀ (bytes : Bytes) (state : State), bytes ≠ [] →
    ∃ taken, (writer.write bytes state).1 = .ok taken ∧ 0 < taken.val ∧
      written (writer.write bytes state).2 = written state ++ bytes.take taken

theorem write_all_of_accepting {writer : Writer State} {written : State → Bytes}
    (accepting : writer.Accepting written) (bytes : Bytes) (state : State) :
    (writer.writeAll bytes state).1 = .ok () ∧
      written (writer.writeAll bytes state).2 = written state ++ bytes := by
  induction bytes, state using writeAll.induct writer with
  | case1 state =>
      rw [writeAll, if_pos rfl]
      exact ⟨rfl, (List.append_nil _).symm⟩
  | case2 bytes state nonempty reason next step =>
      obtain ⟨taken, takes, -⟩ := accepting bytes state nonempty
      rw [step] at takes
      cases takes
  | case3 bytes state nonempty taken next step nothing =>
      obtain ⟨other, takes, progress, -⟩ := accepting bytes state nonempty
      rw [step] at takes
      cases takes
      exact absurd nothing (Nat.ne_of_gt progress)
  | case4 bytes state nonempty taken next step progress ih =>
      obtain ⟨other, takes, -, keeps⟩ := accepting bytes state nonempty
      rw [step] at takes keeps
      cases takes
      obtain ⟨done, wrote⟩ := ih
      rw [writeAll, if_neg nonempty, step]
      dsimp only
      rw [if_neg progress]
      refine ⟨done, ?_⟩
      rw [wrote, keeps, List.append_assoc, List.take_append_drop]

/-- Takes a single byte at a time, and keeps it. -/
def oneByOne : Writer Bytes where
  write bytes kept := (.ok ⟨min bytes.length 1, by omega⟩, kept ++ bytes.take 1)

theorem one_by_one_accepts : oneByOne.Accepting id := by
  intro bytes kept nonempty
  have any : 1 ≤ bytes.length := List.length_pos_iff.mpr nonempty
  refine ⟨_, rfl, ?_, ?_⟩
  · dsimp only
    omega
  · simp [oneByOne, Nat.min_eq_right any]

end MotorTariff.Writer
