import MotorTariff.Text.Utf8

/-!
Writers of bytes. A writer may take no more than a first part of what it is given. The rest is then
given to it again, until all is taken, or nothing is, or the writer fails.
-/

set_option autoImplicit false

namespace MotorTariff

/-- A writer by what becomes of its state in a write. -/
structure Writer (State : Type) where
  /-- How many of the bytes are taken, or why the write fails. -/
  write : (bytes : Bytes) → State → Except String (Fin (bytes.length + 1)) × State

namespace Writer

variable {State : Type}

def nothingTaken : String := "failed to write whole buffer"

def writeAll (writer : Writer State) (bytes : Bytes) (state : State) :
    Except String Unit × State :=
  if bytes = [] then (.ok (), state)
  else
    match writer.write bytes state with
    | (.error reason, state) => (.error reason, state)
    | (.ok taken, state) =>
        if taken.val = 0 then (.error nothingTaken, state)
        else writer.writeAll (bytes.drop taken) state
termination_by bytes.length
decreasing_by
  have : 0 < bytes.length := List.length_pos_iff.mpr ‹_›
  rw [List.length_drop]
  omega

def keeping : Writer Bytes := ⟨fun bytes kept => (.ok (Fin.last _), kept ++ bytes)⟩

/-- Takes what there is room for, and keeps it. -/
def limited (capacity : Nat) : Writer Bytes where
  write bytes kept :=
    let room := capacity - kept.length
    (.ok ⟨min bytes.length room, by omega⟩, kept ++ bytes.take room)

end Writer

end MotorTariff
