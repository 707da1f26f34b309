import Mathlib.Data.List.Forall2
import MotorTariff.Proofs.Text.Utf8

/-!
# The case of ASCII letters

Two texts are the same but for case if they stand against each other character by character, each
pair being one character or one ASCII letter in its two cases. Making the capitals small forgets
just that, whether it is done to the characters or to the bytes that encode them: a byte below 0x80
is a character of its own, and the bytes of all other characters lie above the letters.
-/

set_option autoImplicit false

namespace MotorTariff

def IsCapitalOf (capital small : Char) : Prop :=
  'A' ≤ capital ∧ capital ≤ 'Z' ∧ small.toNat = capital.toNat + 0x20

/-- One character, or one ASCII letter in its two cases. -/
def SameLetter (c d : Char) : Prop := c = d ∨ IsCapitalOf c d ∨ IsCapitalOf d c

/-- Whether two texts differ in nothing but the case of ASCII letters. -/
def SameButCase (text other : String) : Prop :=
  List.Forall₂ SameLetter text.toList other.toList

def lowerByte (b : UInt8) : UInt8 := if 0x41 ≤ b.toNat ∧ b.toNat ≤ 0x5a then b + 0x20 else b

def loweredBytes (text : String) : Bytes := (Utf8.encodeText text).map lowerByte

section Letter

variable {c d : Char}

theorem between_capitals_iff : 'A' ≤ c ∧ c ≤ 'Z' ↔ 0x41 ≤ c.toNat ∧ c.toNat ≤ 0x5a := Iff.rfl

theorem to_lower_of_capital (capital : 0x41 ≤ c.toNat ∧ c.toNat ≤ 0x5a) :
    c.toLower.toNat = c.toNat + 0x20 := by
  have bound : c.val.toNat ≤ 0x5a := capital.2
  calc
    c.toLower.toNat = (c.val + 0x20).toNat :=
      congrArg Char.toNat (dif_pos (between_capitals_iff.mpr capital))
    _ = (c.val.toNat + 0x20) % 2 ^ 32 := UInt32.toNat_add c.val 0x20
    _ = c.val.toNat + 0x20 := Nat.mod_eq_of_lt (by omega)

theorem to_lower_of_other (other : ¬ (0x41 ≤ c.toNat ∧ c.toNat ≤ 0x5a)) : c.toLower = c :=
  dif_neg fun capital => other (between_capitals_iff.mp capital)

theorem to_lower_to_nat :
    c.toLower.toNat =
      if 0x41 ≤ c.toNat ∧ c.toNat ≤ 0x5a then c.toNat + 0x20 else c.toNat := by
  split_ifs with capital
  · exact to_lower_of_capital capital
  · rw [to_lower_of_other capital]

theorem to_lower_eq_iff : c.toLower = d.toLower ↔ SameLetter c d := by
  rw [← Char.toNat_inj, to_lower_to_nat, to_lower_to_nat]
  simp only [SameLetter, IsCapitalOf, ← and_assoc, between_capitals_iff, ← Char.toNat_inj]
  split_ifs <;> omega

theorem to_nat_le_to_lower : c.toNat ≤ c.toLower.toNat := by
  rw [to_lower_to_nat]
  split_ifs <;> omega

end Letter

section Encoded

theorem lower_byte_of_high {b : UInt8} (high : 0x80 ≤ b.toNat) : lowerByte b = b := by
  apply if_neg
  omega

/-- It does not matter whether a character is made small or its bytes are. -/
theorem encode_nat_to_lower (c : Char) :
    Utf8.encodeNat c.toLower.toNat = (Utf8.encodeNat c.toNat).map lowerByte := by
  by_cases ascii : c.toNat < 0x80
  · have byte : (UInt8.ofNat c.toNat).toNat = c.toNat := Utf8.byte_to_nat (by omega)
    rw [Utf8.encode_nat_ascii ascii, List.map_singleton, lowerByte, byte]
    split_ifs with capital
    · rw [to_lower_of_capital capital, Utf8.encode_nat_ascii (by omega), UInt8.ofNat_add]
      rfl
    · rw [to_lower_of_other capital, Utf8.encode_nat_ascii ascii]
  · have high := Utf8.encode_nat_high (Nat.le_of_not_lt ascii) (Utf8.char_to_nat_bounds c).1
    have stay : (Utf8.encodeNat c.toNat).map lowerByte = (Utf8.encodeNat c.toNat).map id :=
      List.map_congr_left fun b member => lower_byte_of_high (high b member)
    rw [to_lower_of_other (by omega), stay, List.map_id]

theorem encode_map_to_lower (chars : List Char) :
    Utf8.encode (chars.map Char.toLower) = (Utf8.encode chars).map lowerByte := by
  induction chars with
  | nil => rfl
  | cons c chars induction =>
      rw [List.map_cons, Utf8.encode_cons, Utf8.encode_cons, List.map_append,
        encode_nat_to_lower, induction]

end Encoded

section Text

variable (text other : String)

theorem same_but_case_iff :
    SameButCase text other ↔ text.toList.map Char.toLower = other.toList.map Char.toLower := by
  rw [← List.forall₂_eq_eq_eq, List.forall₂_map_left_iff, List.forall₂_map_right_iff]
  simp only [to_lower_eq_iff, SameButCase]

instance : Decidable (SameButCase text other) :=
  decidable_of_iff _ (same_but_case_iff text other).symm

theorem encode_text_eq_lowered_iff :
    Utf8.encodeText other = loweredBytes text ↔ other.toList = text.toList.map Char.toLower := by
  rw [loweredBytes, Utf8.encodeText, Utf8.encodeText, ← encode_map_to_lower]
  exact ⟨Utf8.encode_injective, congrArg Utf8.encode⟩

end Text

end MotorTariff
