import Mathlib.Tactic.SplitIfs
import MotorTariff.Text.Utf8

/-!
# Decoding what was encoded

Each character is encoded by its number in one to four bytes. Decoding tries two bytes before three
and three before four, so the longer sequences have to be shown not to start like a shorter one.
-/

set_option autoImplicit false

namespace MotorTariff.Utf8

theorem byte_to_nat {n : Nat} (small : n < 256) : (UInt8.ofNat n).toNat = n :=
  UInt8.toNat_ofNat_of_lt' small

theorem encode_cons (c : Char) (chars : List Char) :
    encode (c :: chars) = encodeNat c.toNat ++ encode chars := by
  rw [encode, encode, List.flatMap_cons]

theorem encode_append (left right : List Char) :
    encode (left ++ right) = encode left ++ encode right := by
  rw [encode, encode, encode, List.flatMap_append]

theorem tail_to_nat (n : Nat) : (tail n).toNat = 0x80 + n % 64 := by
  rw [tail, byte_to_nat (by omega)]

@[simp] theorem tail_of_tail (n : Nat) : tail? (tail n) = some (n % 64) := by
  have bits : n % 64 < 64 := Nat.mod_lt _ (by decide)
  rw [tail?, tail_to_nat, if_pos (by omega), Nat.add_sub_cancel_left]

section Lead

variable {n : Nat}

theorem two_of_two (long : 0x80 ≤ n) (short : n < 0x800) :
    ofTwo? (UInt8.ofNat (0xc0 + n / 64)) (tail n) = some (Char.ofNat n) := by
  have lead : (UInt8.ofNat (0xc0 + n / 64)).toNat = 0xc0 + n / 64 := byte_to_nat (by omega)
  have joined : (0xc0 + n / 64 - 0xc0) * 64 + n % 64 = n := by omega
  simp only [ofTwo?, tail_of_tail, lead, Option.bind_eq_bind, Option.bind_some]
  rw [if_pos (by omega), joined]
  rfl

theorem two_of_longer {lead next : UInt8} (longer : 0xe0 ≤ lead.toNat) :
    ofTwo? lead next = none := by
  rw [ofTwo?]
  cases tail? next with
  | none => rfl
  | some low =>
      simp only [Option.bind_eq_bind, Option.bind_some]
      rw [if_neg (by omega)]

theorem three_of_three (long : 0x800 ≤ n) (short : n < 0x10000)
    (character : ¬ (0xd800 ≤ n ∧ n < 0xe000)) :
    ofThree? (UInt8.ofNat (0xe0 + n / 4096)) (tail (n / 64)) (tail n) = some (Char.ofNat n) := by
  have lead : (UInt8.ofNat (0xe0 + n / 4096)).toNat = 0xe0 + n / 4096 := byte_to_nat (by omega)
  have joined : (0xe0 + n / 4096 - 0xe0) * 4096 + n / 64 % 64 * 64 + n % 64 = n := by omega
  simp only [ofThree?, tail_of_tail, lead, Option.bind_eq_bind, Option.bind_some, joined]
  rw [if_pos (by omega)]
  rfl

theorem three_of_longer {lead next last : UInt8} (longer : 0xf0 ≤ lead.toNat) :
    ofThree? lead next last = none := by
  rw [ofThree?]
  cases tail? next with
  | none => rfl
  | some middle =>
      cases tail? last with
      | none => rfl
      | some low =>
          simp only [Option.bind_eq_bind, Option.bind_some]
          rw [if_neg (by omega)]

theorem four_of_four (long : 0x10000 ≤ n) (short : n < 0x110000) :
    ofFour? (UInt8.ofNat (0xf0 + n / 262144)) (tail (n / 4096)) (tail (n / 64)) (tail n) =
      some (Char.ofNat n) := by
  have lead : (UInt8.ofNat (0xf0 + n / 262144)).toNat = 0xf0 + n / 262144 :=
    byte_to_nat (by omega)
  have joined :
      (0xf0 + n / 262144 - 0xf0) * 262144 + n / 4096 % 64 * 4096 + n / 64 % 64 * 64 + n % 64 =
        n := by omega
  simp only [ofFour?, tail_of_tail, lead, Option.bind_eq_bind, Option.bind_some, joined]
  rw [if_pos (by omega)]
  rfl

end Lead

theorem char_to_nat_bounds (c : Char) :
    c.toNat < 0x110000 ∧ ¬ (0xd800 ≤ c.toNat ∧ c.toNat < 0xe000) := by
  have valid : c.toNat < 0xd800 ∨ 0xdfff < c.toNat ∧ c.toNat < 0x110000 := c.valid
  omega

theorem decode_from_encode_char (offset : Nat) (decoded : List Char) (c : Char) (rest : Bytes) :
    ∃ next, decodeFrom offset decoded (encodeNat c.toNat ++ rest) =
      decodeFrom next (c :: decoded) rest := by
  obtain ⟨top, character⟩ := char_to_nat_bounds c
  unfold encodeNat
  split_ifs with one two three
  · have byte : (UInt8.ofNat c.toNat).toNat = c.toNat := byte_to_nat (by omega)
    refine ⟨offset + 1, ?_⟩
    rw [List.singleton_append, decodeFrom.eq_def]
    simp only [byte, if_pos one, Char.ofNat_toNat]
  · have lead := byte_to_nat (n := 0xc0 + c.toNat / 64) (by omega)
    have several : ¬ (UInt8.ofNat (0xc0 + c.toNat / 64)).toNat < 0x80 := by omega
    refine ⟨offset + 2, ?_⟩
    rw [List.cons_append, List.singleton_append, decodeFrom.eq_def]
    simp only [if_neg several, two_of_two (Nat.le_of_not_lt one) two, Char.ofNat_toNat]
  · have lead := byte_to_nat (n := 0xe0 + c.toNat / 4096) (by omega)
    have long : 0xe0 ≤ (UInt8.ofNat (0xe0 + c.toNat / 4096)).toNat := by omega
    have several : ¬ (UInt8.ofNat (0xe0 + c.toNat / 4096)).toNat < 0x80 := by omega
    refine ⟨offset + 3, ?_⟩
    simp only [List.cons_append, List.nil_append]
    rw [decodeFrom.eq_def]
    simp only [if_neg several, two_of_longer long,
      three_of_three (Nat.le_of_not_lt two) three character, Char.ofNat_toNat]
  · have lead := byte_to_nat (n := 0xf0 + c.toNat / 262144) (by omega)
    have long : 0xf0 ≤ (UInt8.ofNat (0xf0 + c.toNat / 262144)).toNat := by omega
    have several : ¬ (UInt8.ofNat (0xf0 + c.toNat / 262144)).toNat < 0x80 := by omega
    refine ⟨offset + 4, ?_⟩
    simp only [List.cons_append, List.nil_append]
    rw [decodeFrom.eq_def]
    simp only [if_neg several, two_of_longer (Nat.le_trans (by decide) long),
      three_of_longer long, four_of_four (Nat.le_of_not_lt three) top, Char.ofNat_toNat]

theorem decode_from_encode (chars : List Char) (offset : Nat) (decoded : List Char) :
    decodeFrom offset decoded (encode chars) = .ok (decoded.reverse ++ chars) := by
  induction chars generalizing offset decoded with
  | nil => simp [encode, decodeFrom]
  | cons c chars ih =>
      obtain ⟨next, step⟩ := decode_from_encode_char offset decoded c (encode chars)
      rw [encode_cons, step, ih, List.reverse_cons, List.append_assoc, List.singleton_append]

theorem decode_encode (chars : List Char) : decode (encode chars) = .ok chars := by
  rw [decode, decode_from_encode, List.reverse_nil, List.nil_append]

theorem encode_injective {chars others : List Char} (same : encode chars = encode others) :
    chars = others := by
  have decoded := decode_encode chars
  rw [same, decode_encode] at decoded
  exact (Except.ok.inj decoded).symm

theorem encode_nat_ascii {n : Nat} (ascii : n < 0x80) : encodeNat n = [UInt8.ofNat n] := by
  rw [encodeNat, if_pos ascii]

theorem encode_nat_high {n : Nat} (long : 0x80 ≤ n) (bound : n < 0x110000) :
    ∀ b ∈ encodeNat n, 0x80 ≤ b.toNat := by
  have lead : ∀ m, 0x80 ≤ m → m < 256 → 0x80 ≤ (UInt8.ofNat m).toNat := by
    intro m high byte
    rw [byte_to_nat byte]
    exact high
  have last : ∀ m, 0x80 ≤ (tail m).toNat := by
    intro m
    rw [tail_to_nat]
    exact Nat.le_add_right ..
  unfold encodeNat
  split_ifs with one two three
  · omega
  · simpa using ⟨lead _ (by omega) (by omega), last _⟩
  · simpa using ⟨lead _ (by omega) (by omega), last _, last _⟩
  · simpa using ⟨lead _ (by omega) (by omega), last _, last _, last _⟩

end MotorTariff.Utf8
