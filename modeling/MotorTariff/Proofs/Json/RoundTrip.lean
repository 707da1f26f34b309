import MotorTariff.Json.Record
import MotorTariff.Proofs.Json.Integer
import MotorTariff.Proofs.Json.Text

/-!
# Reading back what was written

A form round trips if a written value is read back wherever it stands in a document, with what
follows left over. Texts, flags and integers do. Only an integer asks something of what follows, as
its digits would otherwise go on.
-/

set_option autoImplicit false

namespace MotorTariff.Json

-- Powers are the core library's own, also where other libraries define some.
attribute [local instance (high)] instPowNat

/-- Reading takes exactly the written value off the front, unless a number could go on after it, and
makes this of it. -/
def Form.ReadsBack {Value : Type} (form : Form Value) (written result : Value) : Prop :=
  ∀ rest : Bytes, Ends rest →
    form.read (Utf8.encode (form.write written).compact ++ rest) = .ok (result, rest)

/-- Every value is read back as it was. -/
def Form.RoundTrips {Value : Type} (form : Form Value) : Prop :=
  ∀ value, form.ReadsBack value value

theorem read_document_of_reads_back {Value : Type} {form : Form Value} {written result : Value}
    (reads : form.ReadsBack written result) :
    readDocument form.read (Utf8.encode (form.write written).compact) = .ok result := by
  have taken := reads [] ends_nil
  rw [List.append_nil] at taken
  rw [readDocument, taken]
  rfl

theorem read_document_of_round_trip {Value : Type} {form : Form Value} (roundTrip : form.RoundTrips)
    (value : Value) :
    readDocument form.read (Utf8.encode (form.write value).compact) = .ok value :=
  read_document_of_reads_back (roundTrip value)

namespace Form

theorem text_round_trips : text.RoundTrips := by
  intro value rest _
  change readText (Utf8.encode (quote value.toList) ++ rest) = _
  rw [Text.encode_quote, List.cons_append, List.append_assoc, List.singleton_append, readText,
    skip_blanks_of_mark (by rfl)]
  simp only [if_true, Text.after_quote_written, String.ofList_toList]

theorem flag_round_trips : flag.RoundTrips := by
  intro value rest _
  cases value <;> rfl

section Int32

theorem int32_read_of_chars (n : Int) (rest : Bytes) :
    Int32Form.read (Utf8.encode (integerChars n) ++ rest) =
      Number.read (decide (n < 0)) (Utf8.encode (Nat.toDigits 10 n.natAbs) ++ rest) >>=
        fun (numeral, rest) => Int32Form.narrow numeral rest := by
  by_cases below : n < 0
  · rw [integerChars, if_pos below, List.singleton_append, Utf8.encode_cons, List.append_assoc,
      decide_eq_true below]
    rfl
  · obtain ⟨first, digits, written, digit⟩ :=
      (Digits.to_digits_is_integer_part n.natAbs).front
    obtain ⟨notBlank, notMinus⟩ := Number.letter_of_digit_not_blank digit
    have known := Number.digit_of_letter digit
    rw [integerChars, if_neg below, List.nil_append, decide_eq_false below, written,
      Utf8.encode_cons, Number.encode_digit digit, List.singleton_append, List.cons_append,
      Int32Form.read, skip_blanks_of_mark notBlank]
    simp only [if_neg notMinus, known, Option.isSome_some, if_true]

theorem integer_of_int {n : Int} (least : -2 ^ (63 : Nat) ≤ n) :
    Number.integer (decide (n < 0)) n.natAbs = .integer n := by
  by_cases below : n < 0
  · have magnitude : 1 ≤ n.natAbs ∧ n.natAbs ≤ 2 ^ 63 := by omega
    have negated : -(n.natAbs : Int) = n := by omega
    rw [Number.integer, decide_eq_true below, if_pos rfl, if_pos magnitude, negated]
  · rw [Number.integer, decide_eq_false below, if_neg Bool.false_ne_true,
      Int.natAbs_of_nonneg (Int.not_lt.mp below)]

theorem int32_round_trips : int32.RoundTrips := by
  intro value rest ends
  have lower := value.le_toInt
  have upper := value.toInt_lt
  have fits : value.toInt.natAbs < Number.significandLimit := by
    unfold Number.significandLimit
    omega
  change Int32Form.read (Utf8.encode (integerChars value.toInt) ++ rest) = _
  rw [int32_read_of_chars, Number.read_digits _ fits ends, integer_of_int (by omega)]
  change Int32Form.narrow (.integer value.toInt) rest = _
  rw [Int32Form.narrow, if_pos ⟨lower, upper⟩, Int32.ofInt_toInt]

end Int32

end Form

end MotorTariff.Json
