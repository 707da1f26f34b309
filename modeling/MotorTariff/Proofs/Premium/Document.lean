import MotorTariff.Premium.Basic
import MotorTariff.Proofs.Json.Tree

/-!
# The document of a premium

Whatever its labels and explanations hold, a premium is written as one object, and a reader that
knows nothing of premiums finds its members, its adjustments and their texts as they were. So no
text can end early, add a member or look like one.
-/

set_option autoImplicit false

namespace MotorTariff.Premium

open Json (MemberReadsAs Numeral ReadsAs Tree)

def adjustmentTree (adjustment : Adjustment) (amount : Numeral) : Tree :=
  .object
    [("label", .text adjustment.label), ("amount", .number amount),
      ("explanation", .text adjustment.explanation)]

def documentTree (baseRate : Numeral) (adjustments : List Tree) (total : Numeral) : Tree :=
  .object [("base_rate", .number baseRate), ("adjustments", .list adjustments),
    ("total", .number total)]

theorem money_reads_as (money : Money) :
    ∃ amount, ReadsAs 1 (Json.Form.money.write money) (.number amount) := by
  obtain ⟨value, reads⟩ := Json.float_reads_as money.amount.to_binary64_log2_lt
  exact ⟨.float value, reads⟩

theorem adjustment_reads_as (adjustment : Adjustment) :
    ∃ amount, ReadsAs 2 (adjustmentJson adjustment) (adjustmentTree adjustment amount) := by
  obtain ⟨amount, reads⟩ := money_reads_as adjustment.amount
  refine ⟨amount, Json.object_reads_as (by decide) ?_⟩
  exact .cons ⟨rfl, Json.text_reads_as adjustment.label⟩
    (.cons ⟨rfl, reads⟩ (.cons ⟨rfl, Json.text_reads_as adjustment.explanation⟩ .nil))

theorem adjustments_read_as (adjustments : List Adjustment) :
    ∃ trees,
      List.Forall₂ (fun adjustment tree => ∃ amount, tree = adjustmentTree adjustment amount)
        adjustments trees ∧
      List.Forall₂ (ReadsAs 2) (adjustments.map adjustmentJson) trees := by
  induction adjustments with
  | nil => exact ⟨[], .nil, .nil⟩
  | cons adjustment adjustments ih =>
      obtain ⟨amount, head⟩ := adjustment_reads_as adjustment
      obtain ⟨trees, texts, tail⟩ := ih
      exact ⟨adjustmentTree adjustment amount :: trees, .cons ⟨amount, rfl⟩ texts, .cons head tail⟩

theorem document_reads_as (baseRate total : Money) {adjustments : List Adjustment}
    {trees : List Tree} (reads : List.Forall₂ (ReadsAs 2) (adjustments.map adjustmentJson) trees) :
    ∃ first last,
      ReadsAs 4
        (.object
          [("base_rate", Json.Form.money.write baseRate),
            ("adjustments", .list (adjustments.map adjustmentJson)),
            ("total", Json.Form.money.write total)])
        (documentTree first trees last) := by
  obtain ⟨first, firstReads⟩ := money_reads_as baseRate
  obtain ⟨last, lastReads⟩ := money_reads_as total
  refine ⟨first, last, Json.object_reads_as (by decide) ?_⟩
  exact .cons ⟨rfl, firstReads.deeper (by decide)⟩
    (.cons ⟨rfl, Json.list_reads_as reads⟩ (.cons ⟨rfl, lastReads.deeper (by decide)⟩ .nil))

/-- The document of a premium is one object and a line break, and reading it back gives each
adjustment with its label and its explanation, in their order. -/
theorem document_carries_texts (premium : Premium) {total : Money}
    (fits : premium.total = .ok total) :
    ∃ text baseRate trees sum,
      premium.render .json = .ok text ∧
      Tree.front (Utf8.encodeText text) =
        .ok (documentTree baseRate trees sum, [Json.Fault.newline]) ∧
      List.Forall₂ (fun adjustment tree => ∃ amount, tree = adjustmentTree adjustment amount)
        premium.adjustments trees := by
  obtain ⟨trees, texts, reads⟩ := adjustments_read_as premium.adjustments
  obtain ⟨first, last, document⟩ :=
    document_reads_as premium.baseRate total reads
  generalize written : Json.object
    [("base_rate", Json.Form.money.write premium.baseRate),
      ("adjustments", .list (premium.adjustments.map adjustmentJson)),
      ("total", Json.Form.money.write total)] = json at document
  have rendered : premium.render .json = .ok (json.indentedText ++ "\n") := by
    rw [render, Premium.document, toJson, fits, ← written]
    rfl
  have bytes : Utf8.encodeText (json.indentedText ++ "\n") =
      Utf8.encode (json.indented 0) ++ [Json.Fault.newline] := by
    rw [Utf8.encodeText, String.toList_append, Utf8.encode_append, Json.indentedText,
      String.toList_ofList]
    rfl
  refine ⟨_, first, trees, last, rendered, ?_, texts⟩
  -- The brace, the line break and two blanks are already as many bytes as there are levels.
  have deep : 4 ≤ (Utf8.encode (json.indented 0)).length := by
    rw [← written]
    exact Nat.le_add_left 4 _
  rw [bytes]
  refine document.read _ ?_ 0 _ (Json.ends_cons (by decide))
  rw [List.length_append]
  omega

/-- Quotes, braces, line breaks, control characters and a forged member, in one premium's texts. -/
theorem forged_texts_stay_texts :
    let premium : Premium :=
      ⟨.whole 1000,
        [⟨"\"],\n  \"total\": 0.0 \x7d", .whole 5, "\x00\x1f\\ é🚗"⟩, ⟨"", .whole 7, "\x7d]\n"⟩]⟩
    premium.total = .ok (.whole 1012) ∧
      ∃ text baseRate trees sum,
        premium.render .json = .ok text ∧
        Tree.front (Utf8.encodeText text) =
          .ok (documentTree baseRate trees sum, [Json.Fault.newline]) ∧
        List.Forall₂ (fun adjustment tree => ∃ amount, tree = adjustmentTree adjustment amount)
          premium.adjustments trees := by
  intro premium
  have totalled : premium.total = .ok (.whole 1012) := by
    decide
  exact ⟨totalled, document_carries_texts premium totalled⟩

end MotorTariff.Premium
