import MotorTariff.Json.Text
import MotorTariff.Proofs.Text.Utf8

/-!
# Reading a text

A character may be spelled as it is, by a backslash with a letter, or by four hex digits once or
twice. In each of these forms the reader is back in its plain mode afterwards and has added exactly
the bytes of that character, so what a whole text adds is its encoding. A text that was written is
spelled in one of these ways.
-/

set_option autoImplicit false

namespace MotorTariff.Json.Text

def IsPlain (b : UInt8) : Prop := b ≠ Mark.quote ∧ b ≠ Mark.backslash ∧ 0x20 ≤ b.toNat

section Modes

variable (decoded rest : Bytes)

theorem bytes_from_plain (bytes : Bytes) (plain : ∀ b ∈ bytes, IsPlain b) :
    bytesFrom .plain decoded (bytes ++ rest) =
      bytesFrom .plain (bytes.reverse ++ decoded) rest := by
  induction bytes generalizing decoded with
  | nil => rfl
  | cons b bytes ih =>
      obtain ⟨notQuote, notBackslash, printable⟩ := plain b List.mem_cons_self
      have step : step .plain b = .ok (.plain, [b]) := by
        simp [Text.step, notBackslash, Nat.not_lt.mpr printable]
      rw [List.cons_append, bytesFrom, if_neg (by simp [notQuote]), step]
      simp only [List.reverse_cons, List.reverse_nil, List.nil_append, List.singleton_append,
        List.append_assoc]
      exact ih _ fun other member => plain other (List.mem_cons_of_mem _ member)

/-- Four hex digits add what their number does, alone or as the second half of a pair. -/
theorem bytes_from_hex {lead : Option Nat} {digits added : Bytes} {n : Nat} {next : Mode}
    (four : digits.length = 4) (spelled : hexNumber? digits = some n)
    (adds : unit lead n = .ok (next, added)) :
    bytesFrom (.hex lead []) decoded (digits ++ rest) =
      bytesFrom next (added.reverse ++ decoded) rest := by
  obtain ⟨a, b, c, d, rfl⟩ : ∃ a b c d, digits = [a, b, c, d] := by
    match digits, four with
    | [a, b, c, d], _ => exact ⟨a, b, c, d, rfl⟩
  have last : step (.hex lead [a, b, c]) d = .ok (next, added) := by
    simp [Text.step, spelled, adds]
  have earlier : bytesFrom (.hex lead []) decoded ([a, b, c, d] ++ rest) =
      bytesFrom (.hex lead [a, b, c]) decoded (d :: rest) := by rfl
  rw [earlier, bytesFrom, if_neg (by simp), last]

end Modes

theorem plain_of_character {c : Char} (notQuote : c ≠ '"') (notBackslash : c ≠ '\\')
    (printable : 0x20 ≤ c.toNat) : ∀ b ∈ Utf8.encodeNat c.toNat, IsPlain b := by
  intro b member
  obtain ⟨top, -⟩ := Utf8.char_to_nat_bounds c
  have quote : Mark.quote.toNat = '"'.toNat := rfl
  have backslash : Mark.backslash.toNat = '\\'.toNat := rfl
  rcases Nat.lt_or_ge c.toNat 0x80 with ascii | long
  · rw [Utf8.encode_nat_ascii ascii, List.mem_singleton] at member
    have byte : b.toNat = c.toNat := by
      rw [member, Utf8.byte_to_nat (by omega)]
    refine ⟨?_, ?_, by omega⟩
    · rintro rfl
      exact notQuote (Char.toNat_inj.mp (byte.symm.trans quote))
    · rintro rfl
      exact notBackslash (Char.toNat_inj.mp (byte.symm.trans backslash))
  · have high := Utf8.encode_nat_high long top b member
    refine ⟨?_, ?_, by omega⟩
    · rintro rfl
      exact absurd high (by decide)
    · rintro rfl
      exact absurd high (by decide)

/-- The ways to spell a character between quotes: as it is, behind a backslash, by its number in four
hex digits, or by two such numbers that are the halves of a pair. -/
inductive IsSpelling : Char → Bytes → Prop where
  | plain {c : Char} (notQuote : c ≠ '"') (notBackslash : c ≠ '\\') (printable : 0x20 ≤ c.toNat) :
      IsSpelling c (Utf8.encodeNat c.toNat)
  | letter {c : Char} {mark : UInt8} (ascii : c.toNat < 0x80)
      (known : escaped? mark = some (UInt8.ofNat c.toNat)) : IsSpelling c [Mark.backslash, mark]
  | unit {c : Char} {digits : Bytes} (four : digits.length = 4)
      (spelled : hexNumber? digits = some c.toNat) :
      IsSpelling c (Mark.backslash :: Mark.letter 'u' :: digits)
  | pair {c : Char} {leading trailing : Bytes} {lead trail : Nat} (four : leading.length = 4)
      (spelled : hexNumber? leading = some lead) (isLead : isLead lead = true)
      (fourMore : trailing.length = 4) (spelledToo : hexNumber? trailing = some trail)
      (isTrail : isTrail trail = true)
      (joined : c.toNat = 0x10000 + (lead - 0xd800) * 0x400 + (trail - 0xdc00)) :
      IsSpelling c (Mark.backslash :: Mark.letter 'u' ::
        (leading ++ Mark.backslash :: Mark.letter 'u' :: trailing))

theorem unit_of_character (c : Char) :
    unit none c.toNat = .ok (.plain, Utf8.encodeNat c.toNat) := by
  obtain ⟨-, character⟩ := Utf8.char_to_nat_bounds c
  have noTrail : isTrail c.toNat = false := by
    simp only [isTrail, decide_eq_false_iff_not]
    omega
  have noLead : isLead c.toNat = false := by
    simp only [isLead, decide_eq_false_iff_not]
    omega
  simp [unit, noTrail, noLead]

theorem unit_of_lead {n : Nat} (isLead : isLead n = true) :
    unit none n = .ok (.pairBackslash n, []) := by
  have noTrail : isTrail n = false := by
    simp only [Text.isLead, decide_eq_true_eq] at isLead
    simp only [isTrail, decide_eq_false_iff_not]
    omega
  simp [unit, noTrail, isLead]

/-- However a character is spelled, the reader is back in its plain mode and has added its bytes. -/
theorem bytes_from_spelling {c : Char} {bytes : Bytes} (spelling : IsSpelling c bytes)
    (decoded rest : Bytes) :
    bytesFrom .plain decoded (bytes ++ rest) =
      bytesFrom .plain ((Utf8.encodeNat c.toNat).reverse ++ decoded) rest := by
  cases spelling with
  | plain notQuote notBackslash printable =>
      exact bytes_from_plain decoded rest _ (plain_of_character notQuote notBackslash printable)
  | @letter mark ascii known =>
      have noUnit : mark ≠ Mark.letter 'u' := by
        rintro rfl
        cases known
      have escaped : step .escape mark = .ok (.plain, [UInt8.ofNat c.toNat]) := by
        simp [step, noUnit, known]
      have opened : bytesFrom .plain decoded ([Mark.backslash, mark] ++ rest) =
          bytesFrom .escape decoded (mark :: rest) := by rfl
      rw [opened, bytesFrom, if_neg (by simp), escaped, Utf8.encode_nat_ascii ascii]
  | unit four spelled =>
      exact bytes_from_hex decoded rest four spelled (unit_of_character c)
  | @pair leading trailing lead trail four spelled isLead fourMore spelledToo isTrail joined =>
      have second : unit (some lead) trail = .ok (.plain, Utf8.encodeNat c.toNat) := by
        rw [joined]
        simp [unit, isTrail]
      have first := bytes_from_hex decoded
        (Mark.backslash :: Mark.letter 'u' :: (trailing ++ rest)) four spelled (unit_of_lead isLead)
      rw [List.cons_append, List.cons_append, List.append_assoc]
      exact first.trans (bytes_from_hex decoded rest fourMore spelledToo second)

theorem control_digits : ∀ n < 0x20,
    Utf8.encode (hexDigit (n / 16) :: [hexDigit (n % 16)]) =
        [UInt8.ofNat (hexDigit (n / 16)).toNat, UInt8.ofNat (hexDigit (n % 16)).toNat] ∧
      hexNumber? [0x30, 0x30, UInt8.ofNat (hexDigit (n / 16)).toNat,
        UInt8.ofNat (hexDigit (n % 16)).toNat] = some n := by
  decide

theorem spelling_of_control {c : Char} (control : c.toNat < 0x20) :
    IsSpelling c (Utf8.encode
      ['\\', 'u', '0', '0', hexDigit (c.toNat / 16), hexDigit (c.toNat % 16)]) := by
  obtain ⟨written, spelled⟩ := control_digits c.toNat control
  rw [show ['\\', 'u', '0', '0', hexDigit (c.toNat / 16), hexDigit (c.toNat % 16)] =
    ['\\', 'u', '0', '0'] ++ [hexDigit (c.toNat / 16), hexDigit (c.toNat % 16)] by rfl]
  rw [Utf8.encode_append, written]
  exact .unit rfl spelled

theorem spelling_of_escape_char (c : Char) : IsSpelling c (Utf8.encode (escapeChar c)) := by
  unfold escapeChar
  split_ifs with quote backslash backspace feed line carriage tab control
  iterate 7
    · subst c
      exact .letter (by decide) (by rfl)
  · exact spelling_of_control control
  · rw [Utf8.encode_cons, Utf8.encode, List.flatMap_nil, List.append_nil]
    exact .plain quote backslash (Nat.le_of_not_lt control)

structure Spelling where
  letters : List (Char × Bytes)
  spelled : ∀ letter ∈ letters, IsSpelling letter.1 letter.2

namespace Spelling

def content (spelling : Spelling) : String := String.ofList (spelling.letters.map Prod.fst)

def inner (spelling : Spelling) : Bytes := spelling.letters.flatMap Prod.snd

def quoted (spelling : Spelling) : Bytes := Mark.quote :: (spelling.inner ++ [Mark.quote])

def ofText (text : String) : Spelling where
  letters := text.toList.map fun c => (c, Utf8.encode (escapeChar c))
  spelled := by
    intro letter member
    obtain ⟨c, -, rfl⟩ := List.mem_map.mp member
    exact spelling_of_escape_char c

theorem content_of_text (text : String) : (ofText text).content = text := by
  rw [content, ofText, List.map_map]
  change String.ofList (text.toList.map id) = text
  rw [List.map_id, String.ofList_toList]

theorem inner_of_text (text : String) :
    (ofText text).inner = Utf8.encode (text.toList.flatMap escapeChar) := by
  rw [inner, ofText, List.flatMap_map, Utf8.encode, List.flatMap_assoc]
  rfl

end Spelling

theorem bytes_from_spelled {letters : List (Char × Bytes)}
    (spelled : ∀ letter ∈ letters, IsSpelling letter.1 letter.2) (decoded rest : Bytes) :
    bytesFrom .plain decoded (letters.flatMap Prod.snd ++ Mark.quote :: rest) =
      .ok (decoded.reverse ++ Utf8.encode (letters.map Prod.fst), rest) := by
  induction letters generalizing decoded with
  | nil => simp [Utf8.encode, bytesFrom]
  | cons letter letters ih =>
      rw [List.forall_mem_cons] at spelled
      rw [List.flatMap_cons, List.append_assoc, bytes_from_spelling spelled.1, ih spelled.2,
        List.map_cons, Utf8.encode_cons]
      simp

/-- What stands after an opening quote is read, however it is spelled, with any text after the
closing one. -/
theorem after_quote_spelled (spelling : Spelling) (rest : Bytes) :
    afterQuote (spelling.inner ++ Mark.quote :: rest) = .ok (spelling.content, rest) := by
  unfold afterQuote
  rw [Spelling.inner, bytes_from_spelled spelling.spelled]
  simp only [List.reverse_nil, List.nil_append, bind, Except.bind, Utf8.decode_encode]
  rfl

theorem after_quote_written (chars : List Char) (rest : Bytes) :
    afterQuote (Utf8.encode (chars.flatMap escapeChar) ++ Mark.quote :: rest) =
      .ok (String.ofList chars, rest) := by
  have read := after_quote_spelled (.ofText (String.ofList chars)) rest
  rwa [Spelling.inner_of_text, Spelling.content_of_text, String.toList_ofList] at read

theorem encode_quote (chars : List Char) :
    Utf8.encode (quote chars) =
      Mark.quote :: (Utf8.encode (chars.flatMap escapeChar) ++ [Mark.quote]) := by
  rw [quote, Utf8.encode_cons, Utf8.encode_append]
  rfl

theorem quoted_of_text (text : String) :
    (Spelling.ofText text).quoted = Utf8.encode (quoteText text) := by
  rw [Spelling.quoted, Spelling.inner_of_text, quoteText, encode_quote]

end MotorTariff.Json.Text
