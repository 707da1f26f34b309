import Mathlib.Data.List.Forall2
import MotorTariff.Json.Tree
import MotorTariff.Proofs.Json.Float
import MotorTariff.Proofs.Json.Text

/-!
# Reading an indented document

A written value is read back as one tree at every indentation, with any text behind it that does not
go on with a number. Lists and objects of such values are again such values, so the property climbs
from the texts and numbers to a whole document.
-/

set_option autoImplicit false

namespace MotorTariff.Json

/-- The layout of a value can be told from a blank and from the end of a list by its first byte, and
a reader with enough levels takes it off the front as this tree. -/
structure ReadsAs (depth : Nat) (value : Json) (tree : Tree) : Prop where
  front : ∀ indentation, ∃ b tail, Utf8.encode (value.indented indentation) = b :: tail ∧
    isBlank b = false ∧ b ≠ Mark.bracketClose
  read : ∀ level, depth ≤ level → ∀ indentation rest, Ends rest →
    Tree.read level (Utf8.encode (value.indented indentation) ++ rest) = .ok (tree, rest)

theorem ReadsAs.deeper {depth more : Nat} {value : Json} {tree : Tree} (within : depth ≤ more)
    (reads : ReadsAs depth value tree) : ReadsAs more value tree :=
  ⟨reads.front, fun level enough => reads.read level (within.trans enough)⟩

section Blanks

theorem indent_is_blank (level : Nat) : ∀ b ∈ Utf8.encode (indent level), isBlank b = true := by
  intro b member
  obtain ⟨c, among, encoded⟩ := List.mem_flatMap.mp member
  rcases List.mem_cons.mp among with rfl | spaces
  · rw [List.mem_singleton.mp encoded]
    rfl
  · rw [(List.mem_replicate.mp spaces).2] at encoded
    rw [List.mem_singleton.mp encoded]
    rfl

theorem skip_indent {level : Nat} {b : UInt8} (rest : Bytes) (mark : isBlank b = false) :
    skipBlanks (Utf8.encode (indent level) ++ b :: rest) = b :: rest := by
  rw [skip_blanks_append (indent_is_blank level), skip_blanks_of_mark mark]

theorem read_after_blanks {blanks : Bytes} (blank : ∀ b ∈ blanks, isBlank b = true) (level : Nat)
    (bytes : Bytes) : Tree.read (level + 1) (blanks ++ bytes) = Tree.read (level + 1) bytes := by
  rw [Tree.read, Tree.read, skip_blanks_append blank]

end Blanks

section Scalars

theorem text_reads_as (content : String) : ReadsAs 1 (.text content) (.text content) := by
  have opening : ∀ rest, Utf8.encode (quote content.toList) ++ rest =
      Mark.quote :: (Utf8.encode (content.toList.flatMap escapeChar) ++ Mark.quote :: rest) := by
    intro rest
    rw [Text.encode_quote, List.cons_append, List.append_assoc, List.singleton_append]
  constructor
  · intro indentation
    exact ⟨Mark.quote, _, Text.encode_quote content.toList, by rfl, by decide⟩
  · intro level enough indentation rest _
    obtain ⟨level, rfl⟩ := Nat.exists_eq_succ_of_ne_zero (Nat.ne_of_gt enough)
    change Tree.read (level + 1) (Utf8.encode (quote content.toList) ++ rest) = _
    rw [opening, Tree.read, skip_blanks_of_mark (by rfl)]
    change (Text.afterQuote _).map _ = _
    rw [Text.after_quote_written, String.ofList_toList]
    rfl

theorem read_of_digit {b : UInt8} (digit : (Number.digit? b).isSome = true) (level : Nat)
    (rest : Bytes) :
    Tree.read (level + 1) (b :: rest) =
      (Number.read false (b :: rest)).map fun (numeral, rest) => (.number numeral, rest) := by
  rw [Tree.read, skip_blanks_of_mark (Number.digit_not_blank digit)]
  dsimp only
  rw [if_neg (Number.digit_ne digit rfl), if_neg (Number.digit_ne digit rfl),
    if_neg (Number.digit_ne digit rfl), if_neg (Number.digit_ne digit rfl), if_pos digit]

theorem float_reads_as {x : Binary64} (highest : x.units.log2 < 1200) :
    ∃ value, ReadsAs 1 (.float x) (.number (.float value)) := by
  obtain ⟨value, read⟩ := Number.read_double_text highest x.negative
  refine ⟨value, ?_, ?_⟩
  · intro indentation
    change ∃ b tail, Utf8.encode x.chars = b :: tail ∧ _
    rcases Binary64.double_text_front x with ⟨-, signed⟩ | ⟨-, plain, first, tail, digit, layout⟩
    · exact ⟨_, _, signed, by rfl, by decide⟩
    · have known := Number.digit_of_letter digit
      refine ⟨_, _, plain.trans layout, (Number.letter_of_digit_not_blank digit).1, ?_⟩
      intro same
      rw [same] at known
      cases known
  · intro level enough indentation rest ends
    obtain ⟨level, rfl⟩ := Nat.exists_eq_succ_of_ne_zero (Nat.ne_of_gt enough)
    have taken := read rest ends
    change Tree.read (level + 1) (Utf8.encode x.chars ++ rest) = _
    rcases Binary64.double_text_front x with
      ⟨negative, signed⟩ | ⟨positive, plain, first, tail, digit, layout⟩
    · rw [negative] at taken
      rw [signed]
      change (Number.read true (Utf8.encode (x.shortest .evenDigit).documentChars ++ rest)).map _ =
        _
      rw [taken]
      rfl
    · have some : (Number.digit? (Mark.letter first)).isSome = true := by
        rw [Number.digit_of_letter digit]
        rfl
      rw [positive, layout, List.cons_append] at taken
      rw [plain, layout, List.cons_append, read_of_digit some, taken]
      rfl

end Scalars

section Lists

variable {depth level : Nat} (enough : depth ≤ level) (indentation : Nat)

theorem ends_of_items (items : List Json) (rest : Bytes) :
    Ends (Utf8.encode (indentedItems indentation false items) ++ rest) := by
  cases items with
  | nil => exact ends_cons (by decide)
  | cons item items => exact ends_cons (by decide)

theorem length_le_of_items (items : List Json) (first : Bool) :
    items.length ≤ (Utf8.encode (indentedItems indentation first items)).length := by
  induction items generalizing first with
  | nil => exact Nat.zero_le _
  | cons item items ih =>
      have later := ih false
      have present : 0 < (Utf8.encode (indent (indentation + 1))).length := Nat.succ_pos _
      simp only [indentedItems, Utf8.encode_append, List.length_append, List.length_cons]
      omega

/-- The closing bracket is found behind its indentation, of which an empty list has none. -/
theorem close_items (first : Bool) (rest : Bytes) :
    RecordForm.itemStart first (Utf8.encode (indentedItems indentation first []) ++ rest) =
        .ok none ∧
      closeList (Utf8.encode (indentedItems indentation first []) ++ rest) = .ok rest := by
  have skipped : skipBlanks (Utf8.encode (indentedItems indentation first []) ++ rest) =
      Mark.bracketClose :: rest := by
    rw [indentedItems, Utf8.encode_append, List.append_assoc]
    cases first with
    | true => rfl
    | false => exact skip_indent rest (by rfl)
  constructor
  · rw [RecordForm.itemStart, skipped]
    rfl
  · rw [closeList, skipped]
    rfl

theorem item_start_of_written (first : Bool) {value : Bytes}
    (front : ∃ b tail, value = b :: tail ∧ isBlank b = false ∧ b ≠ Mark.bracketClose)
    (rest : Bytes) :
    RecordForm.itemStart first
        (Utf8.encode ((if first then [] else [',']) ++ indent (indentation + 1)) ++
          (value ++ rest)) = .ok (some (value ++ rest)) := by
  obtain ⟨b, tail, rfl, notBlank, notClosing⟩ := front
  rw [List.cons_append, Utf8.encode_append, List.append_assoc]
  cases first with
  | true =>
      change RecordForm.itemStart true (Utf8.encode (indent (indentation + 1)) ++ _) = _
      rw [RecordForm.itemStart, skip_indent _ notBlank]
      simp only [if_neg notClosing, if_true]
  | false =>
      change RecordForm.itemStart false
        (Mark.comma :: (Utf8.encode (indent (indentation + 1)) ++ _)) = _
      have other : Mark.comma ≠ Mark.bracketClose := by decide
      rw [RecordForm.itemStart, skip_blanks_of_mark (by rfl)]
      dsimp only
      rw [if_neg other, if_neg (by decide), if_pos rfl, skip_indent _ notBlank]
      dsimp only
      rw [if_neg notClosing]

include enough

theorem items_of_written {items : List Json} {trees : List Tree}
    (reads : List.Forall₂ (ReadsAs depth) items trees) {fuel : Nat} (room : items.length < fuel)
    (first : Bool) (rest : Bytes) :
    Tree.itemsFrom (Tree.read level) fuel first
        (Utf8.encode (indentedItems indentation first items) ++ rest) = .ok (trees, rest) := by
  induction reads generalizing fuel first with
  | nil =>
      obtain ⟨fuel, rfl⟩ := Nat.exists_eq_succ_of_ne_zero (Nat.ne_of_gt room)
      obtain ⟨start, closed⟩ := close_items indentation first rest
      simp only [Tree.itemsFrom, start, closed, bind, Except.bind, Functor.map, Except.map]
  | @cons item tree items trees head _ ih =>
      obtain ⟨fuel, rfl⟩ := Nat.exists_eq_succ_of_ne_zero (Nat.ne_of_gt (Nat.zero_lt_of_lt room))
      have layout : Utf8.encode (indentedItems indentation first (item :: items)) ++ rest =
          Utf8.encode ((if first then [] else [',']) ++ indent (indentation + 1)) ++
            (Utf8.encode (item.indented (indentation + 1)) ++
              (Utf8.encode (indentedItems indentation false items) ++ rest)) := by
        simp only [indentedItems, Utf8.encode_append, List.append_assoc]
      have start := item_start_of_written indentation first (head.front (indentation + 1))
        (Utf8.encode (indentedItems indentation false items) ++ rest)
      have taken := head.read level enough (indentation + 1) _
        (ends_of_items indentation items rest)
      have later := ih (Nat.lt_of_succ_lt_succ room) false
      rw [layout]
      simp only [Tree.itemsFrom, start, taken, later, bind, Except.bind, pure, Except.pure]

end Lists

theorem list_reads_as {depth : Nat} {items : List Json} {trees : List Tree}
    (reads : List.Forall₂ (ReadsAs depth) items trees) :
    ReadsAs (depth + 1) (.list items) (.list trees) := by
  constructor
  · intro indentation
    exact ⟨Mark.bracketOpen, _, rfl, by rfl, by decide⟩
  · intro level enough indentation rest _
    obtain ⟨level, rfl⟩ := Nat.exists_eq_succ_of_ne_zero
      (Nat.ne_of_gt (Nat.zero_lt_of_lt enough))
    have shorter := length_le_of_items indentation items true
    have room : items.length <
        (Utf8.encode (indentedItems indentation true items) ++ rest).length + 1 := by
      rw [List.length_append]
      omega
    have read := items_of_written (Nat.le_of_succ_le_succ enough) indentation reads room true rest
    change Tree.read (level + 1)
      (Mark.bracketOpen :: (Utf8.encode (indentedItems indentation true items) ++ rest)) = _
    rw [Tree.read, skip_blanks_of_mark (by rfl)]
    change (Tree.itemsFrom _ _ _ _).map _ = _
    rw [read]
    rfl

section Objects

variable {depth level : Nat} (enough : depth ≤ level) (indentation : Nat)

theorem ends_of_indented_members (members : List (String × Json)) (rest : Bytes) :
    Ends (Utf8.encode (indentedMembers indentation false members) ++ rest) := by
  cases members with
  | nil => exact ends_cons (by decide)
  | cons member members => exact ends_cons (by decide)

theorem length_le_of_indented_members (members : List (String × Json)) (first : Bool) :
    members.length ≤ (Utf8.encode (indentedMembers indentation first members)).length := by
  induction members generalizing first with
  | nil => exact Nat.zero_le _
  | cons member members ih =>
      obtain ⟨name, value⟩ := member
      have later := ih false
      have present : 0 < (Utf8.encode (indent (indentation + 1))).length := Nat.succ_pos _
      simp only [indentedMembers, Utf8.encode_append, List.length_append, List.length_cons,
        Utf8.encode_cons]
      omega

theorem close_members (first : Bool) (rest : Bytes) :
    RecordForm.memberStart first (Utf8.encode (indentedMembers indentation first []) ++ rest) =
        .ok none ∧
      closeObject (Utf8.encode (indentedMembers indentation first []) ++ rest) = .ok rest := by
  have skipped : skipBlanks (Utf8.encode (indentedMembers indentation first []) ++ rest) =
      Mark.braceClose :: rest := by
    rw [indentedMembers, Utf8.encode_append, List.append_assoc]
    cases first with
    | true => rfl
    | false => exact skip_indent rest (by rfl)
  constructor
  · rw [RecordForm.memberStart, skipped]
    rfl
  · rw [closeObject, skipped]
    rfl

theorem indented_member_start (first : Bool) (after : Bytes) :
    RecordForm.memberStart first
        (Utf8.encode ((if first then [] else [',']) ++ indent (indentation + 1)) ++
          Mark.quote :: after) = .ok (some after) := by
  rw [Utf8.encode_append, List.append_assoc]
  cases first with
  | true =>
      change RecordForm.memberStart true (Utf8.encode (indent (indentation + 1)) ++ _) = _
      rw [RecordForm.memberStart, skip_indent _ (by rfl)]
      rfl
  | false =>
      change RecordForm.memberStart false
        (Mark.comma :: (Utf8.encode (indent (indentation + 1)) ++ _)) = _
      have other : Mark.comma ≠ Mark.braceClose := by decide
      rw [RecordForm.memberStart, skip_blanks_of_mark (by rfl)]
      dsimp only
      rw [if_neg other, if_neg (by decide), if_pos rfl, skip_indent _ (by rfl)]
      rfl

def MemberReadsAs (depth : Nat) (member : String × Json) (tree : String × Tree) : Prop :=
  member.1 = tree.1 ∧ ReadsAs depth member.2 tree.2

include enough

theorem indented_members_of_written {members : List (String × Json)}
    {trees : List (String × Tree)} (positive : 0 < depth)
    (reads : List.Forall₂ (MemberReadsAs depth) members trees) {fuel : Nat}
    (room : members.length < fuel) (first : Bool) (rest : Bytes) :
    Tree.membersFrom (Tree.read level) fuel first
        (Utf8.encode (indentedMembers indentation first members) ++ rest) = .ok (trees, rest) := by
  induction reads generalizing fuel first with
  | nil =>
      obtain ⟨fuel, rfl⟩ := Nat.exists_eq_succ_of_ne_zero (Nat.ne_of_gt room)
      obtain ⟨start, closed⟩ := close_members indentation first rest
      simp only [Tree.membersFrom, start, closed, bind, Except.bind, Functor.map, Except.map]
  | @cons member tree members trees head _ ih =>
      obtain ⟨fuel, rfl⟩ := Nat.exists_eq_succ_of_ne_zero (Nat.ne_of_gt (Nat.zero_lt_of_lt room))
      obtain ⟨name, value⟩ := member
      obtain ⟨readName, content⟩ := tree
      obtain ⟨same, reads⟩ := head
      dsimp only at same reads
      subst same
      have layout : Utf8.encode (indentedMembers indentation first ((name, value) :: members)) ++
            rest =
          Utf8.encode ((if first then [] else [',']) ++ indent (indentation + 1)) ++
            Mark.quote :: (Utf8.encode (name.toList.flatMap escapeChar) ++ Mark.quote ::
              Mark.colon :: ([0x20] ++ (Utf8.encode (value.indented (indentation + 1)) ++
                (Utf8.encode (indentedMembers indentation false members) ++ rest)))) := by
        simp only [indentedMembers, quoteText, Text.encode_quote, Utf8.encode_append,
          Utf8.encode_cons, List.append_assoc, List.cons_append]
        rfl
      have colon : ∀ after, takeColon (Mark.colon :: after) = .ok after := by
        intro after
        rfl
      have taken := reads.read level enough (indentation + 1) _
        (ends_of_indented_members indentation members rest)
      have blank : ∀ b ∈ [(0x20 : UInt8)], isBlank b = true :=
        List.forall_mem_singleton.mpr (by rfl)
      have later := ih (Nat.lt_of_succ_lt_succ room) false
      obtain ⟨below, rfl⟩ := Nat.exists_eq_succ_of_ne_zero
        (Nat.ne_of_gt (Nat.lt_of_lt_of_le positive enough))
      rw [← read_after_blanks blank] at taken
      rw [layout]
      simp only [Tree.membersFrom, indented_member_start, Text.after_quote_written,
        String.ofList_toList, colon, taken, later, bind, Except.bind, pure, Except.pure]

end Objects

theorem object_reads_as {depth : Nat} (positive : 0 < depth) {members : List (String × Json)}
    {trees : List (String × Tree)} (reads : List.Forall₂ (MemberReadsAs depth) members trees) :
    ReadsAs (depth + 1) (.object members) (.object trees) := by
  constructor
  · intro indentation
    exact ⟨Mark.braceOpen, _, rfl, by rfl, by decide⟩
  · intro level enough indentation rest _
    obtain ⟨level, rfl⟩ := Nat.exists_eq_succ_of_ne_zero
      (Nat.ne_of_gt (Nat.zero_lt_of_lt enough))
    have shorter := length_le_of_indented_members indentation members true
    have room : members.length <
        (Utf8.encode (indentedMembers indentation true members) ++ rest).length + 1 := by
      rw [List.length_append]
      omega
    have read := indented_members_of_written (Nat.le_of_succ_le_succ enough) indentation positive
      reads room true rest
    change Tree.read (level + 1)
      (Mark.braceOpen :: (Utf8.encode (indentedMembers indentation true members) ++ rest)) = _
    rw [Tree.read, skip_blanks_of_mark (by rfl)]
    change (Tree.membersFrom _ _ _ _).map _ = _
    rw [read]
    rfl

end MotorTariff.Json
