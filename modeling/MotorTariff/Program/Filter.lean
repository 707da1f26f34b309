import MotorTariff.Event
import MotorTariff.Program.Environment
import MotorTariff.Text.Digits
import MotorTariff.Pattern.Matcher
import MotorTariff.Pattern.Reader

/-!
Filters of the log. A filter is a list of directives, each with a threshold. A directive speaks of
the parts of the program whose names begin with its target, and may be narrowed to a span or to
reports with a field. Of the directives that speak of a report, the one with the longest target
decides; within a rating, a directive that picks out the rating's span lets reports pass as well.
-/

set_option autoImplicit false

namespace MotorTariff

/-- The least severe level that passes; nothing passes if there is none. -/
abbrev Threshold := Option Level

def Threshold.allows (threshold : Threshold) (level : Level) : Bool :=
  match threshold with
  | some bound => decide (level.rank ≤ bound.rank)
  | none => false

inductive ValueTest where
  /-- A truth value or a number, which no displayed text is. -/
  | notText
  | text (pattern : Pattern)

def ValueTest.passes (test : ValueTest) (value : String) : Bool :=
  match test with
  | notText => false
  | text pattern => pattern.isMatch value

/-- A field by its name, and the value that it is to have, as written and as it is understood. -/
structure FieldTest where
  name : String
  value : Option (String × ValueTest)

structure LogSubject where
  /-- The start of the names that the directive speaks of; empty for all names. -/
  target : String
  span : Option String
  field : Option FieldTest

structure LogDirective where
  subject : LogSubject
  threshold : Threshold

abbrev LogFilter := List LogDirective

namespace LogSubject

def everything : LogSubject := ⟨"", none, none⟩

def sameAs (left right : LogSubject) : Bool :=
  left.target == right.target && left.span == right.span &&
    (left.field.map FieldTest.name) == (right.field.map FieldTest.name) &&
    (left.field.bind FieldTest.value).map Prod.fst ==
      (right.field.bind FieldTest.value).map Prod.fst

def asksForSpan (subject : LogSubject) : Bool := subject.span.isSome || subject.field.isSome

/-- Whether reports can be judged one by one: no span is named, and no value is asked for. -/
def isPlain (subject : LogSubject) : Bool :=
  subject.span.isNone && (subject.field.bind FieldTest.value).isNone

def covers (subject : LogSubject) (source : Source) : Bool :=
  subject.target.toList.isPrefixOf source.name.toList

/-- Whether one subject comes before another: a longer target first, then the later field name. -/
def precedes (left right : LogSubject) : Bool :=
  if left.target.length = right.target.length then
    match left.field, right.field with
    | _, none => true
    | none, some _ => false
    | some left, some right => decide (right.name ≤ left.name)
  else decide (right.target.length < left.target.length)

end LogSubject

namespace LogFilter

/-! Reading -/

/-- A threshold by its name in any case, or by its number from 0 to 5. -/
def threshold? (word : List Char) : Option Threshold :=
  let named := fun (name : String) => word.map Char.toLower == name.toList
  if named "off" then some none
  else if named "error" then some (some .error)
  else if named "warn" then some (some .warn)
  else if named "info" then some (some .info)
  else if named "debug" then some (some .debug)
  else if named "trace" then some (some .trace)
  else match Digits.plusNatural? word with
    | some 0 => some none
    | some 1 => some (some .error)
    | some 2 => some (some .warn)
    | some 3 => some (some .info)
    | some 4 => some (some .debug)
    | some 5 => some (some .trace)
    | _ => none

def cut (chars : List Char) (first stop : Nat) : List Char := (chars.drop first).take (stop - first)

def positionFrom (chars : List Char) (first : Nat) (sought : List Char) : Option Nat :=
  ((chars.drop first).findIdx? (· ∈ sought)).map (first + ·)

def isNumber (chars : List Char) : Bool :=
  let unsigned := match chars with
    | '+' :: rest => rest
    | '-' :: rest => rest
    | rest => rest
  let isMark := fun c : Char => c == 'e' || c == 'E'
  let mantissa := unsigned.takeWhile (!isMark ·)
  let digits := mantissa.filter (· != '.')
  let exponentFits := match unsigned.dropWhile (!isMark ·) with
    | [] => true
    | _ :: '-' :: rest => (Digits.natural? rest).isSome
    | _ :: rest => (Digits.plusNatural? rest).isSome
  (Digits.natural? digits).isSome && decide (mantissa.count '.' ≤ 1) && exponentFits ||
    (unsigned.map Char.toLower) ∈ ["inf".toList, "infinity".toList, "nan".toList]

def valueTest? (chars : List Char) : Option ValueTest :=
  if chars = "true".toList ∨ chars = "false".toList ∨ isNumber chars then some .notText
  else (Pattern.ofChars? chars).map .text

/-- A field's name, and a value after an equals sign; what follows another one does not count. -/
def fieldTest? (chars : List Char) : Option FieldTest :=
  if chars = [] then none
  else
    let name := String.ofList (chars.takeWhile (· != '='))
    match chars.dropWhile (· != '=') with
    | [] => some ⟨name, none⟩
    | _ :: rest => do
        let value := rest.takeWhile (· != '=')
        return ⟨name, some (String.ofList value, ← valueTest? value)⟩

/--
Reads one directive. Its form is judged without the blanks around it. Its parts are cut out at the
same positions of the word as it stands, so blanks before it move all cuts.
-/
structure Reader where
  word : List Char
  shown : List Char

namespace Reader

def ofWord (word : List Char) : Reader := ⟨word, trimStart (trimEnd word)⟩

/-- The threshold after an equals sign at a position; without one, or a level, all passes. -/
def thresholdAt (reader : Reader) (position : Nat) : Option Threshold :=
  match reader.shown[position]? with
  | none => some (some .trace)
  | some '=' =>
      match reader.word.drop (position + 1) with
      | [] => some (some .trace)
      | level => threshold? level
  | some _ => none

def spanAt (reader : Reader) (target : String) (first : Nat) : Option LogDirective := do
  let stop ← positionFrom reader.shown first [']', '\x7b']
  let name := String.ofList (cut reader.word first stop)
  if reader.shown[stop]? = some ']' then
    return ⟨⟨target, some name, none⟩, ← reader.thresholdAt (stop + 1)⟩
  else
    let fieldStop ← positionFrom reader.shown (stop + 1) ['\x7d']
    let field ← fieldTest? (cut reader.word (stop + 1) fieldStop)
    if reader.shown[fieldStop + 1]? = some ']' then
      return ⟨⟨target, if name.isEmpty then none else some name, some field⟩,
        ← reader.thresholdAt (fieldStop + 2)⟩
    else none

def startsTarget (c : Char) : Bool := isAlphanumeric c || c == '-' || c == ':' || c == '_'

def directive? (reader : Reader) : Option LogDirective :=
  match reader.shown with
  | [] => none
  | '[' :: _ => reader.spanAt "" 1
  | first :: _ =>
      if startsTarget first then
        match positionFrom reader.shown 0 ['=', '['] with
        | none =>
            match threshold? reader.word with
            | some threshold => some ⟨.everything, threshold⟩
            | none => some ⟨⟨String.ofList reader.word, none, none⟩, some .trace⟩
        | some stop =>
            let target := String.ofList (reader.word.take stop)
            if reader.shown[stop]? = some '[' then reader.spanAt target (stop + 1)
            else do return ⟨⟨target, none, none⟩, ← reader.thresholdAt stop⟩
      else none

end Reader

/-- The filter that lets only errors through, which an empty text stands for. -/
def errorsOnly : LogFilter := [⟨.everything, some .error⟩]

def warnings : LogFilter := [⟨.everything, some .warn⟩]

/-- Adds a directive, which takes the place of one on the same subject. -/
def add (filter : LogFilter) (directive : LogDirective) : LogFilter :=
  filter.filter (fun other => !other.subject.sameAs directive.subject) ++ [directive]

def ofText? (text : String) : Option LogFilter := do
  let words := (text.toList.splitOn ',').filter (· ≠ [])
  let directives ← words.mapM fun word => (Reader.ofWord word).directive?
  return if directives = [] then errorsOnly else directives.foldl add []

def overridingName : String := "RUST_LOG"

def choose (environment : Environment) (logLevel : String) : LogFilter :=
  match environment.get? overridingName >>= ofText? with
  | some filter => filter
  | none => (ofText? logLevel).getD warnings

/-! Deciding -/

def deciding (filter : LogFilter) (speaks : LogSubject → Bool) : Option LogDirective :=
  filter.foldl
    (fun best directive =>
      if speaks directive.subject &&
          (best.map fun other : LogDirective => directive.subject.precedes other.subject).getD true
      then some directive else best)
    none

def passes (filter : LogFilter) (speaks : LogSubject → Bool) (level : Level) : Bool :=
  match filter.deciding speaks with
  | some directive => directive.threshold.allows level
  | none => false

def allows (filter : LogFilter) (event : Event) : Bool :=
  filter.passes
    (fun subject => subject.isPlain && subject.covers event.source &&
      (subject.field.map fun field => decide (field.name ∈ event.fieldNames)).getD true)
    event.level

def onRating (filter : LogFilter) : LogFilter :=
  filter.filter fun directive =>
    let subject := directive.subject
    subject.asksForSpan && subject.covers .engine &&
      (subject.span.map fun name => name == Event.ratingName).getD true &&
      (subject.field.map fun field => field.name == Event.driverName).getD true

def thresholdsWithin (filter : LogFilter) (driver : String) : List Threshold :=
  (filter.onRating.filter fun directive =>
    ((directive.subject.field.bind FieldTest.value).map fun value => value.2.passes driver).getD
      true).map LogDirective.threshold

/-- Whether the span of a rating is shown. Its fields do not count where reports are judged. -/
def showsRating (filter : LogFilter) (start : Event) : Bool :=
  !filter.onRating.isEmpty ||
    filter.passes (fun subject => subject.isPlain && subject.covers start.source) start.level

end LogFilter

end MotorTariff
