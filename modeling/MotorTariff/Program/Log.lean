import MotorTariff.Program.Filter
import MotorTariff.Text.Quoted

/-!
The lines of the log: the reports that pass a filter, each with its level, the rating it belongs
to, the part of the program that reports it, its message and its fields.
-/

set_option autoImplicit false

namespace MotorTariff

namespace Event

def showField (field : String × FieldValue) : String :=
  field.1 ++ "=" ++
    match field.2 with
    | .text value => Quoted.quote value
    | .number value => toString value
    | .shown value => value

/-- A level in five columns, the span, the part of the program, the message and its fields. -/
def line (span : Option String) (event : Event) : String :=
  let level := event.level.name
  let within := match span with
    | some driver => ratingName ++ "\x7b" ++ driverName ++ "=" ++ driver ++ "\x7d: "
    | none => ""
  "".pushn ' ' (5 - level.length) ++ level ++ " " ++ within ++ event.source.name ++ ": " ++
    String.intercalate " " (event.message :: event.fields.map showField) ++ "\n"

def isWithinRating (event : Event) : Bool :=
  match event.source with
  | .command => false
  | .engine | .rules => true

end Event

/-- The rating that events lie in: its driver if it is shown, and the thresholds that hold in it. -/
structure OpenRating where
  driver : Option String
  thresholds : List Threshold

namespace LogFilter

def openRating (filter : LogFilter) (driver : String) : OpenRating where
  driver := if filter.showsRating (.ratingStarted driver) then some driver else none
  thresholds := filter.thresholdsWithin driver

def lines (filter : LogFilter) (rating : OpenRating) : List Event → List String
  | [] => []
  | .ratingStarted driver :: rest => lines filter (filter.openRating driver) rest
  | event :: rest =>
      let within := event.isWithinRating
      if filter.allows event || (within && rating.thresholds.any (·.allows event.level)) then
        event.line (if within then rating.driver else none) :: lines filter rating rest
      else lines filter rating rest

def log (filter : LogFilter) (events : List Event) : String :=
  String.join (filter.lines ⟨none, []⟩ events)

end LogFilter

end MotorTariff
