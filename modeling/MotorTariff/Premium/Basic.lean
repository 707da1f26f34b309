import MotorTariff.Json.Form

/-!
Itemized premiums: a base rate and labelled adjustments in the order they were added. The total
is always computed from the parts. A breakdown gives a line to each part, or a document.
-/

set_option autoImplicit false

namespace MotorTariff

/-- A labelled and explained change to the base rate; credits are negative. -/
structure Adjustment where
  label : String
  amount : Money
  explanation : String
  deriving DecidableEq

structure Premium where
  baseRate : Money
  adjustments : List Adjustment
  deriving DecidableEq

namespace Premium

def empty : Premium := ⟨.zero, []⟩

instance : Inhabited Premium := ⟨empty⟩

def setBaseRate (premium : Premium) (baseRate : Money) : Premium := { premium with baseRate }

def addAdjustment (premium : Premium) (label : String) (amount : Money) (explanation : String) :
    Premium :=
  { premium with adjustments := premium.adjustments ++ [⟨label, amount, explanation⟩] }

def hasAdjustment (premium : Premium) (label : String) : Bool :=
  premium.adjustments.any fun adjustment => adjustment.label == label

def amounts (premium : Premium) : List Money := premium.adjustments.map Adjustment.amount

def total (premium : Premium) : Except Overflow Money := do
  premium.baseRate.add (← Money.sum premium.amounts)

def baseRateLine (baseRate : Money) : String := "Base Rate: " ++ baseRate.display ++ "\n"

def adjustmentLine (adjustment : Adjustment) : String :=
  adjustment.label ++ " Adjustment: " ++ adjustment.amount.display ++ " - " ++
    adjustment.explanation ++ "\n"

def totalLine (total : Money) : String := "Total Premium: " ++ total.display ++ "\n"

/-- A line for the base rate, one for each adjustment, and one for the total. -/
def breakdown (premium : Premium) : Except Overflow String := do
  let total ← premium.total
  return baseRateLine premium.baseRate ++ String.join (premium.adjustments.map adjustmentLine) ++
    totalLine total

def adjustmentJson (adjustment : Adjustment) : Json :=
  .object
    [("label", .text adjustment.label), ("amount", Json.Form.money.write adjustment.amount),
      ("explanation", .text adjustment.explanation)]

def toJson (premium : Premium) : Except Overflow Json := do
  let total ← premium.total
  return .object
    [("base_rate", Json.Form.money.write premium.baseRate),
      ("adjustments", .list (premium.adjustments.map adjustmentJson)),
      ("total", Json.Form.money.write total)]

def document (premium : Premium) : Except Overflow String :=
  premium.toJson.map fun json => json.indentedText ++ "\n"

end Premium

inductive OutputFormat where
  | text
  | json
  deriving DecidableEq, Repr

namespace OutputFormat

def all : List OutputFormat := [text, json]

def name : OutputFormat → String
  | text => "text"
  | json => "json"

end OutputFormat

def Premium.render (premium : Premium) : OutputFormat → Except Overflow String
  | .text => premium.breakdown
  | .json => premium.document

end MotorTariff
