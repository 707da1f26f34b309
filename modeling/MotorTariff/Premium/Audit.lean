import MotorTariff.Premium.Basic

/-!
Checks of a premium against figures reached another way: its total against a plain sum of the
stored decimals, its labels against an expected list, an amount against an expected one.
-/

set_option autoImplicit false

namespace MotorTariff

inductive Discrepancy where
  | overflow (cause : Overflow)
  | total (actual baseRate : Money) (adjustments expected : Decimal)
  | labels (actual expected : List String)
  | amount (actual expected : Money)

namespace Discrepancy

def unequal (remark left right : String) : String :=
  "assertion `left == right` failed: " ++ remark ++ "\n  left: " ++ left ++ "\n right: " ++ right

def message : Discrepancy → String
  | overflow cause => cause.message
  | total actual baseRate adjustments expected =>
      unequal
        ("Total (" ++ actual.display ++ ") doesn't equal base rate (" ++ baseRate.display ++
          ") plus adjustments (" ++ adjustments.text ++ ")")
        actual.amount.text expected.text
  | labels actual expected =>
      unequal
        ("Adjustment labels " ++ Quoted.quoteList actual ++ " don't match expected " ++
          Quoted.quoteList expected)
        (Quoted.quoteList actual) (Quoted.quoteList expected)
  | amount actual expected =>
      unequal ("Expected " ++ expected.display ++ ", got " ++ actual.display)
        actual.amount.text expected.amount.text

end Discrepancy

namespace Audit

def settle {Value : Type} : Except Overflow Value → Except Discrepancy Value
  | .ok value => .ok value
  | .error cause => .error (.overflow cause)

/-- The sum of two decimals as they are, without rounding to kept places. -/
def addDecimals (left right : Decimal) : Except Overflow Decimal :=
  Overflow.require .decimalAddition (left.add? right)

def adjustmentSum (premium : Premium) : Except Overflow Decimal :=
  premium.adjustments.foldlM (fun sum adjustment => addDecimals sum adjustment.amount.amount) .zero

/-- Whether the total is the base rate plus the plain sum of the adjustments. -/
def checkTotal (premium : Premium) : Except Discrepancy Unit := do
  let adjustments ← settle (adjustmentSum premium)
  let expected ← settle (addDecimals premium.baseRate.amount adjustments)
  let total ← settle premium.total
  if total.amount.sameAmount expected then .ok ()
  else .error (.total total premium.baseRate adjustments expected)

/-- Whether the adjustments carry exactly these labels, in this order. -/
def checkLabels (premium : Premium) (expected : List String) : Except Discrepancy Unit :=
  let actual := premium.adjustments.map Adjustment.label
  if actual = expected then .ok () else .error (.labels actual expected)

def checkAmount (actual expected : Money) : Except Discrepancy Unit :=
  if actual.sameAmount expected then .ok () else .error (.amount actual expected)

end Audit

end MotorTariff
