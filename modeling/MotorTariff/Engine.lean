import MotorTariff.Rule
import MotorTariff.Text.Quoted

/-!
Rating engines: a rate table and an ordered list of rules. Assembly refuses a list with two rules
of one name, or with a rule that reads the base rate before any rule is there to set it. Rating
starts from an empty premium and runs the rules in order.
-/

set_option autoImplicit false

namespace MotorTariff

inductive AssemblyError where
  | baseRateNotSet (rule : String) (position : Nat)
  | duplicateRule (rule : String)
  deriving DecidableEq, Repr

def AssemblyError.message : AssemblyError → String
  | baseRateNotSet rule position =>
      "Rule '" ++ rule ++ "' at position " ++ toString position ++
        " reads the base rate before any rule sets it"
  | duplicateRule rule => "Duplicate rule name: " ++ rule

structure Engine where
  rates : RateTable
  rules : List Rule

namespace Engine

/--
Checks the rules from a position on, given the names and whether a setter of the base rate came
before. A repeated name is reported before a reader without a setter.
-/
def checkFrom (position : Nat) (names : List String) (baseRateSet : Bool) :
    List Rule → Except AssemblyError Unit
  | [] => .ok ()
  | rule :: rest =>
      if rule.name ∈ names then .error (.duplicateRule rule.name)
      else if rule.dependency = .readsBaseRate ∧ baseRateSet = false then
        .error (.baseRateNotSet rule.name position)
      else
        checkFrom (position + 1) (rule.name :: names)
          (baseRateSet || rule.dependency == .setsBaseRate) rest

def assemble (rates : RateTable) (rules : List Rule) : Except AssemblyError Engine := do
  checkFrom 0 [] false rules
  return { rates, rules }

def standard : Engine := ⟨.standard, Rule.standard⟩

def ruleNames (engine : Engine) : List String := engine.rules.map Rule.name

/-- One rule's turn: it acts if its condition holds, and either way the turn is reported. -/
def turn (listening : Bool) (rates : RateTable) (profile : Profile) (premium : Premium)
    (rule : Rule) : Traced Premium :=
  if rule.applies profile then do
    let premium ← rule.act listening profile rates premium
    Traced.report (.ruleApplied rule.name)
    return premium
  else do
    Traced.report (.ruleSkipped rule.name)
    return premium

def runRules (engine : Engine) (listening : Bool) (profile : Profile) : Traced Premium :=
  engine.rules.foldlM (turn listening engine.rates profile) .empty

/--
Rates a profile. The closing report shows the total, so the total is computed only when somebody
listens, and only then can it overflow here.
-/
def rate (engine : Engine) (listening : Bool) (profile : Profile) : Traced Premium := do
  Traced.report (.ratingStarted profile.name)
  let premium ← engine.runRules listening profile
  if listening then
    let total ← Traced.silent premium.total
    Traced.report (.premiumCalculated total)
  return premium

def showMoney (money : Money) : String := "Money \x7b amount: " ++ money.amount.text ++ " \x7d"

def showGroup (name : String) (members : List (String × String)) : String :=
  name ++ " \x7b " ++
    String.intercalate ", " (members.map fun (label, value) => label ++ ": " ++ value) ++ " \x7d"

def showRates (rates : RateTable) : String :=
  showGroup "RateTable"
    [("base_rates", showGroup "BaseRates"
        [("sedan", showMoney rates.baseRates.sedan), ("suv", showMoney rates.baseRates.suv),
          ("luxury", showMoney rates.baseRates.luxury),
          ("sports", showMoney rates.baseRates.sports)]),
      ("age_factors", showGroup "AgeFactors"
        [("under_20", rates.ageFactors.under20.text),
          ("age_20_to_24", rates.ageFactors.age20To24.text),
          ("age_25_to_65", rates.ageFactors.age25To65.text),
          ("age_66_plus", rates.ageFactors.age66Plus.text)]),
      ("accident_surcharges", showGroup "AccidentSurcharges"
        [("none", showMoney rates.accidentSurcharges.none),
          ("one", showMoney rates.accidentSurcharges.one),
          ("two_or_more", showMoney rates.accidentSurcharges.twoOrMore)])]

def describe (engine : Engine) : String :=
  showGroup "RatingEngine"
    [("rates", showRates engine.rates), ("rules", Quoted.quoteList engine.ruleNames)]

end Engine

end MotorTariff
