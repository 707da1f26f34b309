import MotorTariff.Premium.Basic
import MotorTariff.Rates.Basic

/-!
What is reported while a profile is rated. An event has a level, the part of the program that
reports it, and fields; a run keeps the events before a failure. The start of a rating opens a
span, which the events of the engine and the rules belong to.
-/

set_option autoImplicit false

namespace MotorTariff

inductive Level where
  | error
  | warn
  | info
  | debug
  | trace
  deriving DecidableEq, Repr

namespace Level

def rank : Level → Nat
  | error => 0
  | warn => 1
  | info => 2
  | debug => 3
  | trace => 4

def name : Level → String
  | error => "ERROR"
  | warn => "WARN"
  | info => "INFO"
  | debug => "DEBUG"
  | trace => "TRACE"

end Level

inductive Source where
  | command
  | engine
  | rules
  deriving DecidableEq, Repr

def Source.name : Source → String
  | command => "interface_cli"
  | engine => "domain_rating::engine"
  | rules => "domain_rating::rules"

inductive Event where
  | profileLoaded (driver : String) (age : Int32)
  | ratingStarted (driver : String)
  | vehicleClassified (category : VehicleCategory) (baseRate : Money)
  | bracketResolved (bracket : AgeBracket) (factor : Decimal)
  | ruleApplied (rule : String)
  | ruleSkipped (rule : String)
  | premiumCalculated (total : Money)
  | premiumRated (driver : String) (total : Money)
  deriving DecidableEq

/-- The value of a field: a text as such, a number, or what is displayed for it. -/
inductive FieldValue where
  | text (value : String)
  | number (value : Int)
  | shown (value : String)
  deriving DecidableEq

namespace Event

def level : Event → Level
  | profileLoaded .. => .debug
  | ratingStarted _ => .info
  | vehicleClassified .. => .trace
  | bracketResolved .. => .trace
  | ruleApplied _ => .debug
  | ruleSkipped _ => .debug
  | premiumCalculated _ => .debug
  | premiumRated .. => .info

def source : Event → Source
  | profileLoaded .. => .command
  | ratingStarted _ => .engine
  | vehicleClassified .. => .rules
  | bracketResolved .. => .rules
  | ruleApplied _ => .engine
  | ruleSkipped _ => .engine
  | premiumCalculated _ => .engine
  | premiumRated .. => .command

def ratingName : String := "calculate_premium"

def driverName : String := "driver"

def message : Event → String
  | profileLoaded .. => "profile loaded"
  | ratingStarted _ => ratingName
  | vehicleClassified .. => "vehicle classified"
  | bracketResolved .. => "age bracket resolved"
  | ruleApplied _ => "rule applied"
  | ruleSkipped _ => "rule skipped"
  | premiumCalculated _ => "premium calculated"
  | premiumRated .. => "premium rated"

def fields : Event → List (String × FieldValue)
  | profileLoaded driver age => [(driverName, .text driver), ("age", .number age.toInt)]
  | ratingStarted driver => [(driverName, .shown driver)]
  | vehicleClassified category baseRate =>
      [("category", .shown category.name), ("base_rate", .shown baseRate.display)]
  | bracketResolved bracket factor =>
      [("bracket", .shown bracket.name), ("factor", .shown factor.text)]
  | ruleApplied rule => [("rule", .text rule)]
  | ruleSkipped rule => [("rule", .text rule)]
  | premiumCalculated total => [("total", .shown total.display)]
  | premiumRated driver total => [(driverName, .text driver), ("total", .shown total.display)]

def fieldNames (event : Event) : List String := "message" :: event.fields.map Prod.fst

end Event

/-- Events in order, and a result or the overflow that ended the run. -/
structure Traced (Value : Type) where
  events : List Event
  outcome : Except Overflow Value

namespace Traced

variable {Value Other Item : Type}

def pure (value : Value) : Traced Value := ⟨[], .ok value⟩

def after (run : Traced Value) (earlier : List Event) : Traced Value :=
  ⟨earlier ++ run.events, run.outcome⟩

def bind (run : Traced Value) (next : Value → Traced Other) : Traced Other :=
  match run.outcome with
  | .ok value => (next value).after run.events
  | .error cause => ⟨run.events, .error cause⟩

instance : Monad Traced where
  pure := pure
  bind := bind

def report (event : Event) : Traced Unit := ⟨[event], .ok ()⟩

def silent (outcome : Except Overflow Value) : Traced Value := ⟨[], outcome⟩

theorem outcome_bind (run : Traced Value) (next : Value → Traced Other) :
    (run >>= next).outcome = run.outcome >>= fun value => (next value).outcome := by
  change (Traced.bind run next).outcome = _
  unfold Traced.bind
  cases run.outcome <;> rfl

theorem outcome_fold (step : Value → Item → Traced Value) (items : List Item) (start : Value) :
    (items.foldlM step start).outcome =
      items.foldlM (fun value item => (step value item).outcome) start := by
  induction items generalizing start with
  | nil => rfl
  | cons item rest ih =>
      rw [List.foldlM_cons, List.foldlM_cons, outcome_bind]
      cases (step start item).outcome with
      | error cause => rfl
      | ok next => exact ih next

end Traced

end MotorTariff
