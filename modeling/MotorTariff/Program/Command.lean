import MotorTariff.Engine
import MotorTariff.Profile.Document
import MotorTariff.Program.Arguments
import MotorTariff.Program.Files
import MotorTariff.Program.Settings
import MotorTariff.Program.Writer

/-!
The command: it reads one profile from a file or from the input, rates it with the standard engine
and writes the premium, or it writes the listing of the standard rates. On the way it reports events
and hands texts to a writer, whose state goes through all of it.
-/

set_option autoImplicit false

namespace MotorTariff

inductive CommandError where
  | settings (error : SettingsError)
  | unopened (path : String) (error : SystemError)
  | unreadable (error : SystemError)
  | invalidProfile (document : Bytes) (fault : Json.Fault)
  | overflow (cause : Overflow)
  | output (reason : String)

namespace CommandError

def opening : CommandError → String
  | settings _ => "Invalid configuration: "
  | unopened path _ => "Failed to read profile from " ++ path ++ ": "
  | unreadable _ => "Invalid driver profile: "
  | invalidProfile .. => "Invalid driver profile: "
  | overflow _ => ""
  | output _ => "Failed to write output: "

def reason : CommandError → String
  | settings error => error.message
  | unopened _ error => error.message
  | unreadable error => error.message
  | invalidProfile document fault => fault.message document
  | overflow cause => cause.message
  | output reason => reason

def message (error : CommandError) : String := error.opening ++ error.reason

end CommandError

namespace Profile

def ofBytes (document : Bytes) : Except CommandError Profile :=
  match ofDocument document with
  | .ok profile => .ok profile
  | .error fault => .error (.invalidProfile document fault)

/-- Whether a profile comes from the input: no path is named, or a dash. -/
def fromInput (path : Option String) : Bool :=
  match path with
  | none => true
  | some path => Path.isDash path

/-- The profile at a path, or from the input. -/
def load (files : Files) (input : Bytes) (path : Option String) : Except CommandError Profile :=
  match path with
  | none => ofBytes input
  | some path =>
      if Path.isDash path then ofBytes input
      else match files path with
        | .contents bytes => ofBytes bytes
        | .refused error => .error (.unopened path error)
        | .unreadable error => .error (.unreadable error)

end Profile

/-- What a part of the command has come to: its reports, a value or the error that ended it, and
the state that it leaves the writer in. -/
structure CommandRun (State Value : Type) where
  events : List Event
  outcome : Except CommandError Value
  output : State

/-- A part of the command, as what it comes to from a state of the writer on. -/
def Command (State Value : Type) : Type := State → CommandRun State Value

namespace Command

variable {State Value Other : Type}

def pure (value : Value) : Command State Value := fun output => ⟨[], .ok value, output⟩

def bind (first : Command State Value) (next : Value → Command State Other) :
    Command State Other := fun output =>
  let run := first output
  match run.outcome with
  | .ok value =>
      let rest := next value run.output
      ⟨run.events ++ rest.events, rest.outcome, rest.output⟩
  | .error error => ⟨run.events, .error error, run.output⟩

instance : Monad (Command State) where
  pure := pure
  bind := bind

def report (event : Event) : Command State Unit := fun output => ⟨[event], .ok (), output⟩

def ofExcept (outcome : Except CommandError Value) : Command State Value := fun output =>
  ⟨[], outcome, output⟩

def ofTraced (run : Traced Value) : Command State Value := fun output =>
  ⟨run.events, run.outcome.mapError .overflow, output⟩

def write (writer : Writer State) (text : String) : Command State Unit := fun output =>
  let (outcome, output) := writer.writeAll (Utf8.encodeText text) output
  ⟨[], outcome.mapError .output, output⟩

/--
Runs the command, with or without somebody who listens to its reports. Totals that only a report
shows are computed if somebody listens.
-/
def run (listening : Bool) (files : Files) (input : Bytes) (settings : Settings)
    (arguments : Arguments) (writer : Writer State) : Command State Unit := do
  let engine := Engine.standard
  if arguments.showRates then write writer engine.rates.listing
  else
    let profile ← ofExcept (Profile.load files input arguments.profile)
    report (.profileLoaded profile.name profile.age)
    let premium ← ofTraced (engine.rate listening profile)
    if listening then
      let total ← ofTraced (Traced.silent premium.total)
      report (.premiumRated profile.name total)
    let format := arguments.format.getD settings.outputFormat
    let text ← ofTraced (Traced.silent (premium.render format))
    write writer text

end Command

end MotorTariff
