import MotorTariff.Program.Command
import MotorTariff.Program.Log

/-!
A whole session of the program, as a function of what it is given: environment, files, input and
arguments. It ends with a status, what the output has got and the text for the error stream.
-/

set_option autoImplicit false

namespace MotorTariff

/-- What a session finds around it. -/
structure Surroundings where
  environment : Environment
  files : Files
  /-- How many directories lie above the one that the session works in. -/
  above : Nat
  input : Bytes

structure SessionResult where
  status : Nat
  output : Bytes
  errors : String

namespace Session

def programName : String := "rate-premium"

def versionText : String := programName ++ " 0.1.0\n"

def usageText : String := "Usage: " ++ programName ++ " [OPTIONS] [PROFILE]\n"

def helpText : String :=
  "Rate a driver profile and explain the premium\n\n" ++ usageText ++
    "\nArguments:\n" ++
    "  [PROFILE]  Driver profile JSON file; reads stdin when omitted or \"-\"\n" ++
    "\nOptions:\n" ++
    "      --format <FORMAT>  Output format (overrides RATING_OUTPUT_FORMAT) " ++
    "[possible values: text, json]\n" ++
    "      --show-rates       Print the rate table and exit\n" ++
    "  -h, --help             Print help\n" ++
    "  -V, --version          Print version\n"

def usageErrorText : UsageError → String
  | .invalidValue => "a value is missing or not one of those allowed"
  | .unknownArgument => "unexpected argument"
  | .argumentConflict => "an argument cannot be used multiple times"
  | .tooManyValues => "unexpected value for an argument that takes none"

def exitEarly (exit : EarlyExit) : SessionResult :=
  match exit with
  | .help => ⟨exit.status, Utf8.encodeText helpText, ""⟩
  | .version => ⟨exit.status, Utf8.encodeText versionText, ""⟩
  | .usage error =>
      ⟨exit.status, [],
        "error: " ++ usageErrorText error ++ "\n\n" ++ usageText ++
          "\nFor more information, try '--help'.\n"⟩

/-- The lines of a text after the first, indented under the number of a cause. -/
def indentLines (text : String) : String :=
  String.ofList (text.toList.flatMap fun c =>
    if c = '\n' then '\n' :: List.replicate 7 ' ' else [c])

def errorReport (context : String) (error : CommandError) : String :=
  "Error: " ++ context ++ "\n\nCaused by:\n    0: " ++ indentLines error.message ++
    "\n    1: " ++ indentLines error.reason ++ "\n"

def settingsContext : String := "Invalid RATING_* configuration"

def ratingContext : String := "Failed to rate driver profile"

def brokenStatus : Nat := 101

def errorStatus : CommandError → Nat
  | .overflow _ => brokenStatus
  | _ => 1

def failure (output : Bytes) (log context : String) (error : CommandError) : SessionResult :=
  match error with
  | .overflow cause => ⟨errorStatus error, output, log ++ cause.message ++ "\n"⟩
  | _ => ⟨errorStatus error, output, log ++ errorReport context error⟩

/-- The environment with what the nearest file adds to it. -/
def environmentOf (surroundings : Surroundings) : Except VariableRefusal Environment :=
  let paths := EnvironmentFile.candidates EnvironmentFile.fileName surroundings.above
  match EnvironmentFile.find? surroundings.files paths with
  | some file => EnvironmentFile.load surroundings.environment file
  | none => .ok surroundings.environment

/-- A session after its environment is known. -/
def runIn (environment : Environment) (files : Files) (input : Bytes) (words : List String) :
    SessionResult :=
  match Settings.ofEnvironment environment with
  | .error error => failure [] "" settingsContext (.settings error)
  | .ok settings =>
      match Arguments.ofWords words with
      | .error exit => exitEarly exit
      | .ok arguments =>
          let filter := LogFilter.choose environment settings.logLevel
          let result := Command.run true files input settings arguments Writer.keeping []
          let log := filter.log result.events
          match result.outcome with
          | .ok () => ⟨0, result.output, log⟩
          | .error error => failure result.output log ratingContext error

def run (surroundings : Surroundings) (words : List String) : SessionResult :=
  match environmentOf surroundings with
  | .error refusal => ⟨brokenStatus, [], refusal.message ++ "\n"⟩
  | .ok environment => runIn environment surroundings.files surroundings.input words

end Session

end MotorTariff
