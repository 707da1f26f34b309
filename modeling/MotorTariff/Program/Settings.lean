import MotorTariff.Json.Choice
import MotorTariff.Premium.Basic
import MotorTariff.Program.Environment
import MotorTariff.Program.SettingPath

/-!
Settings of the program, from environment variables with the prefix `RATING_`. The rest of a
variable's name is a path into the settings. The case of names does not matter, nor that of an
output format; unknown names, and names that are no path, are passed over.
-/

set_option autoImplicit false

namespace MotorTariff

def OutputFormat.choice : Json.Choice OutputFormat := ⟨all, name⟩

structure Settings where
  /-- The filter of the log. -/
  logLevel : String
  outputFormat : OutputFormat
  deriving DecidableEq

/-- What has been put under the name of a setting: a text, named members, or elements. -/
inductive SettingValue where
  | text (value : String)
  | members (names : List String)
  | elements
  deriving DecidableEq, Repr

inductive SettingsError where
  | unknownFormat (name : String)
  | formatShape
  | logLevelShape (found : String)
  deriving DecidableEq

def SettingsError.message : SettingsError → String
  | unknownFormat name => "enum OutputFormat does not have variant constructor " ++ name
  | formatShape =>
      "value of enum OutputFormat should be represented by either string or table with exactly " ++
        "one key"
  | logLevelShape found =>
      "invalid type: " ++ found ++ ", expected a string for key \x60log_level\x60"

namespace SettingValue

/-- Puts a value at the end of the steps; a value of another shape gives way. -/
def put (old : SettingValue) (text : String) : List SettingStep → SettingValue
  | [] => .text text
  | .element :: _ => .elements
  | .member name :: _ =>
      match old with
      | .members names => if name ∈ names then .members names else .members (name :: names)
      | _ => .members [name]

end SettingValue

namespace Settings

def namePrefixChars : List Char := "rating_".toList

/-- The small letter of a letter; the Kelvin sign is the only one outside ASCII that has an ASCII
letter for it. -/
def smallLetter (c : Char) : Char := if c = '\u212a' then 'k' else c.toLower

def lowerCase (text : String) : List Char := text.toList.map smallLetter

def pathOf? (variableName : String) : Option SettingPath :=
  let name := lowerCase variableName
  if namePrefixChars.isPrefixOf name then
    SettingPath.ofChars? (name.drop namePrefixChars.length)
  else none

def lookUp (environment : Environment) (setting : String) (default : String) : SettingValue :=
  environment.foldl
    (fun value entry =>
      match pathOf? entry.1 with
      | some path => if path.setting = setting then value.put entry.2 path.steps else value
      | none => value)
    (.text default)

def formatNamed (text : String) : Except SettingsError OutputFormat :=
  match OutputFormat.all.find? fun format => format.name.toList == lowerCase text with
  | some format => .ok format
  | none => .error (.unknownFormat text)

/-- A format is a text or the name of an only member. -/
def formatOf : SettingValue → Except SettingsError OutputFormat
  | .text text => formatNamed text
  | .members [name] => formatNamed name
  | .members _ => .error .formatShape
  | .elements => .error .formatShape

def logLevelOf : SettingValue → Except SettingsError String
  | .text text => .ok text
  | .members _ => .error (.logLevelShape "map")
  | .elements => .error (.logLevelShape "sequence")

def ofEnvironment (environment : Environment) : Except SettingsError Settings := do
  let outputFormat ← formatOf (lookUp environment "output_format" "text")
  let logLevel ← logLevelOf (lookUp environment "log_level" "warn")
  return { logLevel, outputFormat }

end Settings

end MotorTariff
