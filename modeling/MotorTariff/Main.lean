import MotorTariff.Program.Session

/-!
The program itself: it gathers what a session needs, runs the session and carries out its result.
-/

set_option autoImplicit false

namespace MotorTariff.System

-- Powers are the core library's own, also where other libraries define some.
attribute [local instance (high)] instPowNat

/-- Variables as the system lists them: a name, an equals sign and a value, each ended by a zero. -/
def environmentOfBytes (bytes : Bytes) : Environment :=
  (bytes.splitOn 0).filterMap fun entry =>
    match Utf8.decode entry with
    | .ok chars =>
        match chars.dropWhile (· != '=') with
        | _ :: value => some (String.ofList (chars.takeWhile (· != '=')), String.ofList value)
        | [] => none
    | .error _ => none

/-- The number of a system error; some calls report it below zero. -/
def errorNumber (code : UInt32) : Nat :=
  if code.toNat < 2 ^ (31 : Nat) then code.toNat else 2 ^ (32 : Nat) - code.toNat

def systemErrorOf (error : IO.Error) : SystemError :=
  let numbered := fun (code : UInt32) (description : String) =>
    match errorNumber code with
    | 2 => .notFound
    | 20 => .notDirectory
    | 21 => .isDirectory
    | 36 => .nameTooLong
    | number => .other description number
  match error with
  | .noFileOrDirectory _ code description => numbered code description
  | .inappropriateType _ code description => numbered code description
  | .invalidArgument _ code description => numbered code description
  | .permissionDenied _ code description => numbered code description
  | .resourceExhausted _ code description => numbered code description
  | .noSuchThing _ code description => numbered code description
  | .otherError code description => numbered code description
  | error => .other (toString error) 5

def readPath (path : String) : IO Opening := do
  try
    return .contents (← IO.FS.readBinFile path).toList
  catch error =>
    match systemErrorOf error with
    | .isDirectory => return .unreadable .isDirectory
    | error => return .refused error

def readCandidates : List String → IO (List (String × Opening))
  | [] => return []
  | path :: further => do
      let opening ← readPath path
      let others ← if EnvironmentFile.isNoFile opening then readCandidates further else pure []
      return (path, opening) :: others

def directoriesAbove : IO Nat := do
  return ((toString (← IO.currentDir)).splitOn "/").countP (· ≠ "")

partial def readStream (stream : IO.FS.Stream) (before : ByteArray) : IO ByteArray := do
  let more ← stream.read 65536
  if more.isEmpty then return before else readStream stream (before ++ more)

end MotorTariff.System

open MotorTariff MotorTariff.System

def main (words : List String) : IO UInt32 := do
  let environment := environmentOfBytes (← IO.FS.readBinFile "/proc/self/environ").toList
  let above ← directoriesAbove
  let candidates ← readCandidates (EnvironmentFile.candidates EnvironmentFile.fileName above)
  let arguments? := (Arguments.ofWords words).toOption.filter (!·.showRates)
  let (profile, input) ←
    match arguments? with
    | none => pure (Opening.refused .notFound, ByteArray.empty)
    | some arguments =>
        if Profile.fromInput arguments.profile then do
          let input ← readStream (← IO.getStdin) .empty
          pure (Opening.refused .notFound, input)
        else do
          let profile ← readPath (arguments.profile.getD "")
          pure (profile, ByteArray.empty)
  let result := Session.run
    { environment
      files := fun path => (candidates.lookup path).getD profile
      above
      input := input.toList }
    words
  IO.eprint result.errors
  let stdout ← IO.getStdout
  stdout.write ⟨result.output.toArray⟩
  stdout.flush
  return UInt32.ofNat result.status
