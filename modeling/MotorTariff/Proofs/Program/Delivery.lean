import MotorTariff.Program.Command
import MotorTariff.Proofs.Engine.StandardTable
import MotorTariff.Proofs.Program.Writing

/-!
# A run delivers one whole text or nothing

What a run ends with is settled by the arguments and the input alone: the listing of the rates, the
rendering of a rated profile, or the error of the first step that failed. The standard table has
room for every profile, so rating and rendering never fail. A text is handed to the writer as the
last step and only when it is whole, so that a run that fails leaves the writer as it was.
-/

set_option autoImplicit false

namespace MotorTariff

namespace Path

/-- The parts that paths are compared by. After the first part neither empty parts nor single dots
count; an empty path has no parts, and an empty first part stands for the root. -/
def components (path : String) : List (List Char) :=
  match parts path with
  | [] => []
  | first :: rest =>
      if first = [] ∧ rest = [] then []
      else first :: rest.filter fun part => !(part == [] || part == ['.'])

theorem is_dash_iff_components (path : String) :
    isDash path = true ↔ components path = components "-" := by
  have dash : components "-" = [['-']] := by decide
  rw [dash, isDash, components]
  cases parts path with
  | nil => simp
  | cons first rest =>
      by_cases empty : first = [] ∧ rest = []
      · simp [empty]
      · simp [empty, List.filter_eq_nil_iff, or_iff_not_imp_left]

end Path

namespace Profile

/-- What a profile is read from: the file that is named, or the input if none is named or the path
is that of a dash. -/
def source (files : Files) (input : Bytes) : Option String → Opening
  | none => .contents input
  | some path =>
      if Path.components path = Path.components "-" then .contents input else files path

theorem load_from_source (files : Files) (input : Bytes) (path : Option String) :
    load files input path =
      match source files input path with
      | .contents document => ofBytes document
      | .refused error => .error (.unopened (path.getD "") error)
      | .unreadable error => .error (.unreadable error) := by
  cases path with
  | none => rfl
  | some path =>
      by_cases dash : Path.isDash path = true
      · simp only [load, source, if_pos dash, if_pos ((Path.is_dash_iff_components path).mp dash)]
      · simp only [load, source, if_neg dash,
          if_neg (mt (Path.is_dash_iff_components path).mpr dash)]
        cases files path <;> rfl

end Profile

theorem Premium.render_of_total {premium : Premium} {total : Money}
    (totalled : premium.total = .ok total) (format : OutputFormat) :
    ∃ text, premium.render format = .ok text := by
  cases format with
  | text => exact ⟨_, by rw [render, breakdown, totalled]; rfl⟩
  | json => exact ⟨_, by rw [render, document, toJson, totalled]; rfl⟩

namespace Command

variable {State Value Other : Type}

/-- What a part of the command comes to from a state of the writer on, apart from its reports. -/
def ending (part : Command State Value) (output : State) : Except CommandError Value × State :=
  ((part output).outcome, (part output).output)

section Steps

variable {first : Command State Value} {output after : State}

theorem ending_of_ok {value : Value} (done : first.ending output = (.ok value, after))
    (next : Value → Command State Other) :
    (first >>= next).ending output = (next value).ending after := by
  obtain ⟨outcome, rfl⟩ := Prod.mk.inj done
  change ((bind first next output).outcome, (bind first next output).output) = _
  rw [bind, outcome]
  rfl

theorem ending_of_error {error : CommandError} (failed : first.ending output = (.error error, after))
    (next : Value → Command State Other) :
    (first >>= next).ending output = (.error error, after) := by
  obtain ⟨outcome, rfl⟩ := Prod.mk.inj failed
  change ((bind first next output).outcome, (bind first next output).output) = _
  rw [bind, outcome]

theorem ending_of_except (outcome : Except CommandError Value) (output : State) :
    (ofExcept outcome).ending output = (outcome, output) := rfl

theorem ending_of_report (event : Event) (output : State) :
    (report event).ending output = (.ok (), output) := rfl

theorem ending_of_traced {run : Traced Value} {value : Value} (done : run.outcome = .ok value)
    (output : State) : (ofTraced run).ending output = (.ok value, output) := by
  unfold ending ofTraced
  rw [done]
  rfl

theorem ending_of_write {writer : Writer State} {written : State → Bytes}
    (accepting : writer.Accepting written) (text : String) (output : State) :
    ((write writer text).ending output).1 = .ok () ∧
      written ((write writer text).ending output).2 =
        written output ++ Utf8.encodeText text := by
  obtain ⟨done, wrote⟩ :=
    Writer.write_all_of_accepting accepting (Utf8.encodeText text) output
  unfold ending write
  dsimp only
  rw [done]
  exact ⟨rfl, wrote⟩

end Steps

section Ways

variable (listening : Bool) (files : Files) (input : Bytes) (settings : Settings)
  (arguments : Arguments) (writer : Writer State) (output : State)

theorem ending_of_listing (listing : arguments.showRates = true) :
    (run listening files input settings arguments writer).ending output =
      (write writer RateTable.standard.listing).ending output := by
  unfold run
  dsimp only
  rw [if_pos listing]
  rfl

theorem ending_of_unread (rating : arguments.showRates = false) {error : CommandError}
    (unread : Profile.load files input arguments.profile = .error error) :
    (run listening files input settings arguments writer).ending output =
      (.error error, output) := by
  unfold run
  dsimp only
  rw [if_neg (by simp [rating]), unread]
  exact ending_of_error (ending_of_except ..) _

theorem ending_of_profile (rating : arguments.showRates = false) {profile : Profile}
    (read : Profile.load files input arguments.profile = .ok profile) :
    ∃ premium text,
      (∀ listens, (Engine.standard.rate listens profile).outcome = .ok premium) ∧
      premium.render (arguments.format.getD settings.outputFormat) = .ok text ∧
      (run listening files input settings arguments writer).ending output =
        (write writer text).ending output := by
  obtain ⟨premium, total, rated, totalled⟩ := Engine.standard_rates_every_profile profile
  obtain ⟨text, rendered⟩ :=
    Premium.render_of_total totalled (arguments.format.getD settings.outputFormat)
  refine ⟨premium, text, rated, rendered, ?_⟩
  unfold run
  dsimp only
  rw [if_neg (by simp [rating]), read, ending_of_ok (ending_of_except ..),
    ending_of_ok (ending_of_report ..), ending_of_ok (ending_of_traced (rated listening) output)]
  cases listening with
  | false => exact ending_of_ok (ending_of_traced rendered output) _
  | true =>
      -- The total is computed once more for the report.
      rw [if_pos rfl, ending_of_ok (ending_of_traced totalled output),
        ending_of_ok (ending_of_report ..)]
      exact ending_of_ok (ending_of_traced rendered output) _

theorem ending_of_refused (rating : arguments.showRates = false) {error : SystemError}
    (refused : Profile.source files input arguments.profile = .refused error) :
    ∃ path, arguments.profile = some path ∧
      (run listening files input settings arguments writer).ending output =
        (.error (.unopened path error), output) := by
  obtain ⟨path, named⟩ : ∃ path, arguments.profile = some path := by
    rw [← Option.ne_none_iff_exists']
    intro unnamed
    rw [unnamed] at refused
    cases refused
  refine ⟨path, named, ending_of_unread listening files input settings arguments writer output
    rating ?_⟩
  rw [Profile.load_from_source, refused, named]
  rfl

end Ways

/-- With a writer that always takes some of what it is given, a run ends in one of three ways and
never with an overflow. With the listing asked for, all that the writer gets is the listing of the
standard rates, handed over at once, whatever else is given. Otherwise it is the rendering of what
the standard engine charges for the profile that is read, in the format of the arguments or else of
the settings; or, if the source cannot be opened, read or understood, the writer stays as it was. -/
theorem run_delivers_one_text_or_nothing {writer : Writer State} {written : State → Bytes}
    (accepting : writer.Accepting written) (listening : Bool) (files : Files) (input : Bytes)
    (settings : Settings) (arguments : Arguments) (output : State) :
    let result := run listening files input settings arguments writer output
    let delivers (text : String) :=
      result.outcome = .ok () ∧
        result.output = (writer.writeAll (Utf8.encodeText text) output).2 ∧
        written result.output = written output ++ Utf8.encodeText text
    let fails (error : CommandError) := result.outcome = .error error ∧ result.output = output
    (∀ cause, result.outcome ≠ .error (.overflow cause)) ∧
      if arguments.showRates then delivers RateTable.standard.listing
      else
        match Profile.source files input arguments.profile with
        | .refused error => ∃ path, arguments.profile = some path ∧ fails (.unopened path error)
        | .unreadable error => fails (.unreadable error)
        | .contents document =>
            match Profile.ofDocument document with
            | .error fault => fails (.invalidProfile document fault)
            | .ok profile =>
                ∃ premium text,
                  (∀ listens, (Engine.standard.rate listens profile).outcome = .ok premium) ∧
                  premium.render (arguments.format.getD settings.outputFormat) = .ok text ∧
                  delivers text := by
  intro result delivers fails
  have delivered {text : String}
      (same : (run listening files input settings arguments writer).ending output =
        (write writer text).ending output) :
      (∀ cause, result.outcome ≠ .error (.overflow cause)) ∧ delivers text := by
    obtain ⟨done, wrote⟩ := ending_of_write accepting text output
    rw [← same] at done wrote
    refine ⟨fun cause => ?_, done, congrArg Prod.snd same, wrote⟩
    have ended : result.outcome = .ok () := done
    rw [ended]
    nofun
  have failed {error : CommandError}
      (same : (run listening files input settings arguments writer).ending output =
        (.error error, output)) (harmless : ∀ cause, error ≠ .overflow cause) :
      (∀ cause, result.outcome ≠ .error (.overflow cause)) ∧ fails error := by
    obtain ⟨outcome, kept⟩ := Prod.mk.inj same
    have ended : result.outcome = .error error := outcome
    refine ⟨fun cause overflows => harmless cause ?_, ended, kept⟩
    rw [ended] at overflows
    cases overflows
    rfl
  have loaded := Profile.load_from_source files input arguments.profile
  cases showing : arguments.showRates with
  | true =>
      rw [if_pos rfl]
      exact delivered (ending_of_listing listening files input settings arguments writer output
        showing)
  | false =>
      rw [if_neg Bool.false_ne_true]
      have unread := @ending_of_unread _ listening files input settings arguments writer output
        showing
      cases opened : Profile.source files input arguments.profile with
      | refused error =>
          obtain ⟨path, named, ended⟩ := ending_of_refused listening files input settings arguments
            writer output showing opened
          obtain ⟨fits, refused⟩ := failed ended fun _ => nofun
          exact ⟨fits, path, named, refused⟩
      | unreadable error =>
          rw [opened] at loaded
          exact failed (unread loaded) fun _ => nofun
      | contents document =>
          rw [opened] at loaded
          dsimp only [Profile.ofBytes] at loaded ⊢
          cases understood : Profile.ofDocument document with
          | error fault =>
              rw [understood] at loaded
              exact failed (unread loaded) fun _ => nofun
          | ok profile =>
              rw [understood] at loaded
              obtain ⟨premium, text, rated, rendered, ended⟩ := ending_of_profile listening files
                input settings arguments writer output showing loaded
              obtain ⟨fits, wrote⟩ := delivered ended
              exact ⟨fits, premium, text, rated, rendered, wrote⟩

/-- The listing arrives byte by byte, and no profile is looked for. -/
theorem listing_arrives_byte_by_byte :
    let missing : Files := fun _ => .refused .notFound
    let arguments : Arguments :=
      { profile := some "profile.json", format := some .json, showRates := true }
    let result := run true missing [] ⟨"warn", .text⟩ arguments .oneByOne [0x3e]
    Writer.oneByOne.Accepting id ∧ result.outcome = .ok () ∧
      result.output = [0x3e] ++ Utf8.encodeText RateTable.standard.listing := by
  intro missing arguments result
  obtain ⟨-, delivered⟩ := run_delivers_one_text_or_nothing Writer.one_by_one_accepts true missing
    [] ⟨"warn", .text⟩ arguments [0x3e]
  rw [if_pos rfl] at delivered
  obtain ⟨done, -, wrote⟩ := delivered
  exact ⟨Writer.one_by_one_accepts, done, wrote⟩

end Command

end MotorTariff
