import Cosmac.Console.Command
import Cosmac.Proofs.Config.Refusal
import Mathlib

/-!
# Configuration files on the command line

A command whose configuration file is loaded goes on with it. A file that cannot be loaded ends the
command with a line that says why and the exit code two, unless the file is malformed: then the
error leaves the command without words (`Command.load_failure_told_unless_malformed`). An empty list
is such a file (`Command.load_failure_escapes_of_list`).
-/

set_option autoImplicit false

namespace Cosmac.Command

variable {m : Type → Type} [Monad m] {files : Files} {time : Timekeeper m} {spare : Option Int}
  {line : CommandLine} {path : String}

/-! ### Failures to load -/

/-- A failure that has words is told. -/
theorem configFailure_of_told (path : String) {cause : ConfigFileError}
    (htold : cause.isUntold = false) :
    ∃ message : String, cause.message? = some message ∧ configFailure path cause =
      .ok (.failure ("cannot load config " ++ path ++ ": " ++ message)) := by
  cases cause with
  | unreadable reason => exact ⟨reason.message, rfl, rfl⟩
  | notText reason => exact ⟨reason.message, rfl, rfl⟩
  | notJson reason =>
    refine ⟨reason.message, rfl, ?_⟩
    cases hflaw : reason.flaw with
    | nestedTooDeeply container =>
      rw [ConfigFileError.isUntold_notJson_iff.mpr ⟨container, hflaw⟩] at htold
      cases htold
    | _ => simp only [configFailure, hflaw]
  | refused reason =>
    have hwords := reason.isOfForm_eq.symm.trans htold
    obtain ⟨message, hmessage⟩ := Option.isSome_iff_exists.mp (Option.isNone_eq_false_iff.mp hwords)
    refine ⟨message, hmessage, ?_⟩
    simp only [configFailure, hmessage]

/-- A failure without words leaves the command. -/
theorem configFailure_of_untold (path : String) {cause : ConfigFileError}
    (huntold : cause.isUntold = true) :
    ∃ error : CommandError, configFailure path cause = .error error := by
  cases cause with
  | unreadable => cases huntold
  | notText => cases huntold
  | notJson reason =>
    obtain ⟨container, hflaw⟩ := ConfigFileError.isUntold_notJson_iff.mp huntold
    refine ⟨.nestedConfig reason, ?_⟩
    simp only [configFailure, hflaw]
  | refused reason =>
    have hwords := Option.isNone_iff_eq_none.mp (reason.isOfForm_eq.symm.trans huntold)
    refine ⟨.config reason, ?_⟩
    simp only [configFailure, hwords]

theorem baseConfig_eq (hconfig : line.options.config = some path) (hpath : path ≠ "") :
    baseConfig files line.options =
      (Config.load configNesting files path).mapError (configFailure path) := by
  unfold baseConfig
  rw [hconfig]
  split
  case h_1 heq _ => cases heq
  case h_2 heq _ => exact absurd (Option.some.inj heq) hpath
  case h_3 heq _ => cases heq
  case h_4 heq _ => exact absurd (Option.some.inj heq) hpath
  case h_5 heq _ _ =>
    cases heq
    rfl

/-- What a command does when it has its configuration. -/
def proceed (files : Files) (time : Timekeeper m) (spare : Option Int) (line : CommandLine)
    (level : LogLevel) (config : Config) : m (Except CommandError CommandResult) :=
  if line.options.listProgram then pure (list files (.ofString line.program) (.start level))
  else do
    let config := seeded config line.options spare
    return sessionResult (← Session.run files time (request line config) (.start level))

variable {level : LogLevel}

theorem run_of_loaded (hconfig : line.options.config = some path) (hpath : path ≠ "")
    (hlevel : line.options.logLevel = .value level) {config : Config}
    (hload : Config.load configNesting files path = .ok config) :
    run files time spare line = proceed files time spare line level config := by
  rw [run, hlevel, baseConfig_eq hconfig hpath, hload]
  rfl

theorem run_of_failed (hconfig : line.options.config = some path) (hpath : path ≠ "")
    (hlevel : line.options.logLevel = .value level) {cause : ConfigFileError}
    (hload : Config.load configNesting files path = .error cause) :
    run files time spare line = pure (configFailure path cause) := by
  rw [run, hlevel, baseConfig_eq hconfig hpath, hload]
  rfl

theorem run_of_malformed (hconfig : line.options.config = some path) (hpath : path ≠ "")
    (hlevel : line.options.logLevel = .value level)
    (hmalformed : Config.FileIsMalformed (.ofNesting configNesting) files path) :
    ∃ error : CommandError, run files time spare line = pure (.error error) := by
  obtain ⟨cause, hload, huntold⟩ := Config.fileIsMalformed_iff.mp hmalformed
  obtain ⟨error, hfailure⟩ := configFailure_of_untold path huntold
  exact ⟨error, hfailure ▸ run_of_failed hconfig hpath hlevel hload⟩

/-- Assumes a command line with a configuration file that is not the empty path. Without a level for
the journal, the command ends before it reads the file. With one, it goes on with the configuration
that it has loaded; says why none could be loaded, and ends with the exit code two; or leaves the
error to its caller, which happens exactly if the file is malformed. -/
theorem load_failure_told_unless_malformed (files : Files) (time : Timekeeper m)
    (spare : Option Int) (hconfig : line.options.config = some path) (hpath : path ≠ "") :
    (line.options.logLevel = .misfit → run files time spare line = pure (.error .misfit)) ∧
    ∀ level : LogLevel, line.options.logLevel = .value level →
      (∀ config : Config, Config.load configNesting files path = .ok config →
        run files time spare line = proceed files time spare line level config) ∧
      (∀ cause : ConfigFileError, Config.load configNesting files path = .error cause →
        ¬ Config.FileIsMalformed (.ofNesting configNesting) files path →
          ∃ message : String, cause.message? = some message ∧ run files time spare line =
            pure (.ok (.failure ("cannot load config " ++ path ++ ": " ++ message)))) ∧
      (Config.FileIsMalformed (.ofNesting configNesting) files path →
        ∃ error : CommandError, run files time spare line = pure (.error error)) := by
  refine ⟨fun hlevel ↦ by rw [run, hlevel], fun level hlevel ↦ ⟨fun config hload ↦
    run_of_loaded hconfig hpath hlevel hload, fun cause hload htold ↦ ?_,
    run_of_malformed hconfig hpath hlevel⟩⟩
  have htold : cause.isUntold = false := Bool.eq_false_iff.mpr fun huntold ↦
    htold (Config.fileIsMalformed_iff.mpr ⟨cause, hload, huntold⟩)
  obtain ⟨message, hmessage, hfailure⟩ := configFailure_of_told path htold
  exact ⟨message, hmessage, hfailure ▸ run_of_failed hconfig hpath hlevel hload⟩

/-- Files of which one holds an empty list. -/
def listFiles : Files :=
  ⟨[], [(["c"], .file #[0x5B, 0x5D])]⟩

/-- The command line `p --config c`. -/
def listLine : CommandLine :=
  ⟨"p", { Options.usual with config := some "c" }⟩

theorem ofArguments_listLine :
    CommandLine.ofArguments ["p", "--config", "c"] = .ok listLine := by
  cbv

theorem fileIsMalformed_list : Config.FileIsMalformed (.ofNesting configNesting) listFiles "c" := by
  have hread : listFiles.read "c" = .ok #[0x5B, 0x5D] := by cbv
  have hparse : Json.parseWithin (.ofNesting configNesting) (Text.joinLines ['[', ']']) =
      .ok (.list []) := by
    cbv
  exact ⟨_, ['[', ']'], hread, by cbv, .ofForm hparse rfl rfl⟩

/-- A clock that stands still. -/
def stillTime : Timekeeper Id :=
  ⟨.whole 0, fun _ ↦ ()⟩

theorem config_listLine : listLine.options.config = some "c" :=
  rfl

theorem load_failure_told_unless_malformed_of_list :
    CommandLine.ofArguments ["p", "--config", "c"] = .ok listLine ∧
      ∃ error : CommandError, run listFiles stillTime none listLine = .error error := by
  refine ⟨ofArguments_listLine, ?_⟩
  have hrun := load_failure_told_unless_malformed listFiles stillTime none config_listLine
    (by decide)
  exact (hrun.2 .warning rfl).2.2 fileIsMalformed_list

/-- Not every file that cannot be loaded is told about: the one that holds an empty list is not. -/
theorem load_failure_escapes_of_list :
    ¬ ∀ (files : Files) (time : Timekeeper Id) (spare : Option Int) (texts : List String)
      (line : CommandLine) (path : String), CommandLine.ofArguments texts = .ok line →
        line.options.config = some path → path ≠ "" →
          (∃ config : Config, Config.load configNesting files path = .ok config) ∨
            ∃ message : String, run files time spare line =
              .ok (.failure ("cannot load config " ++ path ++ ": " ++ message)) := by
  intro hall
  obtain ⟨cause, hload, -⟩ := Config.fileIsMalformed_iff.mp fileIsMalformed_list
  have hrun : ∃ error : CommandError, run listFiles stillTime none listLine =
      pure (.error error) :=
    run_of_malformed config_listLine (by decide) rfl fileIsMalformed_list
  obtain ⟨error, hrun⟩ := hrun
  rcases hall listFiles stillTime none _ _ "c" ofArguments_listLine config_listLine (by decide) with
    ⟨config, hloaded⟩ | ⟨message, hmessage⟩
  · cases hloaded.symm.trans hload
  · cases hmessage.symm.trans hrun

end Cosmac.Command
