import Cosmac.Config.Document
import Cosmac.Console.CommandLine
import Cosmac.Run.Session

/-!
# The command

`Command.run` carries out a command line: it reads the configuration, lists or runs the program,
and says in words what kept it from doing so.
-/

set_option autoImplicit false

namespace Cosmac

/-- How a command ended and what it has written. -/
structure CommandResult where
  /-- The exit code: one if the machine faulted, two if there was nothing to run. -/
  exitCode : Nat
  /-- What was printed. -/
  printed : String
  /-- The journal, and what kept the command from being carried out. -/
  errors : String
  /-- The image that was saved, and where. -/
  saved : Option (Path × Image)

/-- An error that a command does not put into words. -/
inductive CommandError where
  /-- The form of the configuration is wrong. -/
  | config (cause : ConfigError)
  /-- The configuration is nested too deeply. -/
  | nestedConfig (cause : Json.ParseError)
  /-- The session cannot be carried out. -/
  | session (cause : SessionError)
  /-- The profile or the level of the journal is of no use. -/
  | misfit

/-- The wording of an error that a command leaves to its caller. -/
def CommandError.message : CommandError → String
  | config cause => (cause.message?).getD "the configuration has the wrong form"
  | nestedConfig cause => cause.message
  | session cause => (cause.message?).getD "the session cannot be carried out"
  | misfit => "a setting has no value"

namespace CommandResult

/-- The result of a command that could not be carried out. -/
def failure (text : String) : CommandResult :=
  ⟨2, "", "Error: " ++ text ++ "\n", none⟩

end CommandResult

namespace Command

/-- How deeply the values of a configuration file may be nested. -/
def configNesting : Nat := 987

/-- The configuration with the seed that options ask for, or else its own, or else a spare one. -/
def seeded (config : Config) (options : Options) (spare : Option Int) : Config :=
  match options.seed, config.seed, spare with
  | some (.value seed), _, _ => { config with seed := .int seed }
  | some .misfit, _, _ => { config with seed := .list [] }
  | none, .null, some seed => { config with seed := .int seed }
  | none, _, _ => config

/-- The result of a configuration file that cannot be used, where the reason has words. -/
def configFailure (path : String) : ConfigFileError → Except CommandError CommandResult
  | .refused cause =>
    match cause.message? with
    | some message => .ok (.failure ("cannot load config " ++ path ++ ": " ++ message))
    | none => .error (.config cause)
  | .unreadable cause => .ok (.failure ("cannot load config " ++ path ++ ": " ++ cause.message))
  | .notText cause => .ok (.failure ("cannot load config " ++ path ++ ": " ++ cause.message))
  | .notJson cause =>
    match cause.flaw with
    | .nestedTooDeeply _ => .error (.nestedConfig cause)
    | _ => .ok (.failure ("cannot load config " ++ path ++ ": " ++ cause.message))

/-- The configuration that options ask for: that of the file, or else that of the profile. Otherwise
there is a result in its place. -/
def baseConfig (files : Files) (options : Options) :
    Except (Except CommandError CommandResult) Config :=
  match options.config, options.profile with
  | none, .value profile | some "", .value profile => .ok (.ofProfile profile)
  | none, .misfit | some "", .misfit => .error (.error .misfit)
  | some path, _ => (Config.load configNesting files path).mapError (configFailure path)

/-- What a session is asked to do. -/
def request (line : CommandLine) (config : Config) : SessionRequest where
  program := .ofString line.program
  steps := line.options.steps
  config := config
  fast := line.options.fast
  savePath := line.options.savePath
  zoom := line.options.zoom.map (Given.map .whole)
  printStatistics := true
  printScreen := line.options.printScreen

/-- The result of a program that cannot be loaded. A text that is no path has no words here. -/
def programFailure (cause : ProgramError) : Except CommandError CommandResult :=
  match cause with
  | .unreadable _ reason =>
    if reason.failure.isMisuse then .error (.session (.start (.program cause)))
    else .ok (.failure cause.message)
  | _ => .ok (.failure cause.message)

/-- Lists a program. -/
def list (files : Files) (program : Path) (journal : Journal) : Except CommandError CommandResult :=
  match Session.loadProgram files program journal with
  | .error cause => programFailure cause
  | .ok (bytes, journal) =>
    let lines := (listing programStart bytes.toList).map fun entry ↦ entry.line ++ "\n"
    .ok ⟨0, String.join lines, journal.text, none⟩

/-- The result of a session. -/
def sessionResult : Except SessionError SessionResult → Except CommandError CommandResult
  | .error (.start (.program cause)) => programFailure cause
  | .error cause => .error (.session cause)
  | .ok result =>
    .ok ⟨if result.run.fault.isSome then 1 else 0, result.printed, result.run.journal.text,
      result.saved⟩

/-- Carries out a command line on a host with the given files and clock. The spare seed is used
where neither the command line nor the configuration gives one. -/
def run {m : Type → Type} [Monad m] (files : Files) (time : Timekeeper m) (spare : Option Int)
    (line : CommandLine) : m (Except CommandError CommandResult) :=
  match line.options.logLevel, baseConfig files line.options with
  | .misfit, _ => pure (.error .misfit)
  | .value _, .error result => pure result
  | .value level, .ok base =>
    if line.options.listProgram then pure (list files (.ofString line.program) (.start level))
    else do
      let config := seeded base line.options spare
      return sessionResult (← Session.run files time (request line config) (.start level))

end Command

end Cosmac
