import Cosmac.Number.Numeral
import Cosmac.Run.Given
import Cosmac.Run.Journal

/-!
# Options

What a user may ask for on the command line besides the program. A switch stands alone, a setting
has a value. `Options.flip` and `Options.assign?` carry out a single request.
-/

set_option autoImplicit false

namespace Cosmac

/-- The options that stand alone. -/
inductive Switch where
  | fast
  | paced
  | printScreen
  | listProgram
  deriving DecidableEq, Repr

/-- The options that have a value. -/
inductive Setting where
  | steps
  | config
  | profile
  | seed
  | savePath
  | zoom
  | logLevel
  deriving DecidableEq, Repr

/-- An option by what it does. -/
inductive Flag where
  | help
  | switch (switch : Switch)
  | setting (setting : Setting)
  deriving DecidableEq, Repr

/-- The spellings of the options. -/
def Flag.spellings : List (String × Flag) :=
  [("-h", .help), ("--help", .help), ("--steps", .setting .steps), ("--config", .setting .config),
    ("--profile", .setting .profile), ("--fast", .switch .fast), ("--no-fast", .switch .paced),
    ("--seed", .setting .seed), ("--save-png", .setting .savePath), ("--zoom", .setting .zoom),
    ("--dump-text", .switch .printScreen), ("--disassemble", .switch .listProgram),
    ("--log-level", .setting .logLevel)]

/-- The option of a spelling. -/
def Flag.ofSpelling? (text : String) : Option Flag :=
  (spellings.find? fun entry ↦ entry.1 = text).map Prod.snd

/-- What a command line asks for besides the program. -/
structure Options where
  /-- The number of steps. -/
  steps : Given Int
  /-- The configuration file. -/
  config : Option String
  /-- The profile that is used without a configuration file. -/
  profile : Given String
  /-- Whether to run as fast as possible. -/
  fast : Bool
  /-- The seed of the random bytes. -/
  seed : Option (Given Int)
  /-- Where to save the screen. -/
  savePath : Option (Given String)
  /-- How much to enlarge the saved screen. -/
  zoom : Option (Given Int)
  /-- Whether to print the screen. -/
  printScreen : Bool
  /-- Whether to list the program and not to run it. -/
  listProgram : Bool
  /-- The lowest level of the journal that is shown. -/
  logLevel : Given LogLevel
  deriving DecidableEq, Repr

namespace Options

/-- What is asked for where nothing is said. -/
def usual : Options where
  steps := .value 10000
  config := none
  profile := .value "default"
  fast := true
  seed := none
  savePath := none
  zoom := none
  printScreen := false
  listProgram := false
  logLevel := .value .warning

/-- Carries out a switch. -/
def flip (options : Options) : Switch → Options
  | .fast => { options with fast := true }
  | .paced => { options with fast := false }
  | .printScreen => { options with printScreen := true }
  | .listProgram => { options with listProgram := true }

/-- Gives a setting a value, if the value is of the right kind. -/
def assign? (options : Options) (setting : Setting) (value : String) : Option Options :=
  let number : Option (Given Int) := (Numeral.read? 10 value).map .value
  match setting with
  | .steps => number.map ({ options with steps := · })
  | .config => some { options with config := some value }
  | .profile => some { options with profile := .value value }
  | .seed => number.map ({ options with seed := some · })
  | .savePath => some { options with savePath := some (.value value) }
  | .zoom => number.map ({ options with zoom := some · })
  | .logLevel => (LogLevel.ofName? value).map ({ options with logLevel := .value · })

/-- Gives a setting something that is no value. A configuration file is then not asked for. -/
def blank (options : Options) : Setting → Options
  | .steps => { options with steps := .misfit }
  | .config => { options with config := none }
  | .profile => { options with profile := .misfit }
  | .seed => { options with seed := some .misfit }
  | .savePath => { options with savePath := some .misfit }
  | .zoom => { options with zoom := some .misfit }
  | .logLevel => { options with logLevel := .misfit }

end Options

end Cosmac
