/-!
# The journal

What a run has to say about itself, line by line. Each entry has a level and names the part that it
comes from; a journal keeps the entries from a certain level on.
-/

set_option autoImplicit false

namespace Cosmac

/-- How much an entry matters. -/
inductive LogLevel where
  | debug
  | info
  | warning
  | error
  deriving DecidableEq, Repr

namespace LogLevel

/-- The levels in ascending order. -/
def rank : LogLevel → Nat
  | debug => 0
  | info => 1
  | warning => 2
  | error => 3

/-- The name of a level. -/
def name : LogLevel → String
  | debug => "DEBUG"
  | info => "INFO"
  | warning => "WARNING"
  | error => "ERROR"

/-- The level of a name. -/
def ofName? (name : String) : Option LogLevel :=
  [debug, info, warning, error].find? fun level ↦ level.name = name

end LogLevel

/-- The parts that keep a journal. -/
inductive LogSource where
  | loader
  | machine
  | runner
  deriving DecidableEq, Repr

/-- The name of a part. -/
def LogSource.name : LogSource → String
  | loader => "chip8.loader"
  | machine => "chip8.interpreter"
  | runner => "chip8.run_chip8"

/-- An entry of a journal. -/
structure LogEntry where
  level : LogLevel
  source : LogSource
  text : String
  deriving DecidableEq, Repr

/-- The line of an entry. -/
def LogEntry.line (entry : LogEntry) : String :=
  entry.level.name ++ " " ++ entry.source.name ++ ": " ++ entry.text

/-- The entries that were kept, in order, and the lowest level that is kept. -/
structure Journal where
  threshold : LogLevel
  entries : Array LogEntry

namespace Journal

/-- An empty journal. -/
def start (threshold : LogLevel) : Journal :=
  ⟨threshold, #[]⟩

/-- Adds an entry, if its level is high enough. -/
def record (journal : Journal) (level : LogLevel) (source : LogSource) (text : String) :
    Journal :=
  if journal.threshold.rank ≤ level.rank then
    { journal with entries := journal.entries.push ⟨level, source, text⟩ }
  else journal

/-- The text of a journal, a line for each entry. -/
def text (journal : Journal) : String :=
  String.join (journal.entries.toList.map fun entry ↦ entry.line ++ "\n")

end Journal

end Cosmac
