import Cosmac.Config.Basic
import Cosmac.Machine.Basic
import Cosmac.Random.Seed

/-!
# Starting a machine

A machine is made from a program image and a configuration, whose seed decides the random bytes.
-/

set_option autoImplicit false

namespace Cosmac

/-- Why a machine cannot be made. -/
inductive StartError where
  /-- The program is refused. -/
  | program (cause : ProgramError)
  /-- The seed is a list or an object, from which no generator starts. -/
  | unusableSeed
  /-- The seed is a text without bytes. -/
  | unencodableSeed (cause : Text.SurrogateError)

/-- The source of random bytes that a seed gives. -/
def ByteSource.ofSeed : Json → Except StartError ByteSource
  | .null => .ok .silent
  | .int seed => .ok (.generator (.ofSeed seed))
  | .bool seed => .ok (.generator (.ofSeed (if seed then 1 else 0)))
  | .float seed => .ok (.generator (.ofSeed (Seed.ofFloat seed)))
  | .text seed =>
    match Seed.ofText seed with
    | .ok seed => .ok (.generator (.ofSeed seed))
    | .error cause => .error (.unencodableSeed cause)
  | .list _ | .object _ => .error .unusableSeed

/-- A machine with a program, on a screen and a keypad, drawing from a source. -/
def Machine.start (bytes : Array UInt8) (screen : Framebuffer) (keypad : Keypad)
    (source : ByteSource) : Except StartError Machine :=
  match Program.ofBytes bytes with
  | .ok program => .ok (powerOn program screen keypad source)
  | .error cause => .error (.program cause)

/-- A machine with a program and the seed of a configuration. -/
def Machine.ofConfig (bytes : Array UInt8) (config : Config) : Except StartError Machine :=
  match ByteSource.ofSeed config.seed with
  | .ok source => start bytes .screen .idle source
  | .error error => .error error

/-- A machine that is made is one that is switched on. -/
theorem Machine.eq_powerOn_of_ofConfig {bytes : Array UInt8} {config : Config} {m : Machine}
    (hmade : ofConfig bytes config = .ok m) :
    ∃ (program : Program) (source : ByteSource), m = powerOn program .screen .idle source := by
  unfold ofConfig start at hmade
  split at hmade
  · split at hmade
    · exact ⟨_, _, (Except.ok.inj hmade).symm⟩
    · cases hmade
  · cases hmade

end Cosmac
