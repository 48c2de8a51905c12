/-!
# Timers

Two eight-bit counters that every tick counts down to zero. The tone sounds during a tick while the
sound timer runs.
-/

set_option autoImplicit false

namespace Cosmac

/-- The delay timer and the sound timer. -/
structure Timers where
  /-- The delay timer. -/
  delay : UInt8
  /-- The sound timer. -/
  sound : UInt8
  deriving DecidableEq, Repr

namespace Timers

/-- Both timers at zero. -/
def stopped : Timers :=
  ⟨0, 0⟩

/-- One step down, stopping at zero. -/
def countDown (value : UInt8) : UInt8 :=
  if value = 0 then 0 else value - 1

/-- Counts both timers down. The answer tells whether the sound timer was running. -/
def tick (t : Timers) : Timers × Bool :=
  (⟨countDown t.delay, countDown t.sound⟩, t.sound != 0)

end Timers

end Cosmac
