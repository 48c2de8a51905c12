import Cosmac.Framebuffer.Png
import Cosmac.Service.Basic

/-!
# The view of a service

What a service shows its users of itself and its machine, and the document that says it.
-/

set_option autoImplicit false

namespace Cosmac

/-- What a service shows. -/
structure ServiceView where
  /-- Whether the service says that it is running. -/
  isRunning : Bool
  /-- Whether the tone sounds. -/
  toneActive : Bool
  /-- The last unknown words that were met, the oldest first. -/
  diagnostics : List Diagnostic
  /-- The machine. -/
  machine : Machine

/-- Shows a service, whose machine is made first if there is none. -/
def Service.view (s : Service) : Except ServiceError ServiceView × Service :=
  s.onMachine fun machine s ↦
    (.ok ⟨s.isRunning, s.toneActive, s.diagnostics, machine⟩, s)

/-- The line that shows a diagnostic to users. -/
def Diagnostic.line (event : Diagnostic) : String :=
  event.message ++ " (" ++ event.word.mnemonic ++ ")"

namespace ServiceView

/-- The picture of the screen. -/
def picture (v : ServiceView) : Image :=
  v.machine.screen.plainImage

/-- The wording of the fault that has halted the machine. -/
def faultText (v : ServiceView) : Json :=
  match v.machine.fault with
  | some fault => .text fault.message
  | none => .null

/-- The registers, pointers and timers. -/
def registers (v : ServiceView) : Json :=
  let m := v.machine
  .object [("pc", .int m.pc), ("i", .int m.index), ("sp", .int m.stack.depth.val),
    ("v", .list (m.registers.toList.map fun value ↦ .int value.toNat)),
    ("dt", .int m.timers.delay.toNat), ("st", .int m.timers.sound.toNat)]

/-- The document that shows a service, with the picture of the screen in the given form. -/
def toJson (v : ServiceView) (showPicture : Image → Json) : Json :=
  let m := v.machine
  .object [("is_running", .bool v.isRunning), ("screen", showPicture v.picture),
    ("registers", v.registers), ("stack", .list (m.stack.entries.map fun a ↦ .int a.toNat)),
    ("instruction_count", .int m.instructionCount), ("cycle_count", .int m.cycleCount),
    ("next_instruction", .text m.fetch.mnemonic), ("waiting_for_key", .bool m.waitingForKey),
    ("halted", .bool m.halted), ("fault", v.faultText), ("tone", .bool v.toneActive),
    ("pressed_keys", .list (m.keypad.pressedKeys.map fun key ↦ .int key.val)),
    ("diagnostics", .list (v.diagnostics.map fun event ↦ .text event.line))]

/-- The document that shows a service, with the picture of the screen in it. -/
def document (v : ServiceView) : Json :=
  v.toJson fun image ↦ .text image.address

end ServiceView

end Cosmac
