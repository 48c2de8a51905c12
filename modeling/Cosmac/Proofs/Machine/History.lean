import Cosmac.Machine.Step

/-!
# Histories

`HostAction` is what a host can ask of a machine, and `Machine.perform` what the machine does. A
`History` is a machine together with what has happened to it: the outcomes of its steps since its
program was started last, from which calls and returns are counted, and the diagnostics that its
listeners have heard.
-/

set_option autoImplicit false

namespace Cosmac

/-! ### Outcomes -/

namespace Outcome

/-- The diagnostics that a step hands to the listeners. -/
def diagnostics : Outcome → List Diagnostic
  | executed _ (some event) => [event]
  | _ => []

/-- Whether a step completed a call. -/
def isCall : Outcome → Bool
  | executed word _ => word.family.val = 2
  | _ => false

/-- Whether a step completed a return. -/
def isReturn : Outcome → Bool
  | executed word _ => word = 0x00EE
  | _ => false

end Outcome

/-! ### Actions -/

/-- What a host can ask of a machine. Numbers are as the host gives them. -/
inductive HostAction where
  /-- Takes a step. -/
  | step
  /-- Takes a number of steps, or fewer if one fails. -/
  | run (count : Int)
  /-- Counts the timers down. -/
  | tick
  /-- Presses a key. -/
  | press (number : Int)
  /-- Releases a key. -/
  | release (number : Int)
  /-- Releases every key. -/
  | releaseAll
  /-- Restores the power-on state. -/
  | reset
  /-- Replaces the program and resets. -/
  | load (bytes : Array UInt8)
  /-- Stores a byte at an address. -/
  | write (address value : Int)
  /-- Sets a register. -/
  | setRegister (number value : Int)

namespace Machine

/-- The machine after an operation on a key, which must exist. -/
def onKey (m : Machine) (operate : Keypad → Key → Keypad) (number : Int) : Machine :=
  match Key.ofInt number with
  | .ok key => { m with keypad := operate m.keypad key }
  | .error _ => m

/-- The outcomes of the steps that an action takes, and the machine after it. A host survives an
action that is refused. -/
def perform (m : Machine) : HostAction → List Outcome × Machine
  | .step => ([m.step.1], m.step.2)
  | .run count => m.run count.toNat
  | .tick => ([], m.tick.2)
  | .press number => ([], m.onKey .press number)
  | .release number => ([], m.onKey .release number)
  | .releaseAll => ([], { m with keypad := m.keypad.releaseAll })
  | .reset => ([], m.reset)
  | .load bytes =>
    match m.load bytes with
    | .ok after => ([], after)
    | .error _ => ([], m)
  | .write address value => ([], m.write address (.ofInt value))
  | .setRegister number value => ([], m.setRegister (registerOf number) (.ofInt value))

/-- The machine after actions one after the other. -/
def after (m : Machine) (actions : List HostAction) : Machine :=
  actions.foldl (fun m action ↦ (m.perform action).2) m

end Machine

/-- Whether an action starts a program anew, which a program that does not fit cannot. -/
def HostAction.restarts : HostAction → Bool
  | reset => true
  | load bytes => bytes.size ≤ maxProgramSize
  | _ => false

/-! ### Histories -/

/-- A machine and what has happened to it. -/
structure History where
  /-- The machine. -/
  machine : Machine
  /-- The outcomes since the program was started last. -/
  outcomes : List Outcome
  /-- Every diagnostic that was handed to the listeners, the oldest first. -/
  heard : List Diagnostic

namespace History

/-- The history of a machine that is switched on. -/
def start (program : Program) (screen : Framebuffer) (keypad : Keypad) (source : ByteSource) :
    History :=
  ⟨.powerOn program screen keypad source, [], []⟩

/-- The history after an action. -/
def perform (h : History) (action : HostAction) : History :=
  let (outcomes, after) := h.machine.perform action
  { machine := after
    outcomes := if action.restarts then [] else h.outcomes ++ outcomes
    heard := h.heard ++ outcomes.flatMap Outcome.diagnostics }

/-- The history after actions one after the other. -/
def performAll (h : History) (actions : List HostAction) : History :=
  actions.foldl perform h

/-- The number of calls completed since the program was started last. -/
def calls (h : History) : Nat :=
  h.outcomes.countP Outcome.isCall

/-- The number of returns completed since the program was started last. -/
def returns (h : History) : Nat :=
  h.outcomes.countP Outcome.isReturn

end History

end Cosmac
