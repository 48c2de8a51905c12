import Cosmac.Machine.Start
import Cosmac.Proofs.Capture
import Cosmac.Proofs.Machine.Bisimulation
import Cosmac.Proofs.Machine.Monitoring
import Cosmac.Proofs.Machine.Source

/-!
# A restart forgets the past

A reset makes of any machine what a new machine with the same program would be, and a successful
load what a new machine with that program would be; only the keypad, the source of random bytes and
the registrations of listeners are left as they were. So two machines that agree in these do the
same after a restart, whatever they did before (`restart_forgets_history`). Their sources need only
give the same bytes: machines that are the same but for such sources (`Machine.SameBytes`) answer
every request alike and stay so (`Monitored.SameBytes.respondAll`).
-/

set_option autoImplicit false

namespace Cosmac

/-! ### Machines that draw the same bytes -/

namespace Machine

/-- Two machines are the same but for their sources, which give the same bytes. -/
def SameBytes (m n : Machine) : Prop :=
  ∃ source : ByteSource, n = { m with source := source } ∧
    ∀ number, m.source.byteAt number = source.byteAt number

variable {m n : Machine}

/-- Such machines do the same in a step and stay so. -/
theorem SameBytes.step (hsame : m.SameBytes n) :
    n.step.1 = m.step.1 ∧ m.step.2.SameBytes n.step.2 := by
  obtain ⟨source, rfl, hbytes⟩ := hsame
  have hagree : ByteSource.AgreeFor m.draws.toNat source m.source :=
    fun number _ ↦ (hbytes number).symm
  have hstep : { m with source := source }.step = (m.step.1, _) := step_withSource hagree
  rw [hstep]
  refine ⟨rfl, source.after m.draws.toNat, rfl, fun number ↦ ?_⟩
  rw [source_step, ByteSource.byteAt_after, ByteSource.byteAt_after, hbytes]

theorem SameBytes.tick (hsame : m.SameBytes n) :
    n.tick.1 = m.tick.1 ∧ m.tick.2.SameBytes n.tick.2 := by
  obtain ⟨source, rfl, hbytes⟩ := hsame
  exact ⟨rfl, source, rfl, hbytes⟩

theorem SameBytes.report (hsame : m.SameBytes n) (event : Diagnostic) :
    (m.report event).SameBytes (n.report event) := by
  obtain ⟨source, rfl, hbytes⟩ := hsame
  exact ⟨source, rfl, hbytes⟩

theorem isBisimulation_sameBytes : IsBisimulation SameBytes where
  step hsame := ⟨congrArg Outcome.kind hsame.step.1.symm, hsame.step.2⟩
  timers := by
    rintro m n ⟨source, rfl, -⟩
    rfl
  withTimers := by
    rintro m n timers ⟨source, rfl, hbytes⟩
    exact ⟨source, rfl, hbytes⟩
  keypad := by
    rintro m n ⟨source, rfl, -⟩
    rfl
  withKeypad := by
    rintro m n keypad ⟨source, rfl, hbytes⟩
    exact ⟨source, rfl, hbytes⟩

theorem sameBytes_powerOn (program : Program) (screen : Framebuffer) (keypad : Keypad)
    {source other : ByteSource} (hbytes : ∀ number, source.byteAt number = other.byteAt number) :
    (powerOn program screen keypad source).SameBytes (powerOn program screen keypad other) :=
  ⟨other, rfl, hbytes⟩

/-- They stay so whatever a host does to both. -/
theorem SameBytes.operate (hsame : m.SameBytes n) (operation : Operation) :
    (m.operate operation).SameBytes (n.operate operation) := by
  by_cases hpassive : operation.isPassive = true
  · exact (isBisimulation_sameBytes.operate hpassive hsame).2
  · obtain ⟨source, rfl, hbytes⟩ := hsame
    cases operation with
    | resetKeypad => exact absurd rfl hpassive
    | moveTo address => exact ⟨source, rfl, hbytes⟩
    | ask action =>
      cases action with
      | step | run | tick | press | release | releaseAll => exact absurd rfl hpassive
      | write | setRegister => exact ⟨source, rfl, hbytes⟩
      | reset => exact sameBytes_powerOn m.program m.screen m.keypad hbytes
      | load bytes =>
        simp only [Machine.operate, perform, Machine.load]
        cases Program.ofBytes bytes with
        | ok program => exact sameBytes_powerOn program m.screen m.keypad hbytes
        | error cause => exact ⟨source, rfl, hbytes⟩

end Machine

namespace Monitored

/-- Two machines with the same listeners are the same but for their sources, which give the same
bytes. -/
def SameBytes (m n : Monitored) : Prop :=
  ∃ machine : Machine, n = m.withMachine machine ∧ m.machine.SameBytes machine

/-! ### Requests -/

namespace SameBytes

variable {m n : Monitored}

theorem step (hsame : m.SameBytes n) :
    n.step.1 = m.step.1 ∧ n.step.2.1 = m.step.2.1 ∧ m.step.2.2.SameBytes n.step.2.2 := by
  obtain ⟨machine, rfl, hmachine⟩ := hsame
  obtain ⟨houtcome, hafter⟩ := hmachine.step
  have hreported (event : Diagnostic) := hmachine.report event
  have hdeliver (other : Machine) (event : Diagnostic) :=
    m.deliver_withMachine other .diagnostic (.diagnostic event)
  simp only [withMachine] at hdeliver
  rw [Monitored.step, Monitored.step]
  simp only [withMachine]
  generalize m.machine.step = first, machine.step = second at houtcome hafter
  obtain ⟨outcome, after⟩ := first
  obtain ⟨other, later⟩ := second
  obtain rfl : other = outcome := houtcome
  cases other with
  | executed word diagnostic =>
    cases diagnostic with
    | none => exact ⟨rfl, rfl, later, rfl, hafter⟩
    | some event =>
      simp only
      rw [hdeliver (machine.report event), hdeliver (m.machine.report event)]
      generalize m.deliver .diagnostic (.diagnostic event) = delivery
      obtain ⟨isComplete, notices, final⟩ := delivery
      cases isComplete with
      | true => exact ⟨rfl, rfl, later, rfl, hafter⟩
      | false => exact ⟨rfl, rfl, machine.report event, rfl, hreported event⟩
  | faulted | refused => exact ⟨rfl, rfl, later, rfl, hafter⟩

theorem tick (hsame : m.SameBytes n) :
    n.tick.1 = m.tick.1 ∧ n.tick.2.1 = m.tick.2.1 ∧ m.tick.2.2.SameBytes n.tick.2.2 := by
  obtain ⟨machine, rfl, hmachine⟩ := hsame
  obtain ⟨htone, hafter⟩ := hmachine.tick
  have hdeliver (other : Machine) := m.deliver_withMachine other .tone .tone
  simp only [withMachine] at hdeliver
  rw [Monitored.tick, Monitored.tick]
  simp only [withMachine]
  generalize m.machine.tick = first, machine.tick = second at htone hafter
  obtain ⟨tone, after⟩ := first
  obtain ⟨other, later⟩ := second
  obtain rfl : other = tone := htone
  cases other with
  | false => exact ⟨rfl, rfl, later, rfl, hafter⟩
  | true =>
    simp only
    rw [hdeliver later, hdeliver after]
    generalize m.deliver .tone .tone = delivery
    obtain ⟨isComplete, notices, final⟩ := delivery
    cases isComplete with
    | true | false => exact ⟨rfl, rfl, later, rfl, hafter⟩

theorem run (count : Nat) (hsame : m.SameBytes n) :
    (n.run count).1 = (m.run count).1 ∧ (n.run count).2.1 = (m.run count).2.1 ∧
      (m.run count).2.2.SameBytes (n.run count).2.2 := by
  induction count generalizing m n with
  | zero => exact ⟨rfl, rfl, hsame⟩
  | succ count ih =>
    obtain ⟨hresult, hnotices, hafter⟩ := hsame.step
    rw [Monitored.run, Monitored.run]
    generalize m.step = first, n.step = second at hresult hnotices hafter
    obtain ⟨result, notices, after⟩ := first
    obtain ⟨other, otherNotices, later⟩ := second
    obtain rfl : other = result := hresult
    obtain rfl : otherNotices = notices := hnotices
    cases other with
    | error cause => exact ⟨rfl, rfl, hafter⟩
    | ok outcome =>
      cases outcome with
      | executed word diagnostic =>
        obtain ⟨hresults, hlater, hend⟩ := ih hafter
        exact ⟨congrArg₂ List.cons rfl hresults, congrArg₂ List.append rfl hlater, hend⟩
      | faulted | refused => exact ⟨rfl, rfl, hafter⟩

/-- Two such machines answer a request alike and stay the same but for their sources. -/
theorem respond (hsame : m.SameBytes n) (request : Request) :
    (n.respond request).1 = (m.respond request).1 ∧
      (m.respond request).2.SameBytes (n.respond request).2 := by
  have hoperate (operation : Operation) :
      (m.withMachine (m.machine.operate operation)).SameBytes
        (n.withMachine (n.machine.operate operation)) := by
    obtain ⟨machine, rfl, hmachine⟩ := hsame
    exact ⟨machine.operate operation, rfl, hmachine.operate operation⟩
  cases request with
  | listen kind listener =>
    obtain ⟨machine, rfl, hmachine⟩ := hsame
    cases kind with
    | diagnostic | tone => exact ⟨rfl, machine, rfl, hmachine⟩
  | unlisten kind listener =>
    obtain ⟨machine, rfl, hmachine⟩ := hsame
    rw [Monitored.respond, Monitored.respond, unlisten_withMachine]
    cases hunlisten : m.unlisten kind listener with
    | ok after =>
      refine ⟨rfl, machine, rfl, ?_⟩
      rwa [machine_of_unlisten hunlisten]
    | error cause => exact ⟨rfl, machine, rfl, hmachine⟩
  | operate operation =>
    cases operation with
    | resetKeypad | moveTo => exact ⟨rfl, hoperate _⟩
    | ask action =>
      cases action with
      | step =>
        obtain ⟨hresult, hnotices, hafter⟩ := hsame.step
        simp only [Monitored.respond, hresult, hnotices, true_and]
        exact hafter
      | run count =>
        obtain ⟨hresults, hnotices, hafter⟩ := hsame.run count.toNat
        simp only [Monitored.respond, hresults, hnotices, true_and]
        exact hafter
      | tick =>
        obtain ⟨htone, hnotices, hafter⟩ := hsame.tick
        simp only [Monitored.respond, htone, hnotices, true_and]
        exact hafter
      | press | release | releaseAll | reset | load | write | setRegister =>
        exact ⟨rfl, hoperate _⟩

theorem respondAll (requests : List Request) :
    ∀ m n : Monitored, m.SameBytes n →
      (n.respondAll requests).1 = (m.respondAll requests).1 ∧
        (m.respondAll requests).2.SameBytes (n.respondAll requests).2 := by
  induction requests with
  | nil => intro m n hsame; exact ⟨rfl, hsame⟩
  | cons request rest ih =>
    intro m n hsame
    obtain ⟨hresponse, hafter⟩ := hsame.respond request
    obtain ⟨hresponses, hend⟩ := ih _ _ hafter
    exact ⟨congrArg₂ List.cons hresponse hresponses, hend⟩

end SameBytes

end Monitored

/-! ### Restarts -/

/-- The program of a machine after an action that starts one. -/
def HostAction.programAfter (current : Program) : HostAction → Program
  | load bytes => if hfits : bytes.size ≤ maxProgramSize then ⟨bytes, hfits⟩ else current
  | _ => current

theorem Framebuffer.clear_congr {f g : Framebuffer} (hwidth : f.width = g.width)
    (hheight : f.height = g.height) : f.clear = g.clear := by
  obtain ⟨width, height, hwidthPos, hheightPos, rows⟩ := f
  obtain ⟨otherWidth, otherHeight, hotherWidthPos, hotherHeightPos, otherRows⟩ := g
  obtain rfl : width = otherWidth := hwidth
  obtain rfl : height = otherHeight := hheight
  rfl

namespace Machine

/-- Of a screen, a machine that is switched on keeps the size. -/
theorem powerOn_congr {f g : Framebuffer} (hscreen : f.clear = g.clear) (program : Program)
    (keypad : Keypad) (source : ByteSource) :
    powerOn program f keypad source = powerOn program g keypad source := by
  rw [powerOn, powerOn, hscreen]

/-- A dark screen as large as that of a machine. -/
def blankScreen (m : Machine) : Framebuffer :=
  .blank m.screen.width m.screen.height m.screen.width_pos m.screen.height_pos

/-- What starting a program makes of a machine. -/
def restarted (m : Machine) (program : Program) : Machine :=
  powerOn program m.screen m.keypad m.source

/-- A new machine that is given the keypad and the source of another one, and a screen as large, is
what starting its program makes of the other. -/
theorem start_eq_restarted (m : Machine) (program : Program) :
    start program.bytes m.blankScreen m.keypad m.source = .ok (m.restarted program) := by
  rw [start, Program.ofBytes, dif_pos program.fits]
  rfl

theorem operate_of_restarts (m : Machine) {action : HostAction}
    (hrestarts : action.restarts = true) :
    m.operate (.ask action) = m.restarted (action.programAfter m.program) := by
  cases action with
  | reset => rfl
  | load bytes =>
    have hfits : bytes.size ≤ maxProgramSize := of_decide_eq_true hrestarts
    simp only [operate, perform, Machine.load, Program.ofBytes, dif_pos hfits,
      HostAction.programAfter]
    rfl
  | step | run | tick | press | release | releaseAll | write | setRegister => cases hrestarts

end Machine

namespace Microcode

/-- In microcode, too, starting a program makes of any cells what it makes of new ones. -/
theorem exec_perform_of_restarts (m : Machine) (heard : List Diagnostic) {action : HostAction}
    (hrestarts : action.restarts = true) :
    exec (perform action) (m.cells heard) =
      (.ok (), { (exec (load (numbers (action.programAfter m.program).bytes.toList))
        (.unloaded m.blankScreen m.keypad m.source)).2 with heard := heard }) := by
  have hrestarted (program : Program) :
      Machine.powerOn program m.blankScreen m.keypad m.source = m.restarted program :=
    rfl
  have hheard (other : Machine) : { other.cells [] with heard := heard } = other.cells heard := rfl
  rw [exec_load_unloaded (action.programAfter m.program).fits, hrestarted, hheard]
  cases action with
  | reset => exact exec_reset m heard
  | load bytes =>
    have hfits : bytes.size ≤ maxProgramSize := of_decide_eq_true hrestarts
    simp only [HostAction.programAfter, dif_pos hfits]
    exact exec_load m heard hfits
  | step | run | tick | press | release | releaseAll | write | setRegister => cases hrestarts

end Microcode

namespace Monitored

/-- Two machines with their listeners agree in what a restart leaves as it was: the size of the
screen, the keypad, the bytes that the source is going to give, and the registrations. -/
structure SameSetting (m n : Monitored) : Prop where
  width : m.machine.screen.width = n.machine.screen.width
  height : m.machine.screen.height = n.machine.screen.height
  keypad : m.machine.keypad = n.machine.keypad
  bytes : ∀ number, m.machine.source.byteAt number = n.machine.source.byteAt number
  forDiagnostics : m.forDiagnostics = n.forDiagnostics
  forTones : m.forTones = n.forTones

variable {m n : Monitored}

theorem respond_of_restarts (m : Monitored) {action : HostAction}
    (hrestarts : action.restarts = true) :
    m.respond (.operate (.ask action)) =
      ({}, m.withMachine (m.machine.restarted (action.programAfter m.machine.program))) := by
  rw [← Machine.operate_of_restarts _ hrestarts]
  cases action with
  | reset => rfl
  | load bytes =>
    have haccepted : (Operation.ask (.load bytes)).isAccepted = true := hrestarts
    simp only [respond, haccepted]
  | step | run | tick | press | release | releaseAll | write | setRegister => cases hrestarts

/-- Machines that agree in what a restart leaves as it was agree in everything after it. -/
theorem SameSetting.restarted (hsetting : m.SameSetting n) (program : Program) :
    (m.withMachine (m.machine.restarted program)).SameBytes
      (n.withMachine (n.machine.restarted program)) := by
  refine ⟨n.machine.restarted program, ?_, ?_⟩
  · rw [withMachine, withMachine, withMachine, hsetting.forDiagnostics, hsetting.forTones]
  · have hscreen : m.machine.screen.clear = n.machine.screen.clear :=
      Framebuffer.clear_congr hsetting.width hsetting.height
    show (m.machine.restarted program).SameBytes (n.machine.restarted program)
    rw [Machine.restarted, Machine.restarted, Machine.powerOn_congr hscreen, hsetting.keypad]
    exact Machine.sameBytes_powerOn _ _ _ hsetting.bytes

/-- If even their sources are equal, they are equal after a restart. -/
theorem SameSetting.restarted_eq (hsetting : m.SameSetting n)
    (hsource : m.machine.source = n.machine.source) (program : Program) :
    n.withMachine (n.machine.restarted program) = m.withMachine (m.machine.restarted program) := by
  have hscreen : m.machine.screen.clear = n.machine.screen.clear :=
    Framebuffer.clear_congr hsetting.width hsetting.height
  rw [withMachine, withMachine, hsetting.forDiagnostics, hsetting.forTones, Machine.restarted,
    Machine.restarted, Machine.powerOn_congr hscreen, hsetting.keypad, hsource]

end Monitored

/-- A restart forgets the past. Let an action start a program on any machine: a reset its own, a
load another one that fits. The machine is then as a new one with that program and a screen of the
same size, except that it has kept its keypad, its source and its listeners; and so it is in
microcode, where each part is restored by itself. Two machines that agree in what is kept and start
the same program therefore answer all requests after the restart alike, whatever they did before it,
and become the same machine, up to how sources that give the same bytes do so. -/
theorem restart_forgets_history (m : Monitored) (action : HostAction)
    (hrestarts : action.restarts = true) :
    let program := action.programAfter m.machine.program
    let request : Request := .operate (.ask action)
    (∃ fresh : Machine,
      Machine.start program.bytes m.machine.blankScreen m.machine.keypad m.machine.source =
        .ok fresh ∧
      m.respond request = ({}, m.withMachine fresh)) ∧
    (∀ heard : List Diagnostic,
      Microcode.exec (Microcode.perform action) (m.machine.cells heard) =
        (.ok (), { (Microcode.exec (Microcode.load (Microcode.numbers program.bytes.toList))
          (.unloaded m.machine.blankScreen m.machine.keypad m.machine.source)).2 with
            heard := heard })) ∧
    ∀ n : Monitored, m.SameSetting n → action.programAfter n.machine.program = program →
      ∀ requests : List Request,
        (n.respondAll (request :: requests)).1 = (m.respondAll (request :: requests)).1 ∧
        (m.respondAll (request :: requests)).2.SameBytes (n.respondAll (request :: requests)).2 ∧
        (m.machine.source = n.machine.source →
          (n.respondAll (request :: requests)).2 = (m.respondAll (request :: requests)).2) := by
  intro program request
  have hrestart : m.respond request = ({}, m.withMachine (m.machine.restarted program)) :=
    m.respond_of_restarts hrestarts
  refine ⟨⟨_, m.machine.start_eq_restarted program, hrestart⟩,
    fun heard ↦ Microcode.exec_perform_of_restarts m.machine heard hrestarts, ?_⟩
  intro n hsetting hprogram requests
  have hother : n.respond request = ({}, n.withMachine (n.machine.restarted program)) := by
    rw [n.respond_of_restarts hrestarts, hprogram]
  obtain ⟨hresponses, hend⟩ :=
    Monitored.SameBytes.respondAll requests _ _ (hsetting.restarted program)
  rw [Monitored.respondAll_cons, Monitored.respondAll_cons, hrestart, hother]
  refine ⟨congrArg ({} :: ·) hresponses, hend, ?_⟩
  intro hsource
  rw [hsetting.restarted_eq hsource]

/-- A machine whose program was overwritten and which was moved to another place is reset, and so is
one that nothing has happened to. Their scripts of random bytes stand at different places. -/
theorem restart_forgets_history_of_overwritten :
    let program : Program := ⟨#[0xC0, 0xFF, 0x12, 0x00], by decide⟩
    let log : Listener := ⟨"log", false, .diagnostic⟩
    let history : List Request :=
      [.listen .diagnostic log, .operate (.ask (.write 0x200 0xFF)), .operate (.ask (.press 3)),
        .operate (.ask .tick), .operate .resetKeypad, .operate (.moveTo 0x345)]
    let used : Monitored :=
      ((Monitored.ofMachine (.powerOn program .screen .idle (.script #[7] 0))).respondAll history).2
    let fresh : Monitored := ⟨.powerOn program .screen .idle (.script #[7] 3), [log], []⟩
    let requests : List Request :=
      [.operate (.ask .reset), .operate (.ask (.run 9)), .unlisten .diagnostic log]
    used.machine.pc = 0x345 ∧
      (fresh.respondAll requests).1 = (used.respondAll requests).1 ∧
      (used.respondAll requests).2.SameBytes (fresh.respondAll requests).2 := by
  intro program log history used fresh requests
  have hbytes (number : Nat) :
      (ByteSource.script #[7] 0).byteAt number = (ByteSource.script #[7] 3).byteAt number := by
    have hone (position : Nat) : position % (#[7] : Array UInt8).size = 0 := Nat.mod_one position
    rw [ByteSource.byteAt, ByteSource.byteAt, ByteSource.after_script, ByteSource.after_script,
      ByteSource.draw, ByteSource.draw, hone, hone]
  have hsetting : used.SameSetting fresh := ⟨rfl, rfl, rfl, hbytes, rfl, rfl⟩
  obtain ⟨-, -, hsame⟩ := restart_forgets_history used .reset rfl
  obtain ⟨hresponses, hend, -⟩ := hsame fresh hsetting rfl
    [.operate (.ask (.run 9)), .unlisten .diagnostic log]
  exact ⟨rfl, hresponses, hend⟩

end Cosmac
