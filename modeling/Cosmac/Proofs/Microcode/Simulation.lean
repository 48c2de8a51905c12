import Cosmac.Proofs.Machine.Execution
import Cosmac.Proofs.Microcode.Families
import Cosmac.Proofs.Microcode.Host

/-!
# Microcode simulates the machine

On the cells of a machine, every program of microcode that a host can start ends in the cells of
the machine after the corresponding operation: `exec_step` for steps, `exec_run` for runs,
`exec_perform` for every action, and `exec_load_unloaded` for the first program that is loaded. The
result is the one of the machine, faults and refusals included.
-/

set_option autoImplicit false

namespace Cosmac

/-! ### Results -/

/-- What a step of microcode answers for an outcome. -/
def Outcome.result : Outcome → Except Microcode.Trap Int
  | executed word _ => .ok word.toNat
  | faulted cause => .error (.fault cause)
  | refused cause => .error (.halted cause)

/-- The number of steps whose outcomes are given, or the trap of the first that fails. -/
def Outcome.completed : List Outcome → Except Microcode.Trap Nat
  | [] => .ok 0
  | outcome :: rest => outcome.result.bind fun _ ↦ (completed rest).map (· + 1)

/-- What an action of microcode answers on the cells of a machine. -/
def Machine.answer (m : Machine) : HostAction → Except Microcode.Trap Unit
  | .step => m.step.1.result.map fun _ ↦ ()
  | .run count => (Outcome.completed (m.run count.toNat).1).map fun _ ↦ ()
  | .press number | .release number =>
    if 0 ≤ number ∧ number < 16 then .ok () else .error (.key number)
  | .load bytes =>
    if bytes.size ≤ maxProgramSize then .ok () else .error (.program bytes.size)
  | _ => .ok ()

namespace Microcode

variable (m : Machine) (heard : List Diagnostic)

/-! ### Steps -/

theorem settle_eq_ok {pc next : Int} {result : Except Trap (Option Int) × Cells} {c : Cells}
    (hsettle : settle pc result = (.ok next, c)) :
    ∃ answer : Option Int, result = (.ok answer, c) ∧ answer.getD (pc + 2) = next := by
  obtain ⟨trap | answer, cells⟩ := result
  · cases hsettle
  · cases hsettle
    exact ⟨answer, rfl, rfl⟩

theorem settle_eq_error {pc : Int} {trap : Trap} {result : Except Trap (Option Int) × Cells}
    {c : Cells} (hsettle : settle pc result = (.error trap, c)) : result = (.error trap, c) := by
  obtain ⟨trap | answer, cells⟩ := result
  · cases hsettle
    rfl
  · cases hsettle

/-- What is left of a step once its handler has answered. -/
theorem exec_finish (after : Machine) (pc : Int) (hpc : after.pc = pc) (answer : Option Int)
    (word : Int) :
    exec (do
      modify fun c ↦ { c with
        pc := answer.getD (c.pc + 2) % 65536
        cycles := c.cycles + 1
        instructions := if c.waiting then c.instructions else c.instructions + 1 }
      return word) (after.cells heard) =
      (.ok word, (after.complete (answer.getD (pc + 2))).cells heard) := by
  rw [exec_bind_of_ok (exec_modify _ _), exec_pure, ← hpc]
  rfl

/-- A step of microcode does what a step of the machine does. -/
theorem exec_step :
    exec step (m.cells heard) =
      (m.step.1.result, m.step.2.cells (heard ++ m.step.1.diagnostics)) := by
  obtain ⟨handler, hhandler, hsettle⟩ := settle_handler m heard m.fetch
  rw [step, exec_get_bind, Machine.cells_fault]
  generalize hresult : m.step = result
  cases Machine.step_cases hresult with
  | refused hhalted =>
    rw [hhalted]
    simp only [exec_throw, Outcome.diagnostics, List.append_nil]
    rfl
  | reported hrunning hdecode =>
    simp only [Machine.handled, hdecode] at hsettle
    obtain ⟨answer, hanswer, hnext⟩ := settle_eq_ok hsettle
    rw [hrunning, exec_bind_of_ok (exec_fetch m heard), exec_bind_of_ok (hhandler _), exec_bind,
      exec_tryCatch, hanswer]
    simp only
    rw [exec_finish _ (m.report ⟨m.pc, m.fetch⟩) m.pc rfl, hnext]
    rfl
  | completed hrunning hdecode hexecute =>
    simp only [Machine.handled, hdecode, hexecute] at hsettle
    obtain ⟨answer, hanswer, hnext⟩ := settle_eq_ok hsettle
    rw [hrunning, exec_bind_of_ok (exec_fetch m heard), exec_bind_of_ok (hhandler _), exec_bind,
      exec_tryCatch, hanswer]
    simp only [Outcome.diagnostics, List.append_nil]
    rw [exec_finish _ _ m.pc (Machine.execute_pc hexecute), hnext]
    rfl
  | faulted hrunning hdecode hexecute =>
    simp only [Machine.handled, hdecode, hexecute] at hsettle
    rw [hrunning, exec_bind_of_ok (exec_fetch m heard), exec_bind_of_ok (hhandler _), exec_bind,
      exec_tryCatch, settle_eq_error hsettle]
    simp only [halt, exec_bind_of_ok (exec_modify _ _), exec_throw, Outcome.diagnostics,
      List.append_nil]
    rfl

/-- A step of microcode at a word that is an instruction and does not fault. -/
theorem exec_step_of_known {w : Word} {after : Machine}
    (hstep : m.step = (.executed w none, after)) :
    exec step (m.cells heard) = (.ok w.toNat, after.cells heard) := by
  rw [exec_step, hstep]
  simp only [Outcome.result, Outcome.diagnostics, List.append_nil]

/-- A run of microcode does what a run of the machine does. -/
theorem exec_run (count : Nat) :
    exec (run count) (m.cells heard) =
      (Outcome.completed (m.run count).1,
        (m.run count).2.cells (heard ++ (m.run count).1.flatMap Outcome.diagnostics)) := by
  induction count generalizing m heard with
  | zero =>
    simp only [run, exec_pure, Machine.run, List.flatMap_nil, List.append_nil]
    rfl
  | succ count ih =>
    have hstep := exec_step m heard
    rw [run, exec_bind, hstep, Machine.run]
    obtain ⟨outcome, after⟩ := m.step
    cases outcome with
    | executed word diagnostic =>
      simp only [Outcome.result]
      rw [exec_bind, ih]
      simp only [List.flatMap_cons, List.append_assoc, Outcome.completed, Outcome.result]
      cases Outcome.completed (after.run count).1 <;> rfl
    | faulted cause | refused cause =>
      simp only [List.flatMap_cons, List.flatMap_nil, Outcome.completed, Outcome.result,
        List.append_nil]
      rfl

/-! ### Timers and keys -/

theorem eq_zero_iff_toNat (value : UInt8) : value = 0 ↔ value.toNat = 0 := by
  rw [← UInt8.toNat_inj]
  rfl

/-- A byte counts down where its number is positive. -/
theorem cast_countDown (value : UInt8) :
    (if 0 < (value.toNat : Int) then (value.toNat : Int) - 1 else (value.toNat : Int)) =
      ((Timers.countDown value).toNat : Int) := by
  by_cases hvalue : value = 0
  · rw [Timers.countDown, if_pos hvalue, hvalue]
    rfl
  · have hpositive : 0 < value.toNat :=
      Nat.pos_of_ne_zero ((eq_zero_iff_toNat value).not.mp hvalue)
    have hone : 1 ≤ value := UInt8.le_iff_toNat_le.mpr hpositive
    have hpred : (value - 1).toNat = value.toNat - 1 := UInt8.toNat_sub_of_le _ _ hone
    rw [Timers.countDown, if_neg hvalue, if_pos (by omega), hpred]
    omega

theorem exec_tick :
    exec tick (m.cells heard) = (.ok m.tick.1, m.tick.2.cells heard) := by
  let ticked : Machine := { m with timers := ⟨Timers.countDown m.timers.delay, m.timers.sound⟩ }
  have hdelay : { m.cells heard with
      delay := if 0 < (m.cells heard).delay then (m.cells heard).delay - 1
        else (m.cells heard).delay } = ticked.cells heard := by
    rw [Machine.cells_delay, cast_countDown]
    rfl
  have hsound : (ticked.cells heard).sound = (m.timers.sound.toNat : Int) := rfl
  rw [tick, exec_bind_of_ok (exec_modify _ _), hdelay, exec_get_bind, hsound, exec_ite]
  by_cases hsilent : m.timers.sound = 0
  · have htick : m.tick = (false, ticked) := by
      simp [Machine.tick, Timers.tick, Timers.countDown, hsilent, ticked]
    rw [if_neg (by simp [hsilent]), exec_pure, htick]
  · have hpositive : 0 < (m.timers.sound.toNat : Int) := by
      have := (eq_zero_iff_toNat m.timers.sound).not.mp hsilent
      omega
    have hcount := cast_countDown m.timers.sound
    rw [if_pos hpositive] at hcount
    have htone : m.tick.1 = true := by
      simp [Machine.tick, Timers.tick, hsilent]
    rw [if_pos hpositive, exec_bind_of_ok (exec_modify _ _), exec_pure, hsound, hcount, htone]
    rfl

theorem exec_markKey (key : Key) (isHeld : Bool) :
    exec (markKey key.val isHeld) (m.cells heard) =
      (.ok (key.val : Int), { m with
        keypad := { m.keypad with
          held := m.keypad.held.set key isHeld key.isLt } }.cells heard) := by
  have hreplace : replaceAt (m.cells heard).held key.val isHeld =
      .ok (m.keypad.held.set key isHeld key.isLt).toList := by
    have hmap := replaceAt_map m.keypad.held id key isHeld
    rwa [List.map_id, List.map_id] at hmap
  rw [markKey, exec_bind_of_ok (exec_checkKey key _), exec_get_bind, hreplace,
    exec_bind_of_ok (exec_ofExcept_ok _ _), exec_bind_of_ok (exec_modify _ _), exec_pure]
  rfl

/-- What is no key is refused. -/
theorem exec_markKey_of_not_key {number : Int} (hkey : ¬ (0 ≤ number ∧ number < 16))
    (isHeld : Bool) (c : Cells) : exec (markKey number isHeld) c = (.error (.key number), c) := by
  rw [markKey, exec_bind, checkKey, exec_ite, if_neg hkey, exec_throw]

theorem exists_key_of_range {number : Int} (hkey : 0 ≤ number ∧ number < 16) :
    ∃ key : Key, number = key.val :=
  ⟨⟨number.toNat, by omega⟩, (Int.toNat_of_nonneg hkey.1).symm⟩

theorem onKey_key (operate : Keypad → Key → Keypad) (key : Key) :
    m.onKey operate key.val = { m with keypad := operate m.keypad key } := by
  have hkey : 0 ≤ (key.val : Int) ∧ (key.val : Int) < 16 := by
    have := key.isLt
    omega
  rw [Machine.onKey, Key.ofInt, dif_pos hkey]
  rfl

theorem onKey_of_not_key (operate : Keypad → Key → Keypad) {number : Int}
    (hkey : ¬ (0 ≤ number ∧ number < 16)) : m.onKey operate number = m := by
  rw [Machine.onKey, Key.ofInt, dif_neg hkey]
  split_ifs <;> rfl

theorem exec_press (number : Int) :
    exec (press number) (m.cells heard) =
      (if 0 ≤ number ∧ number < 16 then .ok () else .error (.key number),
        (m.onKey .press number).cells heard) := by
  by_cases hkey : 0 ≤ number ∧ number < 16
  · rw [if_pos hkey]
    obtain ⟨key, rfl⟩ := exists_key_of_range hkey
    rw [onKey_key, press, exec_bind_of_ok (exec_markKey m heard key true), exec_modify]
    rfl
  · rw [onKey_of_not_key m _ hkey, if_neg hkey, press, exec_bind, exec_markKey_of_not_key hkey]

theorem exec_release (number : Int) :
    exec (release number) (m.cells heard) =
      (if 0 ≤ number ∧ number < 16 then .ok () else .error (.key number),
        (m.onKey .release number).cells heard) := by
  by_cases hkey : 0 ≤ number ∧ number < 16
  · rw [if_pos hkey]
    obtain ⟨key, rfl⟩ := exists_key_of_range hkey
    rw [onKey_key, release, exec_bind_of_ok (exec_markKey m heard key false), exec_pure]
    rfl
  · rw [onKey_of_not_key m _ hkey, if_neg hkey, release, exec_bind, exec_markKey_of_not_key hkey]

theorem exec_releaseAll :
    exec releaseAll (m.cells heard) =
      (.ok (), { m with keypad := m.keypad.releaseAll }.cells heard) :=
  rfl

theorem exec_discard {α : Type} (p : Micro α) (c : Cells) :
    exec (discard p) c = ((exec p c).1.map fun _ ↦ (), (exec p c).2) := by
  have hdiscard : discard p = p >>= fun _ ↦ pure () := by
    rw [← map_eq_pure_bind]
    rfl
  rw [hdiscard, exec_bind]
  rcases exec p c with ⟨_ | _, _⟩ <;> rfl

/-! ### Starting -/

/-- An entry of cells over which others are put. -/
theorem getElem?_overlay {α : Type} (xs ys : List α) (start place : Nat)
    (hfits : start + ys.length ≤ xs.length) :
    (overlay xs start ys)[place]? =
      if start ≤ place ∧ place < start + ys.length then ys[place - start]? else xs[place]? := by
  have htake : (xs.take start).length = start := by
    rw [List.length_take]
    omega
  have hhead : (xs.take start ++ ys).length = start + ys.length := by
    rw [List.length_append, htake]
  rw [overlay]
  by_cases hbefore : place < start
  · rw [List.getElem?_append_left (by omega), List.getElem?_append_left (by omega),
      List.getElem?_take_of_lt hbefore, if_neg (by omega)]
  · by_cases hwithin : place < start + ys.length
    · rw [List.getElem?_append_left (by omega), List.getElem?_append_right (by omega), htake,
        if_pos (by omega)]
    · have hplace : start + ys.length + (place - (start + ys.length)) = place := by omega
      rw [List.getElem?_append_right (by omega), hhead, List.getElem?_drop, hplace,
        if_neg (by omega)]

theorem length_overlay {α : Type} (xs ys : List α) (start : Nat)
    (hfits : start + ys.length ≤ xs.length) : (overlay xs start ys).length = xs.length := by
  rw [overlay, List.length_append, List.length_append, List.length_take, List.length_drop]
  omega

theorem getElem?_toList_of_lt {bytes : Array UInt8} {place : Nat} (hplace : place < bytes.size) :
    bytes.toList[place]? = some (bytes.getD place 0) := by
  simp [hplace]

theorem getD_of_size_le {bytes : Array UInt8} {place : Nat} (hplace : bytes.size ≤ place) :
    bytes.getD place 0 = 0 := by
  simp [hplace]

/-- The font and the program over zeros are the initial memory. -/
theorem overlay_initialMemory (program : Program) :
    overlay (overlay (List.replicate 4096 0) 0 (numbers Font.bytes.toList)) 0x200
        (numbers program.bytes.toList) =
      numbers (Machine.initialMemory program).toList := by
  have hfont : (numbers Font.bytes.toList).length = 80 := rfl
  have hprogram : (numbers program.bytes.toList).length = program.bytes.size := length_numbers _
  have hfits : program.bytes.size ≤ 3584 := program.fits
  have hzeros : (List.replicate 4096 (0 : Int)).length = 4096 := List.length_replicate
  have hbelow : (overlay (List.replicate 4096 0) 0 (numbers Font.bytes.toList)).length = 4096 := by
    rw [length_overlay _ _ _ (by omega), hzeros]
  apply List.ext_getElem?
  intro place
  rw [getElem?_overlay _ _ _ _ (by omega), getElem?_overlay _ _ _ _ (by omega), hfont, hprogram,
    getElem?_numbers, getElem?_numbers, getElem?_numbers, List.getElem?_replicate]
  by_cases hplace : place < 4096
  · have hentry : (Machine.initialMemory program).toList[place]? =
        some (if place < 0x200 then Font.bytes.getD place 0
          else program.bytes.getD (place - 0x200) 0) := by
      rw [List.getElem?_eq_getElem (by simpa using hplace), Vector.getElem_toList,
        Machine.initialMemory, Vector.getElem_ofFn]
      rfl
    have hglyphs : Font.bytes.size = 80 := rfl
    rw [hentry]
    by_cases hprogram : 0x200 ≤ place ∧ place < 0x200 + program.bytes.size
    · rw [if_pos hprogram, getElem?_toList_of_lt (by omega), if_neg (by omega)]
    · by_cases hglyph : place < 80
      · rw [if_neg hprogram, if_pos (by omega), Nat.sub_zero, getElem?_toList_of_lt (by omega),
          if_pos (by omega)]
      · rw [if_neg hprogram, if_neg (by omega), if_pos hplace]
        by_cases hlow : place < 0x200
        · rw [if_pos hlow, getD_of_size_le (by omega)]
          rfl
        · rw [if_neg hlow, getD_of_size_le (by omega)]
          rfl
  · rw [if_neg (by omega), if_neg (by omega), if_neg hplace,
      List.getElem?_eq_none (by simpa using hplace)]
    rfl

theorem cells_powerOn (program : Program) (screen : Framebuffer) (keypad : Keypad)
    (source : ByteSource) :
    (Machine.powerOn program screen keypad source).cells heard =
      { memory := numbers (Machine.initialMemory program).toList
        registers := List.replicate 16 0
        slots := List.replicate 16 0
        depth := 0
        pc := 0x200
        index := 0
        delay := 0
        sound := 0
        width := screen.width
        height := screen.height
        pixels := screen.clear.snapshot
        held := keypad.held.toList
        lastKey := keypad.last.map fun key ↦ (key.val : Int)
        source := source
        program := numbers program.bytes.toList
        waiting := false
        cycles := 0
        instructions := 0
        fault := none
        diagnostics := []
        heard := heard } :=
  rfl

theorem exec_reset : exec reset (m.cells heard) = (.ok (), m.reset.cells heard) := by
  have hprogram : (m.cells heard).program = numbers m.program.bytes.toList := rfl
  rw [reset, exec_modify, hprogram, overlay_initialMemory, Machine.cells_pixels,
    Framebuffer.snapshot_map_false, Machine.reset, cells_powerOn]
  rfl

/-- Loading a program that fits starts it. -/
theorem exec_load {bytes : Array UInt8} (hfits : bytes.size ≤ maxProgramSize) :
    exec (load (numbers bytes.toList)) (m.cells heard) =
      (.ok (), (Machine.powerOn ⟨bytes, hfits⟩ m.screen m.keypad m.source).cells heard) := by
  let loaded : Machine := { m with program := ⟨bytes, hfits⟩ }
  have hsize : ¬ 3584 < (numbers bytes.toList).length := by
    rw [length_numbers]
    exact Nat.not_lt.mpr hfits
  have hloaded : { m.cells heard with program := numbers bytes.toList } = loaded.cells heard := rfl
  rw [load, exec_ite, if_neg hsize, exec_bind_of_ok (exec_modify _ _), hloaded, exec_reset]
  rfl

/-- A program that does not fit is refused, and nothing changes. -/
theorem exec_load_of_not_fits {bytes : Array UInt8} (hlarge : ¬ bytes.size ≤ maxProgramSize)
    (c : Cells) :
    exec (load (numbers bytes.toList)) c = (.error (.program bytes.size), c) := by
  have hsize : 3584 < (numbers bytes.toList).length := by
    rw [length_numbers]
    exact Nat.lt_of_not_le hlarge
  rw [load, exec_ite, if_pos hsize, exec_throw, length_numbers]
  rfl

/-- The first program that is loaded switches the machine on. -/
theorem exec_load_unloaded {bytes : Array UInt8} (hfits : bytes.size ≤ maxProgramSize)
    (screen : Framebuffer) (keypad : Keypad) (source : ByteSource) :
    exec (load (numbers bytes.toList)) (.unloaded screen keypad source) =
      (.ok (), (Machine.powerOn ⟨bytes, hfits⟩ screen keypad source).cells []) := by
  let blank : Machine :=
    { Machine.powerOn .empty screen keypad source with
      memory := Vector.replicate 4096 0
      screen := screen }
  have hmemory : List.replicate 4096 0 = numbers (Vector.replicate 4096 0).toList := by
    rw [numbers, Vector.toList_replicate, List.map_replicate]
    rfl
  have hblank : Cells.unloaded screen keypad source = blank.cells [] := by
    rw [Cells.unloaded, hmemory]
    rfl
  rw [hblank]
  exact exec_load blank [] hfits

/-! ### Actions -/

theorem emod_eq_ofInt (value : Int) : value % (256 : Int) = ((UInt8.ofInt value).toNat : Int) := by
  have hbound : (value % 2 ^ 8).toNat < UInt8.size := by
    simp only [UInt8.size]
    omega
  rw [UInt8.ofInt, UInt8.toNat_ofNat_of_lt' hbound]
  omega

/-- Every action of microcode does what the action of the machine does. -/
theorem exec_perform (action : HostAction) :
    exec (perform action) (m.cells heard) =
      (m.answer action, (m.perform action).2.cells
        (heard ++ (m.perform action).1.flatMap Outcome.diagnostics)) := by
  cases action with
  | step =>
    rw [perform, exec_discard, exec_step]
    simp only [Machine.perform, Machine.answer, List.flatMap_cons, List.flatMap_nil,
      List.append_nil]
  | run count =>
    rw [perform, exec_discard, exec_run]
    rfl
  | tick =>
    rw [perform, exec_discard, exec_tick]
    simp only [Machine.perform, List.flatMap_nil, List.append_nil]
    rfl
  | press number =>
    rw [perform, exec_press]
    simp only [Machine.perform, List.flatMap_nil, List.append_nil]
    rfl
  | release number =>
    rw [perform, exec_release]
    simp only [Machine.perform, List.flatMap_nil, List.append_nil]
    rfl
  | releaseAll =>
    rw [perform, exec_releaseAll]
    simp only [Machine.perform, List.flatMap_nil, List.append_nil]
    rfl
  | reset =>
    rw [perform, exec_reset]
    simp only [Machine.perform, List.flatMap_nil, List.append_nil]
    rfl
  | load bytes =>
    rw [perform]
    by_cases hfits : bytes.size ≤ maxProgramSize
    · rw [exec_load m heard hfits]
      simp only [Machine.perform, Machine.answer, Machine.load, Program.ofBytes, dif_pos hfits,
        if_pos hfits, List.flatMap_nil, List.append_nil]
    · rw [exec_load_of_not_fits hfits]
      simp only [Machine.perform, Machine.answer, Machine.load, Program.ofBytes, dif_neg hfits,
        if_neg hfits, List.flatMap_nil, List.append_nil]
  | write address value =>
    rw [perform, exec_writeMemory m heard address (emod_eq_ofInt value)]
    simp only [Machine.perform, List.flatMap_nil, List.append_nil]
    rfl
  | setRegister number value =>
    have hregister : number % 16 = ((Machine.registerOf number).val : Int) := by
      simp only [Machine.registerOf]
      omega
    rw [perform, hregister,
      exec_writeRegister m heard (Machine.registerOf number) (emod_eq_ofInt value)]
    simp only [Machine.perform, List.flatMap_nil, List.append_nil]
    rfl

end Microcode

end Cosmac
