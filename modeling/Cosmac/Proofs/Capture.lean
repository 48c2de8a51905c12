import Cosmac.Machine.Snapshot
import Cosmac.Proofs.Machine.Likeness

/-!
# A record determines the future

Two machines with equal records are alike if their sources give the same bytes
(`Machine.alike_exact_iff`): the record shows the whole screen, every key, and the slots of the call
stack that are in use. So they do the same from then on, and their records stay equal
(`capture_determines_future`), whatever is left in the slots that are not in use, and whatever they
have counted, remembered and loaded.
-/

set_option autoImplicit false

namespace Cosmac

/-! ### Sources of bytes -/

namespace ByteSource

/-- The source after a draw is one draw ahead. -/
theorem after_draw (source : ByteSource) (draws : Nat) :
    source.draw.2.after draws = source.after (draws + 1) := by
  induction draws with
  | zero => rfl
  | succ draws ih =>
    rw [after, ih]
    rfl

theorem byteAt_draw (source : ByteSource) (number : Nat) :
    source.draw.2.byteAt number = source.byteAt (number + 1) := by
  rw [byteAt, after_draw, byteAt]

/-- A script is read on from its position. -/
theorem after_script (bytes : Array UInt8) (position draws : Nat) :
    (script bytes position).after draws = script bytes (position + draws) := by
  induction draws with
  | zero => rfl
  | succ draws ih =>
    rw [after, ih]
    rfl

end ByteSource

/-! ### What a record shows -/

/-- The rows of a grid show how large it is and which pixels are lit. -/
theorem Framebuffer.snapshot_injective : Function.Injective Framebuffer.snapshot := by
  rintro ⟨width, height, hwidth, hheight, rows⟩ ⟨width', height', hwidth', hheight', rows'⟩ hrows
  simp only [snapshot] at hrows
  obtain rfl : height = height' := by simpa using congrArg List.length hrows
  have hfirst {columns : Nat} (grid : Vector (Vector Bool columns) height) :
      (grid.toList.map Vector.toList)[0]?.map List.length = some columns := by
    rw [List.getElem?_map, List.getElem?_eq_getElem (by simpa using hheight)]
    simp
  obtain rfl : width = width' := by
    rw [← Option.some_inj, ← hfirst rows, hrows, hfirst rows']
  have hinjective : Function.Injective (Vector.toList (α := Bool) (n := width)) :=
    fun _ _ ↦ Vector.toList_inj.mp
  rw [Vector.toList_inj.mp (hinjective.list_map hrows)]

/-- The held keys and the one pressed last are all there is to a keypad. -/
theorem Keypad.eq_of_pressedKeys {p q : Keypad} (hkeys : p.pressedKeys = q.pressedKeys)
    (hlast : p.last = q.last) : p = q := by
  have hheld : p.held = q.held := by
    apply Vector.ext
    intro place hplace
    have hmem : p.isPressed ⟨place, hplace⟩ = true ↔ q.isPressed ⟨place, hplace⟩ = true := by
      rw [← mem_pressedKeys, ← mem_pressedKeys, hkeys]
    exact Bool.eq_iff_iff.mpr hmem
  cases p
  cases q
  simp only at hheld hlast
  rw [hheld, hlast]

namespace CallStack

variable {s t : CallStack}

theorem length_entries (s : CallStack) : s.entries.length = s.depth.val := by
  have := s.depth.isLt
  rw [entries, List.length_take, Vector.length_toList]
  omega

/-- The slots in use are the entries. -/
theorem getElem?_entries (place : Fin 16) (hused : place.val < s.depth.val) :
    s.entries[place.val]? = some (s.slots.get place) := by
  rw [entries, List.getElem?_take_of_lt hused, List.getElem?_eq_getElem (by simp)]
  rfl

end CallStack

/-! ### Equal records -/

/-- Addresses count as the same if they are equal, and sources if they give the same bytes. -/
def Likeness.exact : Likeness where
  address a b := a = b
  source s t := ∀ number, s.byteAt number = t.byteAt number
  cell hab := by rw [hab]
  word _ _ := rfl
  advance distance hab := by rw [hab]
  draw hbytes := ⟨hbytes 0, fun number ↦ by
    rw [ByteSource.byteAt_draw, ByteSource.byteAt_draw, hbytes]⟩

/-- Stacks are alike if the same addresses are saved in them. -/
theorem CallStack.alike_exact_iff {s t : CallStack} :
    s.Alike .exact t ↔ s.depth.val = t.depth.val ∧ s.entries = t.entries := by
  constructor
  · intro halike
    have hdepth : s.depth.val = t.depth.val := congrArg Fin.val halike.depth
    refine ⟨hdepth, List.ext_getElem? fun place ↦ ?_⟩
    by_cases hused : place < s.depth.val
    · have hplace : place < 16 := by
        have := s.depth.isLt
        omega
      have hslot : s.slots.get ⟨place, hplace⟩ = t.slots.get ⟨place, hplace⟩ :=
        UInt16.toNat_inj.mp (Int.ofNat_inj.mp (halike.slots ⟨place, hplace⟩ hused))
      have hs : s.entries[place]? = _ := getElem?_entries ⟨place, hplace⟩ hused
      have ht : t.entries[place]? = _ :=
        getElem?_entries ⟨place, hplace⟩ (Nat.lt_of_lt_of_eq hused hdepth)
      rw [hs, ht, hslot]
    · rw [List.getElem?_eq_none (by rw [length_entries]; omega),
        List.getElem?_eq_none (by rw [length_entries]; omega)]
  · rintro ⟨hdepth, hentries⟩
    refine ⟨Fin.ext hdepth, fun place hused ↦ ?_⟩
    have hslot : some (s.slots.get place) = some (t.slots.get place) := by
      rw [← getElem?_entries place hused, hentries,
        getElem?_entries place (Nat.lt_of_lt_of_eq hused hdepth)]
    show ((s.slots.get place).toNat : Int) = (t.slots.get place).toNat
    rw [Option.some_inj.mp hslot]

namespace Machine

/-- Machines are alike if their records are equal and their sources give the same bytes. -/
theorem alike_exact_iff {m n : Machine} :
    m.Alike .exact n ↔
      m.capture = n.capture ∧ ∀ number, m.source.byteAt number = n.source.byteAt number := by
  constructor
  · intro halike
    obtain ⟨hdepth, hentries⟩ := CallStack.alike_exact_iff.mp halike.stack
    refine ⟨?_, halike.source⟩
    rw [capture, capture, halike.registers, halike.memory, halike.timers, halike.keypad,
      halike.screen, halike.instructionCount, halike.waitingForKey, halike.halted, hdepth, hentries,
      show m.pc = n.pc from halike.pc, show m.index = n.index from halike.index]
  · rintro ⟨hcapture, hbytes⟩
    simp only [capture, Snapshot.mk.injEq] at hcapture
    obtain ⟨hregisters, hpc, hindex, hdepth, hentries, hcount, hwaiting, hhalted, hmemory, htimers,
      hkeys, hlast, hrows⟩ := hcapture
    exact {
      memory := hmemory
      registers := hregisters
      stack := CallStack.alike_exact_iff.mpr ⟨hdepth, hentries⟩
      pc := hpc
      index := hindex
      timers := htimers
      screen := Framebuffer.snapshot_injective hrows
      keypad := Keypad.eq_of_pressedKeys hkeys hlast
      source := hbytes
      instructionCount := hcount
      waitingForKey := hwaiting
      halted := hhalted }

end Machine

/-- A record determines the future. Let the records of two machines be equal, and let their sources
give the same bytes. Whatever steps, runs, ticks and keys follow, both machines execute the same
words, fail in the same way at the same steps and sound the same tones, and their records are equal
afterwards. -/
theorem capture_determines_future {m n : Machine} (hcapture : m.capture = n.capture)
    (hbytes : ∀ number, m.source.byteAt number = n.source.byteAt number)
    (operations : List Operation)
    (hpassive : ∀ operation ∈ operations, operation.isPassive = true) :
    m.reactions operations = n.reactions operations ∧
      (m.operateAll operations).capture = (n.operateAll operations).capture ∧
      ∀ number, (m.operateAll operations).source.byteAt number =
        (n.operateAll operations).source.byteAt number := by
  have halike : m.Alike .exact n := Machine.alike_exact_iff.mpr ⟨hcapture, hbytes⟩
  obtain ⟨hreactions, hafter⟩ :=
    (Machine.isBisimulation_alike .exact).operateAll operations m n halike hpassive
  exact ⟨hreactions, Machine.alike_exact_iff.mp hafter⟩

/-- A random byte, a tick, a key and a wait for it. The machines have different programs and counts,
remember different words, have different addresses left in free slots, and draw from scripts at
different positions. -/
theorem capture_determines_future_of_random :
    let program : Program := ⟨#[0xC0, 0xFF, 0xF1, 0x0A], by decide⟩
    let m := Machine.powerOn program .screen .idle (.script #[7] 0)
    let n : Machine := { m with
      stack := ⟨Vector.replicate 16 0x300, 0⟩
      source := .script #[7] 3
      cycleCount := 9
      diagnostics := [⟨0x200, 0x5121⟩]
      program := .empty }
    let operations : List Operation :=
      [.ask .step, .ask .tick, .ask (.press 5), .ask .step, .resetKeypad]
    m.capture = n.capture ∧ m.reactions operations = n.reactions operations ∧
      (m.operateAll operations).capture = (n.operateAll operations).capture := by
  intro program m n operations
  have hcapture : m.capture = n.capture := rfl
  have hbytes (number : Nat) : m.source.byteAt number = n.source.byteAt number := by
    show (ByteSource.script #[7] 0).byteAt number = (ByteSource.script #[7] 3).byteAt number
    have hone (position : Nat) : position % (#[7] : Array UInt8).size = 0 := Nat.mod_one position
    rw [ByteSource.byteAt, ByteSource.byteAt, ByteSource.after_script, ByteSource.after_script,
      ByteSource.draw, ByteSource.draw, hone, hone]
  obtain ⟨hreactions, hafter, -⟩ := capture_determines_future hcapture hbytes operations (by decide)
  exact ⟨hcapture, hreactions, hafter⟩

end Cosmac
