import Cosmac.Proofs.Microcode.Handlers
import Cosmac.Proofs.Microcode.View
import Mathlib.Data.List.FinRange

/-!
# Screen and keypad in microcode

The accesses to the screen and the keypad on the cells of a machine. Drawing bit by bit flips the
pixels that `Framebuffer.draw` flips (`exec_drawRows`), looking through the keys finds the held ones
(`exec_heldKeys`), and a wait for a key receives the key that the keypad delivers
(`exec_waitForKey`).
-/

set_option autoImplicit false

namespace Cosmac

/-! ### Pixels -/

/-- Flipping pixels in two portions flips them all, and a pixel was lit in one of the portions. -/
theorem Framebuffer.flipAll_append (f : Framebuffer) (x y : Int) (first second : List (Nat × Nat)) :
    f.flipAll x y (first ++ second) =
      (((f.flipAll x y first).1.flipAll x y second).1,
        (f.flipAll x y first).2 || ((f.flipAll x y first).1.flipAll x y second).2) := by
  induction first generalizing f with
  | nil => simp [flipAll]
  | cons point rest ih =>
    obtain ⟨column, row⟩ := point
    simp only [List.cons_append, flipAll, ih, Bool.or_assoc]

/-- Turning every pixel off clears the screen. -/
theorem Framebuffer.snapshot_map_false (f : Framebuffer) :
    f.snapshot.map (fun row ↦ row.map fun _ ↦ false) = f.clear.snapshot := by
  apply List.ext_getElem
  · simp [snapshot, clear, blank]
  · intro row hleft hright
    apply List.ext_getElem
    · simp [snapshot, clear, blank]
    · intro column hleft hright
      simp [snapshot, clear, blank]

/-! ### Held keys -/

namespace Keypad

theorem mem_pressedKeys {p : Keypad} {key : Key} :
    key ∈ p.pressedKeys ↔ p.isPressed key = true := by
  simp [pressedKeys]

theorem toList_held (p : Keypad) : p.held.toList = (List.finRange 16).map p.isPressed := by
  apply List.ext_getElem
  · simp
  · intro place hleft hright
    simp [isPressed, Vector.get]

/-- A key that has just been pressed is the one that is delivered. -/
theorem delivered?_press (p : Keypad) (key : Key) : (p.press key).delivered? = some key := by
  have hheld : (p.press key).isPressed key = true := Vector.getElem_set_self key.isLt
  show (if (p.press key).isPressed key then some key else (p.press key).pressedKeys.head?) = _
  rw [if_pos hheld]

/-- Without a held key, no key is delivered. -/
theorem delivered?_of_pressedKeys_nil {p : Keypad} (hnone : p.pressedKeys = []) :
    p.delivered? = none := by
  have hidle : ∀ key, p.isPressed key = false := by
    intro key
    have hkey : key ∉ p.pressedKeys := by simp [hnone]
    rw [mem_pressedKeys] at hkey
    exact Bool.eq_false_iff.mpr hkey
  cases hlast : p.last <;> simp [delivered?, hlast, hnone, hidle]

/-- With held keys, the one pressed last is delivered if it is among them, otherwise the lowest. -/
theorem delivered?_of_pressedKeys_cons {p : Keypad} {lowest : Key} {others : List Key}
    (hkeys : p.pressedKeys = lowest :: others) :
    p.delivered? = some (match p.last with
      | some last => if last ∈ lowest :: others then last else lowest
      | none => lowest) := by
  cases hlast : p.last with
  | none => simp [delivered?, hlast, hkeys]
  | some last =>
    by_cases hheld : last ∈ lowest :: others
    · have hpressed : p.isPressed last = true := by rwa [← mem_pressedKeys, hkeys]
      simp only [delivered?, hlast]
      rw [if_pos hpressed, if_pos hheld]
    · have hpressed : p.isPressed last = false := by
        rw [← hkeys, mem_pressedKeys] at hheld
        exact Bool.eq_false_iff.mpr hheld
      simp only [delivered?, hlast, hpressed, hkeys]
      rw [if_neg Bool.false_ne_true, if_neg hheld]
      rfl

end Keypad

namespace Microcode

variable (m : Machine) (heard : List Diagnostic)

/-! ### The screen -/

theorem emod_eq_row (f : Framebuffer) (y : Int) : y % f.height = ((f.row y).val : Int) := by
  have := Int.emod_nonneg y (b := f.height) (by have := f.height_pos; omega)
  simp only [Framebuffer.row]
  omega

theorem emod_eq_column (f : Framebuffer) (x : Int) : x % f.width = ((f.column x).val : Int) := by
  have := Int.emod_nonneg x (b := f.width) (by have := f.width_pos; omega)
  simp only [Framebuffer.column]
  omega

/-- The pixel under two coordinates exists whatever they are. -/
theorem exec_flipPixel (x y : Int) :
    exec (flipPixel (y % m.screen.height) (x % m.screen.width)) (m.cells heard) =
      (.ok (m.screen.pixel x y), { m with screen := m.screen.flip x y }.cells heard) := by
  let line := m.screen.rows.get (m.screen.row y)
  let flipped := line.set (m.screen.column x) (!m.screen.pixel x y) (m.screen.column x).isLt
  have hline : entryAt (m.cells heard).pixels (m.screen.row y).val = .ok line.toList :=
    entryAt_map m.screen.rows Vector.toList (m.screen.row y)
  have hlit : entryAt line.toList (m.screen.column x).val = .ok (m.screen.pixel x y) := by
    have hentry := entryAt_map line id (m.screen.column x)
    rwa [List.map_id] at hentry
  have hflipped : replaceAt line.toList (m.screen.column x).val (!m.screen.pixel x y) =
      .ok flipped.toList := by
    have hreplace := replaceAt_map line id (m.screen.column x) (!m.screen.pixel x y)
    rwa [List.map_id, List.map_id] at hreplace
  have hpixels : replaceAt (m.cells heard).pixels (m.screen.row y).val flipped.toList =
      .ok (m.screen.flip x y).snapshot :=
    replaceAt_map m.screen.rows Vector.toList (m.screen.row y) flipped
  rw [emod_eq_row, emod_eq_column, flipPixel, exec_get_bind, hline,
    exec_bind_of_ok (exec_ofExcept_ok _ _), hlit, exec_bind_of_ok (exec_ofExcept_ok _ _), hflipped,
    exec_bind_of_ok (exec_ofExcept_ok _ _), exec_get_bind, hpixels,
    exec_bind_of_ok (exec_ofExcept_ok _ _), exec_bind_of_ok (exec_modify _ _), exec_pure]
  rfl

/-- The bits of a row that are set select the pixels to flip. -/
theorem exec_drawBits (x y : Int) (row : Nat) (bits : UInt8) (places : List Nat) :
    exec (drawBits ((y + row) % m.screen.height) x bits.toNat places) (m.cells heard) =
      (let points := (places.filter fun place ↦ bits.toNat.testBit (7 - place)).map (·, row)
      let (screen, hit) := m.screen.flipAll x y points
      (.ok hit, { m with screen := screen }.cells heard)) := by
  induction places generalizing m with
  | nil => rfl
  | cons place rest ih =>
    have hbit : (bits.toNat : Int) / 2 ^ (7 - place) % 2 = 0 ↔
        bits.toNat.testBit (7 - place) = false := by
      rw [Nat.testBit_eq_decide_div_mod_eq, decide_eq_false_iff_not]
      norm_cast
      omega
    rw [drawBits]
    by_cases hclear : bits.toNat.testBit (7 - place) = false
    · rw [if_pos (hbit.mpr hclear), ih, List.filter_cons_of_neg (by simp [hclear])]
    · let flipped : Machine := { m with screen := m.screen.flip (x + place) (y + row) }
      have hflip : exec (flipPixel ((y + row) % m.screen.height) ((x + place) % m.screen.width))
          (m.cells heard) = (.ok (m.screen.pixel (x + place) (y + row)), flipped.cells heard) :=
        exec_flipPixel m heard (x + place) (y + row)
      have hheight : m.screen.height = flipped.screen.height := rfl
      rw [if_neg (hbit.not.mpr hclear), exec_get_bind, Machine.cells_width, exec_bind_of_ok hflip,
        hheight, exec_bind_of_ok (ih flipped), exec_pure,
        List.filter_cons_of_pos (by simpa using hclear)]
      rfl

/-- Drawing row by row flips the pixels of the sprite. -/
theorem exec_drawRows (x y : Int) (row : Nat) (sprite : Sprite) :
    exec (drawRows x (y + row) (numbers sprite)) (m.cells heard) =
      (let (screen, hit) := m.screen.flipAll x y (Sprite.pointsFrom row sprite)
      (.ok hit, { m with screen := screen }.cells heard)) := by
  induction sprite generalizing m row with
  | nil => rfl
  | cons bits rest ih =>
    have hbyte : (bits.toNat : Int) % 256 = bits.toNat := by
      have := bits.toNat_lt
      omega
    have hnext : y + row + 1 = y + (row + 1 : Nat) := by
      omega
    have hrow := exec_drawBits m heard x y row bits (List.range 8)
    rw [numbers_cons, drawRows, exec_get_bind, Machine.cells_height, hbyte, hnext,
      exec_bind_of_ok hrow, exec_bind_of_ok (ih _ (row + 1)), exec_pure, Sprite.pointsFrom,
      Framebuffer.flipAll_append]
    rfl

/-! ### The keypad -/

theorem exec_checkKey (key : Key) (c : Cells) :
    exec (checkKey key.val) c = (.ok (key.val : Int), c) := by
  have hkey : 0 ≤ (key.val : Int) ∧ (key.val : Int) < 16 := by
    have := key.isLt
    omega
  rw [checkKey, exec_ite, if_pos hkey, exec_pure]

@[simp]
theorem exec_isHeld (key : Key) :
    exec (isHeld key.val) (m.cells heard) = (.ok (m.keypad.isPressed key), m.cells heard) := by
  have hentry : entryAt (m.cells heard).held key.val = .ok (m.keypad.isPressed key) := by
    have hmap := entryAt_map m.keypad.held id key
    rwa [List.map_id] at hmap
  rw [isHeld, exec_bind_of_ok (exec_checkKey key _), exec_get_bind, hentry, exec_ofExcept_ok]

/-- Looking through consecutive keys finds those that are held. -/
theorem exec_heldKeys_map (p : Keypad) (c : Cells) (keys : List Key) (number : Nat)
    (hkeys : keys.map Fin.val = List.range' number keys.length) :
    exec (heldKeys number (keys.map p.isPressed)) c =
      (.ok ((keys.filter p.isPressed).map fun key ↦ (key.val : Int)), c) := by
  induction keys generalizing number with
  | nil => rfl
  | cons key rest ih =>
    obtain ⟨hkey, hrest⟩ : key.val = number ∧ rest.map Fin.val =
        List.range' (number + 1) rest.length := by
      simpa [List.range'_succ] using hkeys
    have hfound := ih (number + 1) hrest
    rw [Nat.cast_add, Nat.cast_one] at hfound
    rw [List.map_cons, heldKeys]
    cases hpressed : p.isPressed key with
    | false =>
      rw [if_neg Bool.false_ne_true, hfound, List.filter_cons_of_neg (by simp [hpressed])]
    | true =>
      rw [if_pos rfl, ← hkey, exec_bind_of_ok (exec_checkKey key c), hkey, exec_bind_of_ok hfound,
        exec_pure, List.filter_cons_of_pos hpressed, List.map_cons, hkey]

theorem exec_heldKeys (c : Cells) :
    exec (heldKeys 0 (m.cells heard).held) c =
      (.ok (m.keypad.pressedKeys.map fun key ↦ (key.val : Int)), c) := by
  have hheld : (m.cells heard).held = (List.finRange 16).map m.keypad.isPressed :=
    m.keypad.toList_held
  rw [hheld]
  exact exec_heldKeys_map m.keypad c (List.finRange 16) 0 (by decide)

theorem received_map (last : Option Key) (lowest : Key) (others : List Key) :
    received (last.map fun key ↦ (key.val : Int)) lowest.val
        (others.map fun key ↦ (key.val : Int)) =
      ((match last with
        | some last => if last ∈ lowest :: others then last else lowest
        | none => lowest).val : Int) := by
  cases last with
  | none => rfl
  | some last =>
    have hmem : (last.val : Int) ∈ (lowest.val : Int) :: others.map (fun key ↦ (key.val : Int)) ↔
        last ∈ lowest :: others := by
      show (last.val : Int) ∈ (lowest :: others).map (fun key ↦ (key.val : Int)) ↔ _
      apply List.mem_map_of_injective
      intro first second heq
      ext
      exact Int.ofNat_inj.mp heq
    simp only [received, Option.map_some, hmem]
    split <;> rfl

/-- Waiting for a key receives the key that the keypad delivers, if it delivers one. -/
theorem exec_waitForKey (x : Register) :
    exec (waitForKey x.val) (m.cells heard) =
      match m.keypad.delivered? with
      | some key =>
        (.ok none, ({ m with waitingForKey := false }.setRegister x (UInt8.ofNat key)).cells heard)
      | none => (.ok (some m.pc), { m with waitingForKey := true }.cells heard) := by
  rw [waitForKey, exec_get_bind, exec_bind_of_ok (exec_heldKeys m heard _)]
  cases hkeys : m.keypad.pressedKeys with
  | nil =>
    rw [Keypad.delivered?_of_pressedKeys_nil hkeys]
    rfl
  | cons lowest others =>
    rw [Keypad.delivered?_of_pressedKeys_cons hkeys, List.map_cons, exec_get_bind,
      Machine.cells_lastKey, received_map]
    have hbyte (key : Key) : (key.val : Int) = ((UInt8.ofNat key.val).toNat : Int) := by
      have hsize : key.val < UInt8.size := lt_trans key.isLt (by decide)
      rw [UInt8.toNat_ofNat_of_lt' hsize]
    rw [exec_bind_of_ok (exec_writeRegister m heard x (hbyte _)), exec_bind_of_ok (exec_modify _ _),
      exec_pure]
    rfl

end Microcode

end Cosmac
