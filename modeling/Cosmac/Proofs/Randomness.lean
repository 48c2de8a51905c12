import Cosmac.Proofs.Machine.Source

/-!
# Random bytes in order

The steps of any operations, over resets and loads, take the bytes of the source one after the
other: `ByteSource.Supplies` says that of machines that are about to take a step, each draws from
where the one before has left off, and `Machine.supplies_operateAll` that it is so for the stops of
operations. The byte of every random word is therefore decided by the number of random words before
it, and sources that begin alike are as good as each other until more is drawn
(`random_bytes_in_order`).
-/

set_option autoImplicit false

namespace Cosmac

namespace Machine

/-! ### Runs and operations -/

/-- The machines that are about to take a step, in operations one after the other. -/
def stopsOfAll (m : Machine) : List Operation → List Machine
  | [] => []
  | operation :: rest => m.stopsOf operation ++ (m.operate operation).stopsOfAll rest

theorem countP_draws_cons (stop : Machine) (later : List Machine) :
    (stop :: later).countP draws = stop.draws.toNat + later.countP draws := by
  rw [List.countP_cons, Nat.add_comm, Bool.toNat, Bool.cond_eq_ite]

end Machine

namespace ByteSource

/-- Each of some machines draws from where the one before has left off. Given are the source of the
first and the source that the last leaves. -/
inductive Supplies : ByteSource → List Machine → ByteSource → Prop
  /-- Nothing is drawn. -/
  | nil {source : ByteSource} : Supplies source [] source
  /-- A machine takes a step, and the others go on with its source. -/
  | cons {stop : Machine} {later : List Machine} {last : ByteSource}
      (hlater : Supplies stop.step.2.source later last) : Supplies stop.source (stop :: later) last

namespace Supplies

variable {source middle last : ByteSource} {stop : Machine} {earlier later : List Machine}

theorem append (hearlier : source.Supplies earlier middle) (hlater : middle.Supplies later last) :
    source.Supplies (earlier ++ later) last := by
  induction hearlier with
  | nil => exact hlater
  | cons _ ih => exact .cons (ih hlater)

/-- The machines before a given one leave the source that it draws from. -/
theorem of_append (hall : source.Supplies (earlier ++ stop :: later) last) :
    source.Supplies earlier stop.source := by
  induction earlier generalizing source with
  | nil =>
    cases hall
    exact .nil
  | cons first rest ih =>
    cases hall with
    | cons hrest => exact .cons (ih hrest)

/-- As many bytes are drawn as random words are executed. -/
theorem eq_after (hstops : source.Supplies later last) :
    last = source.after (later.countP Machine.draws) := by
  induction hstops with
  | nil => rfl
  | cons _ ih => rw [ih, Machine.source_step, after_after, Machine.countP_draws_cons]

end Supplies

end ByteSource

namespace Machine

/-- A machine that is switched on has drawn nothing. -/
theorem source_powerOn (program : Program) (screen : Framebuffer) (keypad : Keypad)
    (source : ByteSource) : (powerOn program screen keypad source).source = source :=
  rfl

theorem supplies_run (count : Nat) (m : Machine) :
    m.source.Supplies (m.stops count) (m.run count).2.source := by
  induction count generalizing m with
  | zero => exact .nil
  | succ count ih =>
    rw [stops, run]
    cases hstep : m.step with
    | mk outcome after =>
      have hafter : m.step.2 = after := congrArg Prod.snd hstep
      cases outcome with
      | executed =>
        have hlater := ih after
        rw [← hafter] at hlater ⊢
        exact .cons hlater
      | faulted | refused =>
        rw [← hafter]
        exact .cons .nil

theorem supplies_operate (m : Machine) (operation : Operation) :
    m.source.Supplies (m.stopsOf operation) (m.operate operation).source := by
  cases operation with
  | resetKeypad | moveTo => exact .nil
  | ask action =>
    cases action with
    | step => exact .cons .nil
    | run count => exact supplies_run count.toNat m
    | tick | releaseAll | write | setRegister => exact .nil
    | press number | release number =>
      rw [operate, perform, onKey_eq]
      exact .nil
    | reset =>
      rw [operate, perform, reset, source_powerOn]
      exact .nil
    | load bytes =>
      rw [operate, perform, load]
      cases Program.ofBytes bytes with
      | ok program =>
        show m.source.Supplies [] (powerOn program m.screen m.keypad m.source).source
        rw [source_powerOn]
        exact .nil
      | error cause => exact .nil

theorem supplies_operateAll (operations : List Operation) (m : Machine) :
    m.source.Supplies (m.stopsOfAll operations) (m.operateAll operations).source := by
  induction operations generalizing m with
  | nil => exact .nil
  | cons operation rest ih => exact (m.supplies_operate operation).append (ih _)

/-! ### Other sources -/

/-- A run with another source does the same but for the source, if the bytes that it draws are the
same. -/
theorem run_withSource (count : Nat) {m : Machine} {source : ByteSource}
    (hagree : ByteSource.AgreeFor ((m.stops count).countP draws) source m.source) :
    (m.withSource source).run count = ((m.run count).1,
      (m.run count).2.withSource (source.after ((m.stops count).countP draws))) := by
  induction count generalizing m source with
  | zero => rfl
  | succ count ih =>
    rw [stops] at hagree ⊢
    rw [run, run]
    have hsource := m.source_step
    have hsame (hbytes : ByteSource.AgreeFor m.draws.toNat source m.source) :=
      step_withSource hbytes
    cases hstep : m.step with
    | mk outcome after =>
      rw [hstep] at hagree hsource hsame
      cases outcome with
      | executed word diagnostic =>
        simp only at hagree ⊢
        rw [countP_draws_cons] at hagree ⊢
        have hlater := hagree.right
        rw [← hsource] at hlater
        rw [hsame hagree.left]
        simp only
        rw [ih hlater, ByteSource.after_after]
      | faulted fault | refused fault =>
        simp only at hagree ⊢
        rw [countP_draws_cons] at hagree ⊢
        rw [hsame hagree.left]
        rfl

theorem operate_withSource {m : Machine} {operation : Operation} {source : ByteSource}
    (hagree : ByteSource.AgreeFor ((m.stopsOf operation).countP draws) source m.source) :
    (m.withSource source).operate operation =
      (m.operate operation).withSource (source.after ((m.stopsOf operation).countP draws)) := by
  cases operation with
  | resetKeypad | moveTo => rfl
  | ask action =>
    cases action with
    | step =>
      rw [stopsOf, countP_draws_cons] at hagree ⊢
      exact congrArg Prod.snd (step_withSource hagree.left)
    | run count => exact congrArg Prod.snd (run_withSource count.toNat hagree)
    | tick | releaseAll | reset | write | setRegister => rfl
    | press number | release number =>
      simp only [operate, perform, onKey]
      cases Key.ofInt number <;> rfl
    | load bytes =>
      simp only [operate, perform, load]
      cases Program.ofBytes bytes <;> rfl

/-- Operations with another source do the same but for the source, if the bytes that are drawn are
the same. -/
theorem operateAll_withSource (operations : List Operation) {m : Machine} {source : ByteSource}
    (hagree : ByteSource.AgreeFor ((m.stopsOfAll operations).countP draws) source m.source) :
    (m.withSource source).operateAll operations =
      (m.operateAll operations).withSource
        (source.after ((m.stopsOfAll operations).countP draws)) := by
  induction operations generalizing m source with
  | nil => rfl
  | cons operation rest ih =>
    rw [stopsOfAll, List.countP_append] at hagree ⊢
    have hlater := hagree.right
    rw [← (m.supplies_operate operation).eq_after] at hlater
    show ((m.withSource source).operate operation).operateAll rest = _
    rw [operate_withSource hagree.left, ih hlater, ByteSource.after_after]
    rfl

/-! ### Random words and resets -/

/-- After a random word, a reset goes on with the source that the word has left. -/
theorem reset_step_of_draws {m : Machine} (hdraws : m.draws = true) :
    m.step.2.reset = powerOn m.program m.screen m.keypad m.source.draw.2 := by
  obtain ⟨hrunning, hword⟩ := draws_iff.mp hdraws
  rw [step_of_random hrunning hword]
  rfl

/-- A program of one random word. -/
def randomProgram : Program :=
  ⟨#[0xC3, 0xF0], by decide⟩

variable (screen : Framebuffer) (keypad : Keypad) (source : ByteSource)

theorem fetch_randomProgram : (powerOn randomProgram screen keypad source).fetch = 0xC3F0 :=
  (fetch_powerOn randomProgram screen keypad source).trans (by decide)

theorem draws_randomProgram : (powerOn randomProgram screen keypad source).draws = true :=
  draws_iff.mpr ⟨rfl, by rw [fetch_randomProgram]; decide⟩

end Machine

/-- Random bytes are neither skipped nor used twice. Whatever is done to a machine, over resets and
loads, its source has always given as many bytes as random words have been executed, and a random
word puts into its register the bits in its mask of the byte whose number is that of the random
words before it. With another source that begins with the bytes that are drawn, the machine ends in
the same state but for the source. So if no random word is executed, that is so for any source. -/
theorem random_bytes_in_order (m : Machine) (operations : List Operation) :
    let stops := m.stopsOfAll operations
    let drawn := stops.countP Machine.draws
    (m.operateAll operations).source = m.source.after drawn ∧
      (∀ earlier stop later, stops = earlier ++ stop :: later →
        stop.source = m.source.after (earlier.countP Machine.draws) ∧
        (stop.draws = true → stop.step.2.register stop.fetch.x =
          m.source.byteAt (earlier.countP Machine.draws) &&& stop.fetch.byte)) ∧
      ∀ source : ByteSource,
        (∀ number < drawn, source.byteAt number = m.source.byteAt number) →
        (m.withSource source).operateAll operations =
          (m.operateAll operations).withSource (source.after drawn) := by
  intro stops drawn
  have hsupplies : m.source.Supplies stops (m.operateAll operations).source :=
    m.supplies_operateAll operations
  refine ⟨hsupplies.eq_after, ?_, fun source hagree ↦ Machine.operateAll_withSource _ hagree⟩
  intro earlier stop later hstops
  rw [hstops] at hsupplies
  have hsource := hsupplies.of_append.eq_after
  refine ⟨hsource, fun hdraws ↦ ?_⟩
  rw [Machine.register_step hdraws, hsource, ByteSource.byteAt]

/-- Two random words with a reset between them take the first two bytes of a script. A script with a
third byte does as well. -/
theorem random_bytes_in_order_of_reset :
    let m := Machine.powerOn Machine.randomProgram .screen .idle (.script #[0x12, 0x34] 0)
    let operations : List Operation := [.ask .step, .ask .reset, .ask .step]
    let stop := m.step.2.reset
    let longer := ByteSource.script #[0x12, 0x34, 0x56] 0
    m.stopsOfAll operations = [m] ++ stop :: [] ∧ stop.draws = true ∧
      stop.step.2.register 3 = 0x30 ∧
      (m.operateAll operations).source = .script #[0x12, 0x34] 2 ∧
      (m.withSource longer).operateAll operations =
        (m.operateAll operations).withSource (.script #[0x12, 0x34, 0x56] 2) := by
  intro m operations stop longer
  -- The machine stays a variable where its stops are computed, or its memory unfolds.
  have hstops (m : Machine) : m.stopsOfAll operations = [m] ++ m.step.2.reset :: [] := rfl
  have hfirst : m.draws = true := Machine.draws_randomProgram _ _ _
  have hstop : stop =
      Machine.powerOn Machine.randomProgram .screen .idle (.script #[0x12, 0x34] 1) :=
    (Machine.reset_step_of_draws hfirst).trans rfl
  have hdraws : stop.draws = true := by
    rw [hstop]
    exact Machine.draws_randomProgram _ _ _
  have hdrawn : (m.stopsOfAll operations).countP Machine.draws = 2 := by
    rw [hstops, List.singleton_append, Machine.countP_draws_cons, Machine.countP_draws_cons,
      hfirst, hdraws]
    rfl
  obtain ⟨hsource, hregister, hlonger⟩ := random_bytes_in_order m operations
  rw [hdrawn, Machine.source_powerOn] at hsource hlonger
  refine ⟨hstops m, hdraws, ?_, hsource, hlonger longer (by decide)⟩
  have hvalue := (hregister [m] stop [] (hstops m)).2 hdraws
  have hfetch : stop.fetch = 0xC3F0 := by
    rw [hstop]
    exact Machine.fetch_randomProgram _ _ _
  have hx : Word.x 0xC3F0 = 3 := by decide
  have hbits : (ByteSource.script #[0x12, 0x34] 0).byteAt 1 &&& Word.byte 0xC3F0 = 0x30 := by
    decide
  rw [hfetch, hx, List.countP_singleton, if_pos hfirst, Machine.source_powerOn] at hvalue
  exact hvalue.trans hbits

end Cosmac
