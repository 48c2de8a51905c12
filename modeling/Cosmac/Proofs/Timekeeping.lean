import Cosmac.Timers.Clock
import Mathlib.Algebra.Order.Archimedean.Basic
import Mathlib.Algebra.Order.Floor.Ring
import Mathlib.Data.Rat.Floor
import Mathlib.Tactic.FieldSimp
import Mathlib.Tactic.Ring

/-!
# Timekeeping

In exact arithmetic a clock neither loses nor invents ticks. From its start on it has told as many
as there are whole periods up to the latest time it was shown, however often it was read in between
and even if some readings went back (`TickClock.ticks_tell_latest_reading`). What carries this is
that a clock never counts from the time it is shown, but from the last tick that it told
(`TickClock.HasCounted`): a reading tells the whole periods since then, if there are any
(`TickClock.advance_eq`).
-/

set_option autoImplicit false

namespace Cosmac

/-- What a host does with a clock. -/
inductive ClockAction (α : Type) where
  /-- Starts counting at a time, or at the next reading. -/
  | reset (now : Option α)
  /-- Reads the clock at a time. -/
  | advance (now : α)

namespace TickClock

/-! ### Several actions -/

section Actions

variable {α : Type} [ClockNumber α]

/-- A clock after an action. -/
def perform (clock : TickClock α) : ClockAction α → Except ArithmeticError (TickClock α)
  | .reset now => .ok (clock.reset now)
  | .advance now => (clock.advance now).map Prod.snd

/-- A clock after actions one after the other. -/
def performAll (clock : TickClock α) (actions : List (ClockAction α)) :
    Except ArithmeticError (TickClock α) :=
  actions.foldlM perform clock

/-- The ticks that fall due at readings one after the other, and the clock after them. -/
def advanceAll (clock : TickClock α) : List α → Except ArithmeticError (List Int × TickClock α)
  | [] => .ok ([], clock)
  | now :: rest => do
    let (ticks, after) ← clock.advance now
    let (later, final) ← after.advanceAll rest
    return (ticks :: later, final)

theorem advanceAll_cons {clock after final : TickClock α} {now : α} {rest : List α} {ticks : Int}
    {later : List Int} (hadvance : clock.advance now = .ok (ticks, after))
    (hrest : after.advanceAll rest = .ok (later, final)) :
    clock.advanceAll (now :: rest) = .ok (ticks :: later, final) := by
  rw [advanceAll, hadvance]
  change (after.advanceAll rest >>= _) = _
  rw [hrest]
  rfl

end Actions

variable {clock : TickClock Rat} {rate start latest last : Rat} {total : Int}

/-! ### A reading -/

/-- A clock of a rate, before it is read. -/
theorem ofRate_eq (hrate : 0 < rate) : ofRate rate = .ok ⟨rate, 1 / rate, none⟩ := by
  have hperiod : ClockNumber.divide (ClockNumber.ofInt 1) rate = .ok (1 / rate) :=
    if_neg hrate.ne'
  rw [ofRate, hperiod]
  rfl

/-- The first reading only starts the count. -/
theorem advance_of_unread (clock : TickClock Rat) (now : Rat) :
    (clock.reset none).advance now = .ok (0, clock.reset (some now)) :=
  rfl

/-- A reading tells the whole periods since the last tick, if there are any, and then counts from
the last of them. -/
theorem advance_eq (hlast : clock.last = some last) (hperiod : 0 < clock.period) (now : Rat) :
    let ticks := max 0 ⌊(now - last) / clock.period⌋
    clock.advance now = .ok (ticks, clock.reset (some (last + ticks * clock.period))) := by
  intro ticks
  rw [advance, hlast]
  change (if decide (now - last < clock.period) = true then _ else _) = _
  by_cases hless : now - last < clock.period
  · have hticks : ticks = 0 := by
      refine max_eq_left (Int.lt_add_one_iff.mp (Int.floor_lt.mpr ?_))
      rw [div_lt_iff₀ hperiod]
      simpa using hless
    rw [if_pos (decide_eq_true hless), hticks, reset, Int.cast_zero, zero_mul, add_zero, ← hlast]
    rfl
  · have hdivide : ClockNumber.divide (now - last) clock.period =
        .ok ((now - last) / clock.period) := if_neg hperiod.ne'
    have hquotient : 0 ≤ (now - last) / clock.period :=
      div_nonneg (hperiod.le.trans (not_lt.mp hless)) hperiod.le
    have hticks : ticks = ⌊(now - last) / clock.period⌋ :=
      max_eq_right (Int.floor_nonneg.mpr hquotient)
    have htruncate : (if (now - last) / clock.period < 0 then ((now - last) / clock.period).ceil
        else ((now - last) / clock.period).floor) = ⌊(now - last) / clock.period⌋ :=
      if_neg hquotient.not_gt
    rw [if_neg (by rwa [decide_eq_true_iff])]
    change (ClockNumber.divide (now - last) clock.period >>= _) = _
    rw [hdivide, hticks, ← htruncate]
    rfl

/-! ### The count -/

/-- Whether a clock that was started at a time has told all ticks up to the latest time it was
shown, as many as are given, and counts from the last of them. -/
structure HasCounted (rate start latest : Rat) (total : Int) (clock : TickClock Rat) : Prop where
  rate_eq : clock.rate = rate
  period_eq : clock.period = 1 / rate
  last_eq : clock.last = some (start + total * clock.period)
  total_eq : total = ⌊(latest - start) * rate⌋

namespace HasCounted

theorem of_reset (hclock : clock.rate = rate) (hperiod : clock.period = 1 / rate) (start : Rat) :
    HasCounted rate start start 0 (clock.reset (some start)) where
  rate_eq := hclock
  period_eq := hperiod
  last_eq := by simp [reset]
  total_eq := by simp

/-- A reading tells the ticks that are missing. -/
theorem advance (hcounted : HasCounted rate start latest total clock) (hrate : 0 < rate)
    (now : Rat) :
    ∃ (ticks : Int) (after : TickClock Rat), clock.advance now = .ok (ticks, after) ∧ 0 ≤ ticks ∧
      HasCounted rate start (max latest now) (total + ticks) after := by
  have hperiod : 0 < clock.period := by
    rw [hcounted.period_eq]
    exact one_div_pos.mpr hrate
  have hsince : (now - (start + total * clock.period)) / clock.period =
      (now - start) * rate - total := by
    rw [hcounted.period_eq]
    field_simp
    ring
  have hticks : max 0 ⌊(now - (start + total * clock.period)) / clock.period⌋ =
      max total ⌊(now - start) * rate⌋ - total := by
    rw [hsince, Int.floor_sub_intCast]
    omega
  refine ⟨_, _, advance_eq hcounted.last_eq hperiod now, le_max_left _ _, hcounted.rate_eq,
    hcounted.period_eq, ?_, ?_⟩
  · simp only [reset]
    push_cast
    ring_nf
  · have hscaled : Monotone fun time : Rat ↦ ⌊(time - start) * rate⌋ := fun earlier later h ↦
      Int.floor_mono (mul_le_mul_of_nonneg_right (sub_le_sub_right h start) hrate.le)
    rw [hticks, add_sub_cancel, hcounted.total_eq]
    exact (hscaled.map_max (a := latest) (b := now)).symm

/-- Readings one after the other tell the ticks up to the latest of them. -/
theorem advanceAll (hcounted : HasCounted rate start latest total clock) (hrate : 0 < rate)
    (readings : List Rat) :
    ∃ (ticks : List Int) (final : TickClock Rat),
      clock.advanceAll readings = .ok (ticks, final) ∧ ticks.length = readings.length ∧
        (∀ count ∈ ticks, 0 ≤ count) ∧
        HasCounted rate start (readings.foldl max latest) (total + ticks.sum) final := by
  induction readings generalizing clock latest total with
  | nil => exact ⟨[], clock, rfl, rfl, nofun, by simpa using hcounted⟩
  | cons now rest ih =>
    obtain ⟨count, after, hadvance, hcount, hafter⟩ := hcounted.advance hrate now
    obtain ⟨ticks, final, hrest, hlength, hticks, hfinal⟩ := ih hafter
    refine ⟨count :: ticks, final, advanceAll_cons hadvance hrest, congrArg (· + 1) hlength,
      List.forall_mem_cons.mpr ⟨hcount, hticks⟩, ?_⟩
    rwa [List.sum_cons, ← add_assoc]

/-- How far a clock has counted decides what it is. -/
theorem eq_of_latest {clock' : TickClock Rat} {total' : Int}
    (hcounted : HasCounted rate start latest total clock)
    (hcounted' : HasCounted rate start latest total' clock') :
    clock' = clock ∧ total' = total := by
  have htotal : total' = total := hcounted'.total_eq.trans hcounted.total_eq.symm
  have hperiod : clock'.period = clock.period := hcounted'.period_eq.trans hcounted.period_eq.symm
  have hlast : clock'.last = clock.last := by
    rw [hcounted'.last_eq, hcounted.last_eq, htotal, hperiod]
  refine ⟨?_, htotal⟩
  cases clock
  cases clock'
  simp only [mk.injEq]
  exact ⟨hcounted'.rate_eq.trans hcounted.rate_eq.symm, hperiod, hlast⟩

end HasCounted

/-! ### A clock in use -/

/-- No action on a clock of a positive rate fails, and none changes its rate. -/
theorem exists_perform_eq (hrate : 0 < rate) (hclock : clock.rate = rate)
    (hperiod : clock.period = 1 / rate) (action : ClockAction Rat) :
    ∃ after : TickClock Rat,
      clock.perform action = .ok after ∧ after.rate = rate ∧ after.period = 1 / rate := by
  cases action with
  | reset now => exact ⟨clock.reset now, rfl, hclock, hperiod⟩
  | advance now =>
    have hafter {ticks : Int} {shown : Option Rat}
        (hadvance : clock.advance now = .ok (ticks, clock.reset shown)) :
        clock.perform (.advance now) = .ok (clock.reset shown) := by
      rw [perform, hadvance]
      rfl
    cases hlast : clock.last with
    | none =>
      have hunread : clock.reset none = clock := by rw [reset, ← hlast]
      have hadvance := clock.advance_of_unread now
      rw [hunread] at hadvance
      exact ⟨clock.reset (some now), hafter hadvance, hclock, hperiod⟩
    | some last =>
      have hpositive : 0 < clock.period := by
        rw [hperiod]
        exact one_div_pos.mpr hrate
      exact ⟨clock.reset _, hafter (advance_eq hlast hpositive now), hclock, hperiod⟩

theorem exists_performAll_eq (hrate : 0 < rate) (hclock : clock.rate = rate)
    (hperiod : clock.period = 1 / rate) (actions : List (ClockAction Rat)) :
    ∃ used : TickClock Rat,
      clock.performAll actions = .ok used ∧ used.rate = rate ∧ used.period = 1 / rate := by
  induction actions generalizing clock with
  | nil => exact ⟨clock, rfl, hclock, hperiod⟩
  | cons action rest ih =>
    obtain ⟨after, hafter, hclock', hperiod'⟩ := exists_perform_eq hrate hclock hperiod action
    obtain ⟨used, hused, hfinal⟩ := ih hclock' hperiod'
    refine ⟨used, ?_, hfinal⟩
    rw [performAll, List.foldlM_cons, hafter]
    exact hused

/-- Let a clock of a positive rate have been used in any way, and then be started at a time: either
at once, or by the first reading after a reset. However often it is read from there, at times that
may also go back, no reading fails or tells a negative number of ticks. Together the readings tell
the whole periods from the start up to the latest time, and the clock counts on from the last of
these ticks. So the number of ticks and the clock depend on the latest time alone. -/
theorem ticks_tell_latest_reading (rate start : Rat) (hrate : 0 < rate)
    (earlier : List (ClockAction Rat)) :
    ∃ new used : TickClock Rat, ofRate rate = .ok new ∧ new.performAll earlier = .ok used ∧
      (used.reset none).advance start = .ok (0, used.reset (some start)) ∧
      ∀ readings : List Rat, ∃ (ticks : List Int) (final : TickClock Rat),
        (used.reset (some start)).advanceAll readings = .ok (ticks, final) ∧
        ticks.length = readings.length ∧ (∀ count ∈ ticks, 0 ≤ count) ∧
        ticks.sum = ⌊(readings.foldl max start - start) * rate⌋ ∧
        final.period = 1 / rate ∧ final.last = some (start + ticks.sum * final.period) ∧
        ∀ others : List Rat, others.foldl max start = readings.foldl max start →
          ∃ ticks' : List Int, (used.reset (some start)).advanceAll others = .ok (ticks', final) ∧
            ticks'.sum = ticks.sum := by
  let new : TickClock Rat := ⟨rate, 1 / rate, none⟩
  obtain ⟨used, hused, hclock, hperiod⟩ :=
    exists_performAll_eq hrate (rfl : new.rate = rate) rfl earlier
  have hstart := HasCounted.of_reset hclock hperiod start
  refine ⟨new, used, ofRate_eq hrate, hused, used.advance_of_unread start, fun readings ↦ ?_⟩
  obtain ⟨ticks, final, hreadings, hlength, hticks, hfinal⟩ := hstart.advanceAll hrate readings
  rw [zero_add] at hfinal
  refine ⟨ticks, final, hreadings, hlength, hticks, hfinal.total_eq, hfinal.period_eq,
    hfinal.last_eq, fun others hothers ↦ ?_⟩
  obtain ⟨ticks', final', hothers', -, -, hfinal'⟩ := hstart.advanceAll hrate others
  rw [zero_add, hothers] at hfinal'
  obtain ⟨rfl, htotal⟩ := hfinal.eq_of_latest hfinal'
  exact ⟨ticks', hothers', htotal⟩

/-- A clock of sixty ticks that is read a while later, then at an earlier time, and last after six
sevenths of a unit, tells fifty-one ticks. It was in use before. -/
theorem ticks_tell_latest_reading_of_rewind :
    (0 : Rat) < 60 ∧ ∃ (new used final : TickClock Rat) (ticks : List Int),
      ofRate 60 = .ok new ∧ new.performAll [.advance 5, .advance 9, .reset none] = .ok used ∧
        (used.reset (some (1 / 7))).advanceAll [1 / 2, 1 / 3, 1] = .ok (ticks, final) ∧
        ticks.sum = 51 ∧ final.last = some (1 / 7 + 51 / 60) := by
  obtain ⟨new, used, hnew, hused, -, hreadings⟩ :=
    ticks_tell_latest_reading 60 (1 / 7) (by norm_num) [.advance 5, .advance 9, .reset none]
  obtain ⟨ticks, final, hfinal, -, -, htotal, hperiod, hlast, -⟩ := hreadings [1 / 2, 1 / 3, 1]
  have hlatest : [1 / 2, 1 / 3, 1].foldl max (1 / 7 : Rat) = 1 := by norm_num
  have hsum : ticks.sum = 51 := by
    rw [htotal, hlatest, Int.floor_eq_iff]
    norm_num
  refine ⟨by norm_num, new, used, final, ticks, hnew, hused, hfinal, hsum, ?_⟩
  rw [hlast, hsum, hperiod]
  norm_num

end TickClock

end Cosmac
