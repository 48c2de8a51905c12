import Cosmac.Proofs.Failure
import Cosmac.Proofs.Run.Moment
import Cosmac.Run.Session

/-!
# Answers of sessions

When the steps of a session have ended, it reads its clock once more and reports
(`Session.answer`). A report is about the run that has ended (`Session.exists_run_eq_of_answer`) and
fails only where the image cannot be saved, if the clock shows times. So two sessions whose runs
have computed the same have answers that agree (`Session.agree_answer`).
-/

set_option autoImplicit false

namespace Cosmac

/-! ### Reports -/

namespace Run

/-- The end of a run is only written down. -/
theorem exists_conclude_eq (r : Run) :
    ∃ journal : Journal, r.conclude = { r with journal := journal } := by
  unfold conclude
  split <;> exact ⟨_, rfl⟩

end Run

namespace SessionResult

theorem exists_stepRate_eq {steps : Nat} {elapsed : Quantity} (hsteps : steps < 2 ^ 1023)
    (helapsed : elapsed.HasDouble) : ∃ x : Float, stepRate steps elapsed = .ok x := by
  unfold stepRate
  cases hpositive : elapsed.atMost 0 with
  | true => exact ⟨0.0, rfl⟩
  | false =>
    obtain ⟨x, hx⟩ := Quantity.exists_divide_eq hsteps helapsed hpositive
    rw [hx]
    exact ⟨x, rfl⟩

theorem exists_statistics_eq {r : Run} {elapsed : Quantity} (hsteps : r.steps < 2 ^ 1023)
    (helapsed : elapsed.HasDouble) : ∃ lines : List String, statistics r elapsed = .ok lines := by
  obtain ⟨seconds, hseconds⟩ := helapsed
  obtain ⟨rate, hrate⟩ := exists_stepRate_eq hsteps ⟨seconds, hseconds⟩
  rw [statistics, hseconds, hrate]
  exact ⟨_, rfl⟩

end SessionResult

namespace Session

variable {files : Files} {request : SessionRequest} {journal : Journal}

theorem report_of_error {r : Run} {elapsed : Quantity} {error : SessionError}
    (hsaved : savedImage files request r.machine.screen = .error error) :
    report files request r elapsed = .error error := by
  rw [report, hsaved]
  rfl

/-- The lines of a report about statistics. -/
def statisticsLines (request : SessionRequest) (r : Run) (elapsed : Quantity) :
    Except SessionError (List String) :=
  if request.printStatistics then (SessionResult.statistics r elapsed).mapError .arithmetic
  else pure []

/-- Where the image can be saved, a report is on the run with something more written down. -/
theorem exists_report_eq_bind {r : Run} {saved : Option (Path × Image)} (elapsed : Quantity)
    (hsaved : savedImage files request r.machine.screen = .ok saved) :
    ∃ (later : Journal) (printed : List String → String),
      report files request r elapsed = do
        let lines ← statisticsLines request { r with journal := later } elapsed
        return ⟨{ r with journal := later }, elapsed, printed lines, saved⟩ := by
  let screenLines := if request.printScreen then [r.machine.screen.text "#" "."] else []
  let printed (lines : List String) := String.join ((screenLines ++ lines).map (· ++ "\n"))
  rw [report, hsaved]
  cases saved with
  | none =>
    refine ⟨r.journal, printed, ?_⟩
    unfold statisticsLines
    cases request.printStatistics <;> rfl
  | some entry =>
    refine ⟨r.journal.record .info .runner ("Saved framebuffer to " ++ entry.1.toText), printed, ?_⟩
    unfold statisticsLines
    cases request.printStatistics <;> rfl

/-- A report succeeds if the image can be saved and the speed can be computed. -/
theorem exists_report_eq {r : Run} {elapsed : Quantity} {saved : Option (Path × Image)}
    (hsteps : request.printStatistics = true → r.steps < 2 ^ 1023) (helapsed : elapsed.HasDouble)
    (hsaved : savedImage files request r.machine.screen = .ok saved) :
    ∃ result : SessionResult, report files request r elapsed = .ok result := by
  obtain ⟨later, printed, hreport⟩ := exists_report_eq_bind elapsed hsaved
  rw [hreport, statisticsLines]
  split_ifs with hprint
  · obtain ⟨lines, hlines⟩ :=
      SessionResult.exists_statistics_eq (r := { r with journal := later }) (hsteps hprint) helapsed
    rw [hlines]
    exact ⟨_, rfl⟩
  · exact ⟨_, rfl⟩

theorem exists_run_eq_of_report {r : Run} {elapsed : Quantity} {result : SessionResult}
    (hreport : report files request r elapsed = .ok result) :
    ∃ later : Journal, result.run = { r with journal := later } := by
  have himage := hreport
  unfold report at himage
  obtain ⟨saved, hsaved, -⟩ := exists_of_bind_eq_ok himage
  obtain ⟨later, printed, hbind⟩ := exists_report_eq_bind elapsed hsaved
  rw [hbind] at hreport
  obtain ⟨lines, -, hresult⟩ := exists_of_bind_eq_ok hreport
  cases hresult
  exact ⟨later, rfl⟩

/-! ### Whole sessions -/

/-- The words that a session as fast as possible executes, in order. -/
def words (files : Files) (request : SessionRequest) (journal : Journal) : List Word :=
  match begin files request journal, rates request.config, request.steps with
  | .ok fresh, .ok (_, _, stepsPerTick), .value steps =>
    fresh.words (Run.evenly stepsPerTick) steps.toNat
  | _, _, _ => []

/-- The answer of a session when its steps have ended, with the readings at its start and its
end. -/
def answer (files : Files) (request : SessionRequest) (start final : Quantity) :
    Except ArithmeticError Run → Except SessionError SessionResult
  | .error cause => .error (.arithmetic cause)
  | .ok run =>
    match ClockNumber.subtract final start with
    | .error cause => .error (.arithmetic cause)
    | .ok elapsed => report files request run.conclude elapsed

/-- What a session does when its steps have ended is to read the clock again and to answer. -/
theorem ending_eq {σ : Type} (time : Timekeeper (StateM σ)) (start : Quantity)
    (ended : Except ArithmeticError Run) (later : σ) :
    ((match ended with
      | .error cause => pure (.error (.arithmetic cause))
      | .ok run => do
        match ClockNumber.subtract (← time.now) start with
        | .error cause => return .error (.arithmetic cause)
        | .ok elapsed => return report files request run.conclude elapsed :
      StateM σ (Except SessionError SessionResult)) later).1 =
      answer files request start (time.now later).1 ended := by
  cases ended with
  | error => rfl
  | ok run =>
    simp only [answer, bind, StateT.bind]
    generalize time.now later = last
    obtain ⟨final, rest⟩ := last
    dsimp only
    cases ClockNumber.subtract final start <;> rfl

theorem run_eq {σ : Type} (time : Timekeeper (StateM σ)) (host : σ) (fast : Bool) :
    (run files time { request with fast := fast } journal host).1 =
      match begin files request journal, rates request.config, request.steps with
      | .error error, _, _ => .error error
      | .ok _, .error cause, _ => .error (.arithmetic cause)
      | .ok _, .ok _, .misfit => .error .misfit
      | .ok fresh, .ok (tickClock, stepPeriod, stepsPerTick), .value steps =>
        let first := Moment.first time host tickClock stepPeriod
        let (ended, later) :=
          if fast then (.ok (fresh.fast stepsPerTick steps.toNat), first.host)
          else fresh.paced time first.pace steps.toNat first.host
        answer files request first.pace.start (time.now later).1 ended := by
  have hbegin : begin files { request with fast := fast } journal = begin files request journal :=
    rfl
  rw [run, hbegin]
  dsimp only
  cases begin files request journal with
  | error => rfl
  | ok fresh =>
    cases rates request.config with
    | error => rfl
    | ok rated =>
      cases request.steps with
      | misfit => rfl
      | value steps =>
        simp only [Moment.first]
        cases fast with
        | true => exact ending_eq time _ (.ok (fresh.fast rated.2.2 steps.toNat)) _
        | false => exact ending_eq time _ _ _

/-- The result of a session is about the run that has ended. -/
theorem exists_run_eq_of_answer {r : Run} {start final : Quantity} {result : SessionResult}
    (hanswer : answer files request start final (.ok r) = .ok result) :
    ∃ later : Journal, result.run = { r with journal := later } := by
  obtain ⟨concluded, hconclude⟩ := r.exists_conclude_eq
  rw [answer, hconclude] at hanswer
  cases helapsed : ClockNumber.subtract final start with
  | error =>
    rw [helapsed] at hanswer
    cases hanswer
  | ok elapsed =>
    rw [helapsed] at hanswer
    obtain ⟨later, hrun⟩ := exists_run_eq_of_report (r := { r with journal := concluded }) hanswer
    exact ⟨later, hrun⟩

/-- A session whose steps have ended has a result if its clock shows times, the image can be saved
and the speed can be computed. -/
theorem exists_answer_eq {r : Run} {start final : Quantity} {saved : Option (Path × Image)}
    (hsteps : request.printStatistics = true → r.steps < 2 ^ 1023) (hstart : start.IsTime)
    (hfinal : final.IsTime) (hsaved : savedImage files request r.machine.screen = .ok saved) :
    ∃ result : SessionResult, answer files request start final (.ok r) = .ok result := by
  obtain ⟨elapsed, helapsed, hdouble⟩ := hfinal.exists_subtract_eq hstart
  obtain ⟨concluded, hconclude⟩ := r.exists_conclude_eq
  rw [answer, helapsed, hconclude]
  exact exists_report_eq (r := { r with journal := concluded }) hsteps hdouble hsaved

/-! ### Agreement -/

/-- Two answers of sessions agree: they are results whose runs have computed the same, or the same
error. -/
inductive Agree : Except SessionError SessionResult → Except SessionError SessionResult → Prop
  | result {first second : SessionResult} (hsame : first.run.SameComputation second.run) :
    Agree (.ok first) (.ok second)
  | error (cause : SessionError) : Agree (.error cause) (.error cause)

section Agreement

variable {r q : Run}

theorem agree_report {elapsed elapsed' : Quantity} (hsame : r.SameComputation q)
    (hsteps : r.steps < 2 ^ 1023) (helapsed : elapsed.HasDouble) (helapsed' : elapsed'.HasDouble) :
    Agree (report files request r elapsed) (report files request q elapsed') := by
  cases himage : savedImage files request r.machine.screen with
  | error cause =>
    rw [report_of_error himage, report_of_error (hsame.screen ▸ himage)]
    exact .error cause
  | ok saved =>
    obtain ⟨first, hfirst⟩ := exists_report_eq (fun _ ↦ hsteps) helapsed himage
    obtain ⟨second, hsecond⟩ :=
      exists_report_eq (fun _ ↦ hsame.steps ▸ hsteps) helapsed' (hsame.screen ▸ himage)
    obtain ⟨later, hrun⟩ := exists_run_eq_of_report hfirst
    obtain ⟨later', hrun'⟩ := exists_run_eq_of_report hsecond
    rw [hfirst, hsecond]
    exact .result (hrun ▸ hrun' ▸ hsame.withJournals later later')

/-- Sessions agree in their answers if their clocks show times and their runs have computed the
same. -/
theorem agree_answer {start final start' final' : Quantity} (hsame : r.SameComputation q)
    (hsteps : r.steps < 2 ^ 1023) (hstart : start.IsTime) (hfinal : final.IsTime)
    (hstart' : start'.IsTime) (hfinal' : final'.IsTime) :
    Agree (answer files request start final (.ok r))
      (answer files request start' final' (.ok q)) := by
  obtain ⟨elapsed, helapsed, hdouble⟩ := hfinal.exists_subtract_eq hstart
  obtain ⟨elapsed', helapsed', hdouble'⟩ := hfinal'.exists_subtract_eq hstart'
  obtain ⟨later, hconclude⟩ := r.exists_conclude_eq
  obtain ⟨later', hconclude'⟩ := q.exists_conclude_eq
  rw [answer, answer, helapsed, helapsed', hconclude, hconclude']
  exact agree_report (hsame.withJournals later later') hsteps hdouble hdouble'

end Agreement

end Session

end Cosmac
