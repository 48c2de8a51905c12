import Cosmac.Proofs.Service.Batch
import Cosmac.Proofs.Service.Tone

/-!
# Pauses

The runner waits for the request to run before each batch. A wait that times out makes its clock
forget the time. `RunnerLoop` follows the runner event by event, while users act on the service in
its sleeps and waits; `RunnerLoop.exists_events_of_follow` says that `Runner.follow` is such a run.
Between two batches, nothing else changes the clock (`RunnerLoop.runner_of_after`). So the time of a
pause is timer time unless a wait has timed out meanwhile
(`RunnerLoop.pause_counts_unless_timed_out`), and a service that pauses and resumes within one sleep
has it counted (`RunnerLoop.pause_counted_within_sleep`).
-/

set_option autoImplicit false

namespace Cosmac

/-- Whether an action is a pass of the runner, which no user performs. -/
def ServiceAction.isPass : ServiceAction → Bool
  | .pass _ _ => true
  | _ => false

namespace Runner

/-- What the runner does after a wait that has not timed out, even if the request to run has been
withdrawn since. -/
def work (runner : Runner) (s : Service) (now : Reading) :
    Except ArithmeticError Pass × Runner × Service :=
  let (result, runner, after) := runner.pass { s with runRequested := true } now
  (result, runner, { after with runRequested := s.runRequested && after.runRequested })

/-- A pass waits and does its work, or it forgets the time. -/
theorem pass_eq (runner : Runner) (s : Service) (now : Reading) :
    runner.pass s now =
      if s.runRequested then runner.work s now else (.ok .idle, runner.forget, s) := by
  cases hrequest : s.runRequested with
  | false =>
    rw [pass, hrequest]
    rfl
  | true =>
    have hsame : { s with runRequested := true } = s := by rw [← hrequest]
    rw [if_pos rfl, work, hsame, hrequest]
    simp only [Bool.true_and]

theorem work_of_requested (runner : Runner) {s : Service} (hrequest : s.runRequested = true)
    (now : Reading) : runner.work s now = runner.pass s now := by
  rw [pass_eq, if_pos hrequest]

/-- A pass that completes a batch has read the clock after it. -/
theorem pass_of_ticks {runner after : Runner} {s served : Service} {now : Reading} {ticks : Int}
    (hpass : runner.pass s now = (.ok (.completed ticks), after, served)) :
    ∃ machine, s.machine = some machine ∧
      runner.clock.advanceTo now = .ok (ticks, after.clock) ∧
        served.machine = some ((machine.run runner.batchSize).2.afterTicks ticks.toNat) := by
  cases hrequest : s.runRequested with
  | false =>
    rw [pass_eq, hrequest] at hpass
    cases hpass
  | true =>
    cases hmachine : s.machine with
    | none =>
      have hvacant := (Service.pass_of_vacant runner now hrequest hmachine).1
      rw [hpass] at hvacant
      cases hvacant
    | some machine =>
      rw [Service.pass_of_requested runner now hrequest hmachine] at hpass
      refine ⟨machine, rfl, ?_⟩
      split at hpass
      · split at hpass <;> cases hpass
        exact ⟨‹_›, rfl⟩
      · cases hpass

theorem work_of_ticks {runner after : Runner} {s served : Service} {now : Reading} {ticks : Int}
    (hwork : runner.work s now = (.ok (.completed ticks), after, served)) :
    ∃ machine, s.machine = some machine ∧
      runner.clock.advanceTo now = .ok (ticks, after.clock) ∧
        served.machine = some ((machine.run runner.batchSize).2.afterTicks ticks.toNat) := by
  unfold work at hwork
  generalize hpass : runner.pass { s with runRequested := true } now = passed at hwork
  obtain ⟨result, runner, worked⟩ := passed
  cases hwork
  obtain ⟨machine, hmachine, hclock, hworked⟩ := pass_of_ticks hpass
  exact ⟨machine, hmachine, hclock, hworked⟩

/-- Whether the runner goes on after its work. -/
def goesOn : Except ArithmeticError Pass → Bool
  | .ok .vacant | .error _ => false
  | .ok _ => true

end Runner

/-- Where the runner is. -/
inductive RunnerPhase where
  /-- It sleeps, or it is about to wait. -/
  | away
  /-- It waits for the request to run, and it has been woken by one or not. -/
  | waiting (woken : Bool)
  /-- It has ended. -/
  | ended

/-- What can happen while the runner sleeps and waits, and when it works. -/
inductive RunnerEvent where
  /-- A user acts on the service. -/
  | call (action : ServiceAction)
  /-- The runner begins to wait. -/
  | listen
  /-- Nothing has woken the runner, and its wait times out. -/
  | timeOut
  /-- The runner has been woken and works. `now` is what its clock shows after the batch. -/
  | batch (now : Reading)
  /-- The runner ends instead of waiting again. -/
  | quit

/-- A runner, its service and where it is. -/
structure RunnerLoop where
  /-- The runner, with whatever it keeps for itself. -/
  runner : Runner
  /-- Its service. -/
  service : Service
  /-- Where it is. -/
  phase : RunnerPhase

namespace RunnerEvent

/-- Whether a wait times out. -/
def isTimeOut : RunnerEvent → Bool
  | timeOut => true
  | _ => false

/-- Whether the runner works. -/
def isBatch : RunnerEvent → Bool
  | batch _ => true
  | _ => false

end RunnerEvent

namespace RunnerLoop

/-- The loop after an event, if the event can happen. -/
def next? (l : RunnerLoop) : RunnerEvent → Option RunnerLoop
  | .call action =>
    let after := l.service.perform action
    match action.isPass, l.phase with
    | true, _ => none
    | false, .waiting woken =>
      some { l with service := after, phase := .waiting (woken || after.runRequested) }
    | false, _ => some { l with service := after }
  | .listen =>
    match l.phase with
    | .away => some { l with phase := .waiting l.service.runRequested }
    | _ => none
  | .timeOut =>
    match l.phase with
    | .waiting false => some { l with runner := l.runner.forget, phase := .away }
    | _ => none
  | .batch now =>
    match l.phase with
    | .waiting true =>
      let (result, runner, after) := l.runner.work l.service now
      some ⟨runner, after, if Runner.goesOn result then .away else .ended⟩
    | _ => none
  | .quit =>
    match l.phase with
    | .away => some { l with phase := .ended }
    | _ => none

/-- The loop after events one after the other, if they can happen. -/
def after? (l : RunnerLoop) (events : List RunnerEvent) : Option RunnerLoop :=
  events.foldlM next? l

variable {l later final : RunnerLoop} {event : RunnerEvent} {events : List RunnerEvent}

theorem after_append (l : RunnerLoop) (first rest : List RunnerEvent) :
    l.after? (first ++ rest) = (l.after? first).bind fun between ↦ between.after? rest :=
  List.foldlM_append

/-- A runner that has been woken, and whose request has not been withdrawn, does what it does in a
pass. -/
theorem next_batch {runner after : Runner} {s served : Service} {now : Reading}
    {result : Except ArithmeticError Pass} (hrequest : s.runRequested = true)
    (hpass : runner.pass s now = (result, after, served)) :
    (RunnerLoop.mk runner s (.waiting true)).next? (.batch now) =
      some ⟨after, served, if Runner.goesOn result then .away else .ended⟩ := by
  unfold next?
  simp only [Runner.work_of_requested _ hrequest, hpass]

theorem eq_of_batch {now : Reading} (hfinal : l.next? (.batch now) = some final) :
    final.runner = (l.runner.work l.service now).2.1 ∧
      final.service = (l.runner.work l.service now).2.2 := by
  unfold next? at hfinal
  dsimp only at hfinal
  split at hfinal
  · cases hfinal
    exact ⟨rfl, rfl⟩
  · cases hfinal

/-! ### Runs of the runner -/

/-- Users may act before the runner begins to wait. -/
theorem after_calls (runner : Runner) (s : Service) {actions : List ServiceAction}
    (hcalls : ∀ action ∈ actions, action.isPass = false) :
    (RunnerLoop.mk runner s .away).after? (actions.map .call) =
      some ⟨runner, actions.foldl Service.perform s, .away⟩ := by
  induction actions generalizing s with
  | nil => rfl
  | cons action rest ih =>
    have hfirst : (RunnerLoop.mk runner s .away).next? (.call action) =
        some ⟨runner, s.perform action, .away⟩ := by
      unfold next?
      simp only [hcalls action List.mem_cons_self]
    have hrest := ih (s.perform action) fun other hother ↦
      hcalls other (List.mem_cons_of_mem action hother)
    rw [List.map_cons, after?, List.foldlM_cons, hfirst]
    exact hrest

/-- From one wait to the next, the runner works or its wait times out, as in a pass. -/
theorem exists_after_of_pass {runner after : Runner} {s served : Service} {now : Reading}
    {result : Except ArithmeticError Pass} (hpass : runner.pass s now = (result, after, served)) :
    ∃ event, (RunnerLoop.mk runner s .away).after? [.listen, event] =
      some ⟨after, served, if Runner.goesOn result then .away else .ended⟩ := by
  have hsplit (event : RunnerEvent) : (RunnerLoop.mk runner s .away).after? [.listen, event] =
      ((RunnerLoop.mk runner s (.waiting s.runRequested)).next? event).bind some :=
    rfl
  cases hrequest : s.runRequested with
  | true =>
    refine ⟨.batch now, ?_⟩
    rw [hsplit, hrequest, next_batch hrequest hpass, Option.bind_some]
  | false =>
    rw [Runner.pass_eq, hrequest] at hpass
    cases hpass
    refine ⟨.timeOut, ?_⟩
    rw [hsplit, hrequest]
    rfl

/-- What users do who perform a list of actions at each wait. -/
def visits {α : Type} (answers : List ServiceAction → Service → List α)
    (script : List (List ServiceAction)) : List (Service → List α × Service) :=
  script.map fun actions s ↦ (answers actions s, actions.foldl Service.perform s)

/-- Assumes users that perform lists of actions at the waits. A whole run of the runner is one of
the loop, which leaves the service as it does. -/
theorem exists_events_of_follow {α : Type} (runner : Runner) (s : Service) (clock : Nat → Reading)
    (record : Runner.Record α) (answers : List ServiceAction → Service → List α)
    {script : List (List ServiceAction)}
    (hcalls : ∀ actions ∈ script, ∀ action ∈ actions, action.isPass = false) :
    ∃ events later, (RunnerLoop.mk runner s .away).after? events = some later ∧
      later.service = (runner.follow s clock record (visits answers script)).2 := by
  induction script generalizing runner s record with
  | nil => exact ⟨[], _, rfl, rfl⟩
  | cons actions rest ih =>
    have hrest := fun other hother ↦ hcalls other (List.mem_cons_of_mem actions hother)
    have hfirst := after_calls runner s (hcalls actions List.mem_cons_self)
    rw [visits, List.map_cons, Runner.follow]
    dsimp only
    generalize hpass : runner.pass (actions.foldl Service.perform s) (clock record.readings) =
      passed
    obtain ⟨result, after, served⟩ := passed
    obtain ⟨event, hevent⟩ := exists_after_of_pass hpass
    -- One entry of the script is its calls, the wait, and a batch or the end of the wait.
    have hbegin : (RunnerLoop.mk runner s .away).after? (actions.map .call ++ [.listen, event]) =
        some ⟨after, served, if Runner.goesOn result then .away else .ended⟩ := by
      rw [after_append, hfirst, Option.bind_some, hevent]
    have hgoesOn (record : Runner.Record α) (hgoes : Runner.goesOn result = true) :
        ∃ events later, (RunnerLoop.mk runner s .away).after? events = some later ∧
          later.service = (after.follow served clock record (visits answers rest)).2 := by
      obtain ⟨more, later, hmore, hservice⟩ := ih after served record hrest
      refine ⟨actions.map .call ++ [.listen, event] ++ more, later, ?_, hservice⟩
      rw [after_append, hbegin, if_pos hgoes, Option.bind_some, hmore]
    match result with
    | .error _ | .ok .vacant => exact ⟨_, _, hbegin, rfl⟩
    | .ok .idle | .ok .halted | .ok (.completed _) => exact hgoesOn _ rfl

/-! ### Between batches -/

/-- No event but a batch changes the runner, except that a wait that times out makes it forget. -/
theorem runner_of_next (hnext : l.next? event = some later) (hbatch : event.isBatch = false) :
    later.runner = if event.isTimeOut then l.runner.forget else l.runner := by
  unfold next? at hnext
  cases event with
  | batch => cases hbatch
  | call | listen | timeOut | quit =>
    dsimp only at hnext
    split at hnext <;> cases hnext <;> rfl

/-- Between two batches the runner forgets the time if a wait times out, and nothing else changes
it. -/
theorem runner_of_after (hafter : l.after? events = some later)
    (hbatches : ∀ event ∈ events, event.isBatch = false) :
    later.runner = if events.any RunnerEvent.isTimeOut then l.runner.forget else l.runner := by
  induction events generalizing l with
  | nil =>
    cases hafter
    rfl
  | cons event rest ih =>
    obtain ⟨between, hnext, hrest⟩ := Option.bind_eq_some_iff.mp hafter
    have hfirst := runner_of_next hnext (hbatches event List.mem_cons_self)
    have hlater := ih hrest fun other hother ↦ hbatches other (List.mem_cons_of_mem event hother)
    rw [hlater, hfirst, List.any_cons]
    cases event.isTimeOut <;> cases rest.any RunnerEvent.isTimeOut <;> rfl

/-- A clock without a reading makes no tick due. -/
theorem ticks_of_reset {clock after : TickClock Reading} {now : Reading} {ticks : Int}
    (hclock : (clock.reset none).advanceTo now = .ok (ticks, after)) : ticks = 0 := by
  cases now <;> cases hclock <;> rfl

/-- Assumes events of the runner and its users without a batch of the runner, as between two batches
that follow each other, whether users pause the service and ask it to run again or not. If a wait
times out, then the clock has no reading left, and a batch that is completed next is followed by no
tick. Otherwise the clock is as the last batch left it, and the ticks that have fallen due since,
and none but these, follow the next batch that is completed. -/
theorem pause_counts_unless_timed_out (hafter : l.after? events = some later)
    (hbatches : ∀ event ∈ events, event.isBatch = false) :
    (later.runner.clock =
      if events.any RunnerEvent.isTimeOut then l.runner.clock.reset none else l.runner.clock) ∧
    ∀ now ticks final, later.next? (.batch now) = some final →
      (later.runner.work later.service now).1 = .ok (.completed ticks) →
      ∃ machine, later.service.machine = some machine ∧
        let worked := (machine.run l.runner.batchSize).2
        if events.any RunnerEvent.isTimeOut then
          ticks = 0 ∧ final.service.machine = some worked
        else
          l.runner.clock.advanceTo now = .ok (ticks, final.runner.clock) ∧
            final.service.machine = some (worked.afterTicks ticks.toNat) := by
  have hrunner := runner_of_after hafter hbatches
  constructor
  · rw [hrunner]
    cases events.any RunnerEvent.isTimeOut <;> rfl
  · intro now ticks final hfinal hcompleted
    have hsize : later.runner.batchSize = l.runner.batchSize := by
      rw [hrunner]
      cases events.any RunnerEvent.isTimeOut <;> rfl
    have hwork : later.runner.work later.service now =
        (.ok (.completed ticks), final.runner, final.service) := by
      obtain ⟨hworked, hserved⟩ := eq_of_batch hfinal
      rw [← hcompleted, hworked, hserved]
    obtain ⟨machine, hmachine, hclock, hserved⟩ := Runner.work_of_ticks hwork
    rw [hsize] at hserved
    refine ⟨machine, hmachine, ?_⟩
    rw [hrunner] at hclock
    cases htimed : events.any RunnerEvent.isTimeOut with
    | true =>
      rw [htimed] at hclock
      have hticks : ticks = 0 := ticks_of_reset hclock
      subst hticks
      exact ⟨rfl, hserved⟩
    | false =>
      rw [htimed] at hclock
      exact ⟨hclock, hserved⟩

/-! ### Pauses of a program -/

open ToneHistory

/-- A runner and its service, which is new. -/
def start : RunnerLoop :=
  ⟨beepRunner, .ofConfig unhurried ⟨[], []⟩ none, .away⟩

/-- The loop after the first batch of a program. -/
def sleeping : RunnerLoop :=
  ⟨countingRunner, counting.service, .away⟩

theorem requested_counting : counting.service.runRequested = true := by
  rw [service_counting, service_started]

theorem after_start :
    start.after? [.call (.load beep.bytes), .call .run, .listen, .batch (.time (.real 0.0))] =
      some sleeping := by
  have hcalls : start.after? [.call (.load beep.bytes), .call .run, .listen] =
      some ⟨beepRunner, started.service, .waiting true⟩ := by
    rfl
  have hrequest : started.service.runRequested = true := by rw [service_started]
  have hbatch : (RunnerLoop.mk beepRunner started.service (.waiting true)).next?
      (.batch (.time (.real 0.0))) = some sleeping := by
    rw [sleeping, service_counting]
    exact next_batch hrequest pass_beepRunner
  refine (after_append start [.call (.load beep.bytes), .call .run, .listen]
    [.batch (.time (.real 0.0))]).trans ?_
  rw [hcalls, Option.bind_some, after?, List.foldlM_cons, hbatch]
  rfl

theorem after_sleeping :
    sleeping.after? [.call .pause, .call .run, .listen] =
      some ⟨countingRunner, counting.service, .waiting true⟩ := by
  rw [sleeping, service_counting, service_started]
  rfl

/-- A wait times out while the service is paused, and no tick follows the second batch. -/
theorem pause_counts_unless_timed_out_of_wait :
    ∃ later final : RunnerLoop,
      sleeping.after? [.call .pause, .listen, .timeOut, .call .run, .listen] = some later ∧
      later.runner.clock.last = none ∧
      later.next? (.batch (.time (.real 1.0))) = some final ∧
      final.service.machine = some beepingMachine := by
  have hevents : sleeping.after? [.call .pause, .listen, .timeOut, .call .run, .listen] =
      some ⟨countingRunner.forget, counting.service, .waiting true⟩ := by
    rw [sleeping, service_counting, service_started]
    rfl
  have hmachine : counting.service.machine = some readyMachine := by rw [service_counting]
  have hreading : countingRunner.forget.clock.advanceTo (.time (.real 1.0)) = .ok (0,
      countingRunner.clock.reset (some (.time (.real 1.0)))) := rfl
  have hpass := Service.pass_of_completed countingRunner.forget _ requested_counting hmachine
    run_readyMachine rfl hreading
  have hbatch := next_batch requested_counting hpass
  obtain ⟨hclock, hticks⟩ := pause_counts_unless_timed_out hevents (by decide)
  have hcompleted := hticks (.time (.real 1.0)) 0 _ hbatch
  dsimp only at hcompleted
  rw [Runner.work_of_requested _ requested_counting, hpass] at hcompleted
  obtain ⟨machine, hheld, -, hserved⟩ := hcompleted rfl
  refine ⟨_, _, hevents, congrArg TickClock.last hclock, hbatch, ?_⟩
  obtain rfl : readyMachine = machine := Option.some.inj (hmachine.symm.trans hheld)
  rw [hserved]
  exact congrArg (fun result ↦ some result.2) run_readyMachine

/-- A service runs a program with its own runner. While the runner sleeps after the first batch,
users pause the service and ask it to run again. The clock keeps its reading, and the whole time
since is timer time: sixty ticks follow the second batch. -/
theorem pause_counted_within_sleep :
    ∃ later final : RunnerLoop,
      Runner.ofConfig unhurried = .ok start.runner ∧
      start.after? [.call (.load beep.bytes), .call .run, .listen, .batch (.time (.real 0.0))] =
        some sleeping ∧
      sleeping.after? [.call .pause, .call .run, .listen] = some later ∧
      later.runner.clock.last ≠ none ∧
      later.next? (.batch (.time (.real 1.0))) = some final ∧
      final.service.machine = some (beepingMachine.afterTicks 60) ∧
      final.service.toneActive = true := by
  obtain ⟨hmachine, hsounds⟩ := service_beeping
  rw [beeping, service_pass] at hmachine hsounds
  generalize hpass : countingRunner.pass counting.service (.time (.real 1.0)) = passed
    at hmachine hsounds
  obtain ⟨result, runner, after⟩ := passed
  have hbatch := next_batch requested_counting hpass
  exact ⟨_, _, rfl, after_start, after_sleeping, Option.some_ne_none _, hbatch, hmachine, hsounds⟩

end RunnerLoop

end Cosmac
