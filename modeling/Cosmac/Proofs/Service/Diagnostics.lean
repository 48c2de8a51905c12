import Cosmac.Proofs.Machine.Trail
import Cosmac.Proofs.Service.Action

/-!
# The unknown words that a service remembers

A machine and its service remember unknown words with limits of their own, and each forgets them in
its own way. `ServiceTrail` keeps every stop of the machine of a service since the machine was made,
reset or given a program, and so every unknown word that it has executed. Both memories are the
last of these (`Service.Remembers`): steps add to both alike (`Machine.diagnostics_run`,
`Service.remember_keepLast`), and whatever starts the machine anew empties both, but a program that
is refused empties neither (`Service.Remembers.perform`). The document of a service shows what it
remembers, each word with the notation of data (`Diagnostic.line_of_unrecognized`).
-/

set_option autoImplicit false

namespace Cosmac

/-! ### The last elements of a list -/

section KeepLast

variable {α : Type} {limit : Nat}

/-- Whether a list consists of the last elements of another, as many as there are up to a limit. -/
def IsLast (limit : Nat) (all kept : List α) : Prop :=
  kept <:+ all ∧ kept.length = min limit all.length

theorem isLast_keepLast (all : List α) : IsLast limit all (keepLast limit all) := by
  refine ⟨List.drop_suffix _ _, ?_⟩
  rw [keepLast, List.length_drop]
  omega

/-- What has been forgotten makes no difference later. -/
theorem keepLast_append (first later : List α) :
    keepLast limit (keepLast limit first ++ later) = keepLast limit (first ++ later) := by
  have hforgotten : first.length - limit ≤ first.length := Nat.sub_le _ _
  unfold keepLast
  rw [← List.drop_append_of_le_length hforgotten, List.drop_drop]
  congr 1
  simp only [List.length_drop, List.length_append]
  omega

end KeepLast

/-! ### Machines -/

namespace Machine

variable {m : Machine} {events : List Diagnostic}

/-- The unknown word that a machine executes in its next step, if it executes one. -/
def unknownWord? (m : Machine) : Option Diagnostic :=
  if m.fault = none ∧ m.fetch.isRecognized = false then some ⟨m.pc, m.fetch⟩ else none

theorem isRecognized_of_unknownWord? {event : Diagnostic} (hevent : m.unknownWord? = some event) :
    event.word.isRecognized = false := by
  unfold unknownWord? at hevent
  split_ifs at hevent with hunknown
  cases hevent
  exact hunknown.2

/-- A step reports an unknown word, and nothing else. -/
theorem reported_step (m : Machine) : m.step.1.diagnostics = m.unknownWord?.toList := by
  unfold unknownWord? Word.isRecognized
  generalize hresult : m.step = result
  cases step_cases hresult with
  | refused hhalted => simp [Outcome.diagnostics, hhalted]
  | reported hrunning hdecode => simp [Outcome.diagnostics, hrunning, hdecode]
  | completed hrunning hdecode | faulted hrunning hdecode =>
    simp [Outcome.diagnostics, hdecode]

/-- A step remembers what it reports. -/
theorem remembered_step (m : Machine) :
    m.step.2.diagnostics = m.diagnostics ∧ m.step.1.diagnostics = [] ∨
      ∃ event, m.step.1.diagnostics = [event] ∧
        m.step.2.diagnostics = keepLast diagnosticLimit (m.diagnostics ++ [event]) := by
  generalize hresult : m.step = result
  cases step_cases hresult with
  | refused | faulted => exact .inl ⟨rfl, rfl⟩
  | reported => exact .inr ⟨_, rfl, rfl⟩
  | completed _ _ hexecute =>
    obtain ⟨-, -, -, -, hdiagnostics⟩ := records_of_execute hexecute
    exact .inl ⟨hdiagnostics, rfl⟩

theorem diagnostics_step (hlog : m.diagnostics = keepLast diagnosticLimit events) :
    m.step.2.diagnostics = keepLast diagnosticLimit (events ++ m.unknownWord?.toList) := by
  rw [← reported_step]
  obtain ⟨hkept, hsilent⟩ | ⟨event, hreported, hkept⟩ := m.remembered_step
  · rw [hkept, hsilent, List.append_nil, hlog]
  · rw [hkept, hreported, hlog, keepLast_append]

/-- The unknown words that are executed at stops. -/
def unknownWords (stops : List Machine) : List Diagnostic :=
  stops.filterMap unknownWord?

theorem unknownWords_append (first later : List Machine) :
    unknownWords (first ++ later) = unknownWords first ++ unknownWords later :=
  List.filterMap_append

theorem unknownWords_singleton (m : Machine) : unknownWords [m] = m.unknownWord?.toList := by
  rw [unknownWords, List.filterMap_cons]
  cases m.unknownWord? <;> rfl

/-- A run remembers the unknown words at its stops. -/
theorem diagnostics_run (hlog : m.diagnostics = keepLast diagnosticLimit events) (count : Nat) :
    (m.run count).2.diagnostics =
      keepLast diagnosticLimit (events ++ unknownWords (m.stops count)) := by
  let Remembered (t : Trail) : Prop :=
    t.machine.diagnostics = keepLast diagnosticLimit (events ++ unknownWords t.stops)
  have hstart : Remembered ⟨m, []⟩ := hlog.trans (congrArg _ (List.append_nil events).symm)
  refine Trail.run_of_step (P := Remembered) (fun t ht ↦ ?_) count hstart
  show t.machine.step.2.diagnostics = _
  rw [diagnostics_step ht, unknownWords_append, unknownWords_singleton, List.append_assoc]

/-- The unknown words at stops are what the steps there report. -/
theorem unknownWords_eq (stops : List Machine) :
    unknownWords stops =
      (stops.map fun stop ↦ stop.step.1).flatMap Outcome.diagnostics := by
  induction stops with
  | nil => rfl
  | cons stop rest ih =>
    have hsplit : unknownWords (stop :: rest) = unknownWords [stop] ++ unknownWords rest :=
      unknownWords_append [stop] rest
    rw [hsplit, unknownWords_singleton, ih, ← reported_step, List.map_cons, List.flatMap_cons]

end Machine

/-! ### Services -/

namespace Service

variable {s : Service} {machine : Machine} {action : ServiceAction} {events : List Diagnostic}

/-- The machines that are about to take a step, in an action. -/
def stopsOf (s : Service) : ServiceAction → List Machine
  | .step =>
    match s.available? with
    | some machine => if machine.halted then [] else [machine]
    | none => []
  | .pass runner _ =>
    match s.machine with
    | some machine => if s.runRequested then machine.stops runner.batchSize else []
    | none => []
  | _ => []

/-- The outcomes of an action are those of the steps at its stops. -/
theorem outcomesOf_eq (s : Service) (action : ServiceAction) :
    s.outcomesOf action = (s.stopsOf action).map fun stop ↦ stop.step.1 := by
  unfold outcomesOf stopsOf
  cases action with
  | step =>
    dsimp only
    cases s.available? with
    | none => rfl
    | some machine =>
      dsimp only
      split_ifs <;> rfl
  | pass runner now =>
    dsimp only
    cases s.machine with
    | none => rfl
    | some machine =>
      dsimp only
      split_ifs
      · exact machine.outcomes_run runner.batchSize
      · rfl
  | _ => rfl

/-- A service remembers what the steps report. -/
theorem remember_keepLast (events : List Diagnostic) (outcomes : List Outcome) :
    remember (keepLast diagnosticLimit events) outcomes =
      keepLast diagnosticLimit (events ++ outcomes.flatMap Outcome.diagnostics) := by
  induction outcomes generalizing events with
  | nil => rw [List.flatMap_nil, List.append_nil, remember, List.foldl_nil]
  | cons outcome rest ih =>
    have hnext : remember (keepLast diagnosticLimit events) (outcome :: rest) =
        remember (keepLast diagnosticLimit (events ++ outcome.diagnostics)) rest := by
      rcases outcome with ⟨word, _ | event⟩ | fault | fault
      case executed.some =>
        show remember (keepLast diagnosticLimit (keepLast diagnosticLimit events ++ [event])) rest =
          remember (keepLast diagnosticLimit (events ++ [event])) rest
        rw [keepLast_append]
      all_goals
        show remember (keepLast diagnosticLimit events) rest =
          remember (keepLast diagnosticLimit (events ++ [])) rest
        rw [List.append_nil]
    rw [hnext, ih, List.flatMap_cons, List.append_assoc]

/-- A machine that is made for a service is one that is switched on. -/
theorem available?_of_vacant (hvacant : s.machine = none) (hmachine : s.available? = some machine) :
    ∃ (program : Program) (source : ByteSource),
      machine = .powerOn program .screen .idle source := by
  unfold available? ensureMachine newMachine at hmachine
  rw [hvacant] at hmachine
  cases hbytes : s.initialProgram with
  | error cause =>
    rw [hbytes] at hmachine
    cases hmachine
  | ok bytes =>
    rw [hbytes] at hmachine
    cases hmade : Machine.ofConfig bytes s.config with
    | error cause =>
      simp only [hmade, reduceCtorEq] at hmachine
    | ok fresh =>
      simp only [hmade, Option.some.injEq] at hmachine
      subst hmachine
      exact Machine.eq_powerOn_of_ofConfig hmade

/-- What a service and its machine remember of unknown words. Without a machine there are none. -/
structure Remembers (s : Service) (events : List Diagnostic) : Prop where
  /-- The machine remembers the last. -/
  machine : ∀ machine, s.machine = some machine →
    machine.diagnostics = keepLast Cosmac.diagnosticLimit events
  /-- The service remembers the last. -/
  service : s.diagnostics = keepLast diagnosticLimit events
  /-- There are none without a machine. -/
  vacant : s.machine = none → events = []

namespace Remembers

theorem ofConfig (config : Config) (files : Files) (programFile : Option String) :
    (Service.ofConfig config files programFile).Remembers [] := by
  refine ⟨fun machine hmachine ↦ ?_, rfl, fun _ ↦ rfl⟩
  cases hmachine

/-- The machine that a service works with remembers the last, also if it is a new one. -/
theorem of_available (hevents : s.Remembers events) (hmachine : s.available? = some machine) :
    machine.diagnostics = keepLast Cosmac.diagnosticLimit events := by
  obtain hnone | ⟨held, hsome⟩ := s.machine.eq_none_or_eq_some
  · obtain ⟨program, source, rfl⟩ := available?_of_vacant hnone hmachine
    rw [hevents.vacant hnone]
    rfl
  · cases hmachine.symm.trans (available?_eq hsome)
    exact hevents.machine machine hsome

end Remembers

/-- The unknown words since the machine was started last, when an action follows that does some work
and leaves a service behind. A service without a machine has none. -/
def unknownWordsAfter (events : List Diagnostic) (work : Work) (after : Service) :
    List Diagnostic :=
  if after.machine = none then []
  else (if work.starts then [] else events) ++ work.outcomes.flatMap Outcome.diagnostics

namespace Remembers

/-- A service remembers nothing of a machine that starts. -/
theorem of_started (events : List Diagnostic) {after : Service}
    (hmachine : ∀ held, after.machine = some held → held.diagnostics = [])
    (hservice : after.diagnostics = []) :
    after.Remembers (unknownWordsAfter events (.idle true) after) := by
  have hnone : unknownWordsAfter events (.idle true) after = [] := by
    show (if after.machine = none then [] else []) = []
    exact ite_self []
  rw [hnone]
  exact ⟨hmachine, hservice, fun _ ↦ rfl⟩

/-- Assumes an action that starts a machine only where there is none. What its steps report is added
to the unknown words so far. -/
theorem next (hevents : s.Remembers events) {work : Work} {after : Service}
    (hstarts : work.starts = true → s.machine = none)
    (hafter : after.machine = none → s.machine = none ∧ work.outcomes = [])
    (hmachine : ∀ held, after.machine = some held → held.diagnostics =
      keepLast Cosmac.diagnosticLimit (events ++ work.outcomes.flatMap Outcome.diagnostics))
    (hservice : after.diagnostics =
      keepLast diagnosticLimit (events ++ work.outcomes.flatMap Outcome.diagnostics)) :
    after.Remembers (unknownWordsAfter events work after) := by
  have hkept : (if work.starts then [] else events) = events := by
    split_ifs with hfresh
    · exact (hevents.vacant (hstarts hfresh)).symm
    · rfl
  have hall : unknownWordsAfter events work after =
      events ++ work.outcomes.flatMap Outcome.diagnostics := by
    unfold unknownWordsAfter
    rw [hkept]
    split_ifs with hnone
    · obtain ⟨hvacant, hidle⟩ := hafter hnone
      rw [hevents.vacant hvacant, hidle]
      rfl
    · rfl
  exact ⟨hall ▸ hmachine, hall ▸ hservice, fun hnone ↦ if_pos hnone⟩

/-- Assumes also that it takes no steps. -/
theorem next_of_idle (hevents : s.Remembers events) {starts : Bool} {after : Service}
    (hstarts : starts = true → s.machine = none)
    (hafter : after.machine = none → s.machine = none)
    (hmachine : ∀ held, after.machine = some held →
      held.diagnostics = keepLast Cosmac.diagnosticLimit events)
    (hservice : after.diagnostics = s.diagnostics) :
    after.Remembers (unknownWordsAfter events (.idle starts) after) := by
  have hnothing : events ++ (Work.idle starts).outcomes.flatMap Outcome.diagnostics = events :=
    List.append_nil events
  refine hevents.next hstarts (fun hnone ↦ ⟨hafter hnone, rfl⟩) ?_ ?_
  · rwa [hnothing]
  · rw [hnothing, hservice, hevents.service]

/-- A run remembers what its steps report. -/
theorem diagnostics_run (hevents : s.Remembers events) (hmachine : s.machine = some machine)
    (size : Nat) :
    (machine.run size).2.diagnostics = keepLast Cosmac.diagnosticLimit
      (events ++ (machine.run size).1.flatMap Outcome.diagnostics) := by
  rw [Machine.diagnostics_run (hevents.machine machine hmachine), Machine.unknownWords_eq,
    Machine.outcomes_run]

theorem perform (hevents : s.Remembers events) (action : ServiceAction) :
    (s.perform action).Remembers
      (unknownWordsAfter events (s.workOf action) (s.perform action)) := by
  have hcase := perform_cases s action
  have hremember (outcomes : List Outcome) : remember s.diagnostics outcomes =
      keepLast diagnosticLimit (events ++ outcomes.flatMap Outcome.diagnostics) := by
    rw [hevents.service, remember_keepLast]
  generalize s.workOf action = work, s.perform action = after at hcase ⊢
  cases hcase with
  | kept | paused => exact hevents.next_of_idle nofun id hevents.machine rfl
  | @keyed _ machine _ hmachine =>
    refine hevents.next_of_idle Option.isNone_iff_eq_none.mp nofun (fun held hheld ↦ ?_) rfl
    cases hheld
    have hlog : machine.diagnostics = keepLast Cosmac.diagnosticLimit events :=
      hevents.of_available hmachine
    exact hlog
  | ran hmachine =>
    refine hevents.next_of_idle Option.isNone_iff_eq_none.mp nofun (fun held hheld ↦ ?_) rfl
    cases hheld
    exact hevents.of_available hmachine
  | shutDown => exact ⟨nofun, rfl, fun _ ↦ rfl⟩
  | stepped hmachine =>
    refine hevents.next Option.isNone_iff_eq_none.mp nofun (fun held hheld ↦ ?_) (hremember _)
    cases hheld
    rw [Machine.diagnostics_step (hevents.of_available hmachine), ← Machine.reported_step,
      List.flatMap_singleton]
  | reset | loaded =>
    refine of_started events (fun held hheld ↦ ?_) rfl
    exact (congrArg Machine.diagnostics (Option.some.inj hheld)).symm
  | halted hrequest hmachine | stalled hrequest hmachine =>
    refine hevents.next nofun nofun (fun held hheld ↦ ?_) (hremember _)
    cases hheld
    exact hevents.diagnostics_run hmachine _
  | completed hrequest hmachine =>
    refine hevents.next nofun nofun (fun held hheld ↦ ?_) (hremember _)
    cases hheld
    rw [Machine.afterTicks_eq]
    exact hevents.diagnostics_run hmachine _

end Remembers

end Service

/-! ### Trails of services -/

/-- A service and the way that its machine has come. -/
structure ServiceTrail where
  /-- The service. -/
  service : Service
  /-- The machines that were about to take a step, since the machine of the service was made, reset
  or given a program last. -/
  stops : List Machine

namespace ServiceTrail

/-- Nothing has happened to a service yet. -/
def start (s : Service) : ServiceTrail :=
  ⟨s, []⟩

/-- The trail after an action. A service that has given its machine up begins a new one. -/
def perform (past : ServiceTrail) (action : ServiceAction) : ServiceTrail where
  service := past.service.perform action
  stops :=
    if (past.service.perform action).machine = none then []
    else (if (past.service.workOf action).starts then [] else past.stops) ++
      past.service.stopsOf action

/-- The trail after actions one after the other. -/
def performAll (past : ServiceTrail) (actions : List ServiceAction) : ServiceTrail :=
  actions.foldl perform past

/-- The unknown words that the machine has executed, in order. -/
def unknownWords (past : ServiceTrail) : List Diagnostic :=
  Machine.unknownWords past.stops

theorem service_perform (past : ServiceTrail) (action : ServiceAction) :
    (past.perform action).service = past.service.perform action :=
  rfl

theorem unknownWords_perform (past : ServiceTrail) (action : ServiceAction) :
    (past.perform action).unknownWords = Service.unknownWordsAfter past.unknownWords
      (past.service.workOf action) (past.service.perform action) := by
  have hreported : (past.service.workOf action).outcomes.flatMap Outcome.diagnostics =
      Machine.unknownWords (past.service.stopsOf action) := by
    rw [Machine.unknownWords_eq, ← Service.outcomesOf_eq]
    rfl
  unfold unknownWords perform Service.unknownWordsAfter
  rw [hreported]
  split_ifs
  · rfl
  · rw [Machine.unknownWords_append]
    rfl
  · rw [Machine.unknownWords_append]

theorem remembers_performAll {past : ServiceTrail}
    (hpast : past.service.Remembers past.unknownWords) (actions : List ServiceAction) :
    (past.performAll actions).service.Remembers (past.performAll actions).unknownWords := by
  induction actions generalizing past with
  | nil => exact hpast
  | cons action rest ih =>
    have hnext := hpast.perform action
    rw [← unknownWords_perform] at hnext
    exact ih hnext

end ServiceTrail

/-! ### Documents -/

/-- The line of an unknown word shows it as data. -/
theorem Diagnostic.line_of_unrecognized {event : Diagnostic}
    (hword : event.word.isRecognized = false) :
    event.line =
      event.message ++ " (DW 0x" ++ Numeral.hexadecimal 4 event.word.toNat ++ ")" := by
  have hdecode : Instruction.decode? event.word = none := by
    rwa [Word.isRecognized, Option.isSome_eq_false_iff, Option.isNone_iff_eq_none] at hword
  have hmnemonic : event.word.mnemonic =
      "DW 0x" ++ Numeral.hexadecimal 4 event.word.toNat := by
    rw [Word.mnemonic, Word.mnemonicChars, hdecode]
    show String.ofList ("DW 0x".toList ++ Numeral.hexDigits 4 event.word.toNat) = _
    rw [String.ofList_append, String.ofList_toList]
    rfl
  rw [line, hmnemonic]
  simp only [String.append_assoc]
  rfl

/-- The document of a service shows the unknown words that it remembers. -/
theorem Service.diagnostics_of_view {s : Service} {view : ServiceView}
    (hview : s.view.1 = .ok view) :
    view.document.field? "diagnostics" =
      some (.list (s.diagnostics.map fun event ↦ .text event.line)) := by
  cases hmachine : s.available? with
  | none =>
    obtain ⟨cause, hfailed⟩ := view_of_unavailable hmachine
    rw [hfailed] at hview
    cases hview
  | some machine =>
    rw [view_of_available hmachine] at hview
    cases hview
    rfl

namespace ServiceTrail

/-- Assumes a new service and any actions. Its machine, if there is one, remembers the last 64 of
the unknown words that it has executed since it was made, reset or given a program, in order, and
the service remembers the last 16 of them. The document of the service, if it can be shown, has a
line for each of these: the wording of the diagnostic and behind it the word as data. -/
theorem diagnostics_are_last (config : Config) (files : Files) (programFile : Option String)
    (actions : List ServiceAction) :
    let past := (start (.ofConfig config files programFile)).performAll actions
    (∀ machine, past.service.machine = some machine →
      IsLast 64 past.unknownWords machine.diagnostics) ∧
    IsLast 16 past.unknownWords past.service.diagnostics ∧
    ∀ view, past.service.view.1 = .ok view →
      view.document.field? "diagnostics" = some (.list (past.service.diagnostics.map fun event ↦
        .text (event.message ++ " (DW 0x" ++ Numeral.hexadecimal 4 event.word.toNat ++ ")"))) := by
  intro past
  have hpast : past.service.Remembers past.unknownWords :=
    remembers_performAll (.ofConfig config files programFile) actions
  have hlast : IsLast 16 past.unknownWords past.service.diagnostics := by
    rw [hpast.service]
    exact isLast_keepLast past.unknownWords
  refine ⟨fun machine hmachine ↦ ?_, hlast, fun view hview ↦ ?_⟩
  · rw [hpast.machine machine hmachine]
    exact isLast_keepLast past.unknownWords
  · rw [Service.diagnostics_of_view hview]
    refine congrArg (some ∘ Json.list) (List.map_congr_left fun event hevent ↦ ?_)
    obtain ⟨stop, -, hstop⟩ := List.mem_filterMap.mp (hlast.1.mem hevent)
    rw [Diagnostic.line_of_unrecognized (Machine.isRecognized_of_unknownWord? hstop)]

/-- A program that begins with data. -/
def data : Program :=
  ⟨#[0x51, 0x21], by decide⟩

/-- A machine with the program. -/
def dataMachine : Machine :=
  .powerOn data .screen .idle .silent

/-- A new service is given the program. -/
def supplied : ServiceTrail :=
  (start (.ofConfig .standard ⟨[], []⟩ none)).perform (.load data.bytes)

theorem service_supplied :
    supplied.service = { Service.ofConfig .standard ⟨[], []⟩ none with
      machine := some dataMachine } :=
  rfl

theorem step_dataMachine : dataMachine.step.1 = .executed 0x5121 (some ⟨0x200, 0x5121⟩) := by
  have hfetch : dataMachine.fetch = 0x5121 := by
    rw [dataMachine, Machine.fetch_powerOn]
    decide
  have hdecode : Instruction.decode? dataMachine.fetch = none := by
    rw [hfetch]
    rfl
  rw [Machine.step_of_unknown rfl hdecode, hfetch]
  rfl

theorem service_step_supplied :
    (supplied.perform .step).service = { supplied.service with
      machine := some dataMachine.step.2
      diagnostics := [⟨0x200, 0x5121⟩] } := by
  have hmachine : supplied.service.available? = some dataMachine :=
    Service.available?_eq (congrArg Service.machine service_supplied)
  have hempty : supplied.service.diagnostics = [] :=
    congrArg Service.diagnostics service_supplied
  rw [service_perform, Service.perform_step_of_running hmachine rfl, step_dataMachine, hempty]
  rfl

/-- A service is given a program that begins with data, and takes a step. -/
theorem diagnostics_are_last_of_data :
    let past := (start (.ofConfig .standard ⟨[], []⟩ none)).performAll [.load data.bytes, .step]
    ∃ view, past.service.view.1 = .ok view ∧ view.document.field? "diagnostics" =
      some (.list [.text "Unknown instruction 0x5121 at 0x200 (DW 0x5121)"]) := by
  intro past
  obtain ⟨-, -, hshown⟩ :=
    diagnostics_are_last .standard ⟨[], []⟩ none [.load data.bytes, .step]
  have hmachine : past.service.machine = some dataMachine.step.2 :=
    congrArg Service.machine service_step_supplied
  have hremembered : past.service.diagnostics = [⟨0x200, 0x5121⟩] :=
    congrArg Service.diagnostics service_step_supplied
  have hview := congrArg Prod.fst (Service.view_of_available (Service.available?_eq hmachine))
  refine ⟨_, hview, ?_⟩
  rw [hshown _ hview, hremembered]
  rfl

end ServiceTrail

end Cosmac
