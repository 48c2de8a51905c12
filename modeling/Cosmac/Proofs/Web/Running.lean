import Cosmac.Proofs.Service.Running
import Cosmac.Proofs.Web.Refusal

/-!
# Running on request

`Web.SiteEvent` is what can happen to a site: a request is answered, or the runner does what it does
between two waits. Each event asks the service for one action at most, and a step only where the
runner does not run, so that the service stays coherent whatever happens (`Service.Coherent.grant`).
The site then runs exactly while its runner has been asked to, never with a halted machine, and a
machine that a fault has halted rests until it is started anew (`Web.Site.runs_exactly_on_request`).
-/

set_option autoImplicit false

namespace Cosmac

/-! ### Granted actions -/

/-- Whether an action can happen to the service of a site: it neither names a file nor gives the
machine up. -/
def ServiceAction.isOfSite : ServiceAction → Bool
  | .loadFile _ | .shutDown => false
  | _ => true

namespace Service

variable {s : Service} {machine : Machine} {action : ServiceAction}

/-- A step is granted unless the runner runs, and any other action always. -/
theorem granted_cases (s : Service) (action : ServiceAction) :
    (s.granted action = action ∧ (action = .step → s.isRunning = false)) ∨
      (s.granted action = .view ∧ action = .step) := by
  by_cases hstep : action = .step
  · subst hstep
    by_cases hrunning : s.isRunning = true
    · exact Or.inr ⟨if_pos hrunning, rfl⟩
    · exact Or.inl ⟨if_neg hrunning, fun _ ↦ Bool.eq_false_iff.mpr hrunning⟩
  · refine Or.inl ⟨?_, fun h ↦ absurd h hstep⟩
    cases action with
    | step => exact absurd rfl hstep
    | _ => rfl

theorem isRunning_of_granted (hstep : s.granted action = .step) : s.isRunning = false := by
  rcases s.granted_cases action with ⟨hgranted, hstopped⟩ | ⟨hgranted, -⟩
  · exact hstopped (hgranted.symm.trans hstep)
  · exact nomatch hgranted.symm.trans hstep

theorem restarts_granted (s : Service) (action : ServiceAction) :
    s.restarts (s.granted action) = s.restarts action := by
  rcases s.granted_cases action with ⟨hgranted, -⟩ | ⟨hgranted, rfl⟩ <;> rw [hgranted]
  rfl

theorem granted_ne {other : ServiceAction} (haction : action ≠ other) (hview : .view ≠ other) :
    s.granted action ≠ other := by
  rcases s.granted_cases action with ⟨hgranted, -⟩ | ⟨hgranted, -⟩ <;> rw [hgranted]
  · exact haction
  · exact hview

/-- Whether a service is new: nothing has happened to it, except perhaps that it has made its
machine. -/
inductive IsNew : Service → Prop
  | vacant (config : Config) (files : Files) (programFile : Option String) :
      IsNew (ofConfig config files programFile)
  | equipped {config : Config} {files : Files} {programFile : Option String} {machine : Machine}
      {s : Service} (hmade : (ofConfig config files programFile).ensureMachine = .ok (machine, s)) :
      IsNew s

theorem IsNew.coherent (hnew : s.IsNew) : s.Coherent := by
  cases hnew with
  | vacant => exact .of_stopped rfl rfl
  | equipped hmade =>
    rw [ensureMachine] at hmade
    dsimp only [ofConfig] at hmade
    split at hmade <;> cases hmade
    exact .of_stopped rfl rfl

theorem Coherent.grant (hs : s.Coherent) (asked : Option ServiceAction) :
    (s.grant asked).Coherent := by
  cases asked with
  | none => exact hs
  | some action => exact hs.perform isRunning_of_granted

end Service

namespace Web

/-! ### Events -/

/-- What can happen to a site. -/
inductive SiteEvent where
  /-- A request is answered. -/
  | request (request : Request)
  /-- The runner, with whatever it keeps for itself, does what it does between two waits. -/
  | pass (runner : Runner) (now : Reading)

namespace SiteEvent

/-- The action that an event asks the service for. -/
def asked : SiteEvent → Option ServiceAction
  | request given => given.asked
  | pass runner now => some (.pass runner now)

/-- Whether an event starts the machine anew: it is a reset or a program that fits. -/
def IsRestart (event : SiteEvent) : Prop :=
  event.asked = some .reset ∨
    ∃ bytes : Array UInt8, event.asked = some (.load bytes) ∧ bytes.size ≤ maxProgramSize

end SiteEvent

namespace Site

/-- The site after an event. -/
def handle (site : Site) : SiteEvent → Site
  | .request request => (site.respond request).2
  | .pass runner now => { site with service := (runner.pass site.service now).2.2 }

/-- The site after events one after the other. -/
def handleAll (site : Site) (events : List SiteEvent) : Site :=
  events.foldl handle site

/-- What an event does with the machine of a site. -/
def workOf (site : Site) (event : SiteEvent) : Work :=
  event.asked.elim (.idle false) fun action ↦ site.service.workOf (site.service.granted action)

end Site

theorem isOfSite_of_askedOfChange {key name : Json} {action : ServiceAction}
    (hasked : Api.askedOfChange key name = some action) : action.isOfSite = true := by
  unfold Api.askedOfChange at hasked
  split at hasked <;> cases hasked <;> rfl

theorem isOfSite_of_askedOfCommand {name : Json} {action : ServiceAction}
    (hasked : Api.askedOfCommand name = some action) : action.isOfSite = true := by
  unfold Api.askedOfCommand at hasked
  split at hasked <;> cases hasked <;> rfl

theorem Endpoint.isOfSite_of_asked {endpoint : Endpoint} {request : Request}
    {action : ServiceAction} (hasked : endpoint.asked request = some action) :
    action.isOfSite = true := by
  cases endpoint with
  | state =>
    cases hasked
    rfl
  | screen =>
    unfold Endpoint.asked at hasked
    dsimp only at hasked
    split at hasked <;> cases hasked
    rfl
  | key =>
    obtain ⟨fields, -, hkey⟩ := Option.bind_eq_some_iff.mp hasked
    unfold Api.askedOfKey at hkey
    split at hkey
    case h_4 => exact isOfSite_of_askedOfChange hkey
    all_goals cases hkey
  | control =>
    obtain ⟨fields, -, hcommand⟩ := Option.bind_eq_some_iff.mp hasked
    exact isOfSite_of_askedOfCommand hcommand
  | program =>
    unfold Endpoint.asked at hasked
    dsimp only at hasked
    split at hasked <;> cases hasked
    rfl
  | asset => cases hasked

namespace SiteEvent

variable {event : SiteEvent} {action : ServiceAction}

theorem isOfSite_of_asked (hasked : event.asked = some action) : action.isOfSite = true := by
  cases event with
  | request given =>
    have hgiven : given.asked = some action := hasked
    unfold Request.asked at hgiven
    split at hgiven
    · split at hgiven
      · split at hgiven
        · cases hgiven
        · exact Endpoint.isOfSite_of_asked hgiven
      · cases hgiven
    · cases hgiven
  | pass =>
    cases hasked
    rfl

theorem restarts_eq_false (s : Service) (hasked : event.asked = some action)
    (hrestart : ¬ event.IsRestart) : s.restarts action = false := by
  have haction := isOfSite_of_asked hasked
  cases action with
  | reset => exact absurd (Or.inl hasked) hrestart
  | load bytes =>
    refine decide_eq_false fun hfits ↦ hrestart ?_
    exact Or.inr ⟨bytes, hasked, hfits⟩
  | loadFile => cases haction
  | _ => rfl

end SiteEvent

/-! ### Runs of events -/

namespace Site

variable {site : Site} {machine : Machine}

/-- An event is the action that it asks for, if it is granted. -/
theorem handle_eq (site : Site) (event : SiteEvent) :
    site.handle event = { site with service := site.service.grant event.asked } := by
  cases event with
  | request given => exact site.respond_service given
  | pass => rfl

theorem coherent_handleAll (hs : site.service.Coherent) (events : List SiteEvent) :
    (site.handleAll events).service.Coherent := by
  induction events generalizing site with
  | nil => exact hs
  | cons event rest ih =>
    have hnext : (site.handle event).service.Coherent := by
      rw [handle_eq]
      exact hs.grant event.asked
    exact ih hnext

/-- With a machine that a fault has halted, an event that does not start it anew takes no steps and
counts no timers down. -/
theorem holdsHalted_handle (hs : site.service.Coherent)
    (hhalted : site.service.HoldsHalted machine) {event : SiteEvent}
    (hrestart : ¬ event.IsRestart) :
    site.workOf event = .idle false ∧ (site.handle event).service.HoldsHalted machine := by
  rw [handle_eq, workOf]
  cases hasked : event.asked with
  | none => exact ⟨rfl, hhalted⟩
  | some action =>
    have hkeeps : action ≠ .shutDown := by
      rintro rfl
      exact nomatch SiteEvent.isOfSite_of_asked hasked
    refine hhalted.perform hs ?_ (Service.granted_ne hkeeps nofun)
    rw [Service.restarts_granted]
    exact SiteEvent.restarts_eq_false site.service hasked hrestart

theorem holdsHalted_handleAll (hs : site.service.Coherent)
    (hhalted : site.service.HoldsHalted machine) {events : List SiteEvent}
    (hrestart : ∀ event ∈ events, ¬ event.IsRestart) :
    (site.handleAll events).service.HoldsHalted machine := by
  induction events generalizing site with
  | nil => exact hhalted
  | cons event rest ih =>
    have hnext := (holdsHalted_handle hs hhalted (hrestart event List.mem_cons_self)).2
    refine ih (coherent_handleAll hs [event]) hnext fun later hlater ↦ ?_
    exact hrestart later (List.mem_cons_of_mem event hlater)

theorem runRequested_handleAll (hrequest : site.service.runRequested = false)
    {events : List SiteEvent} (hasks : ∀ event ∈ events, event.asked ≠ some .run) :
    (site.handleAll events).service.runRequested = false := by
  induction events generalizing site with
  | nil => exact hrequest
  | cons event rest ih =>
    have hnext : (site.handle event).service.runRequested = false := by
      rw [handle_eq]
      cases hasked : event.asked with
      | none => exact hrequest
      | some action =>
        refine Service.runRequested_perform hrequest (Service.granted_ne ?_ nofun)
        rintro rfl
        exact hasks event List.mem_cons_self hasked
    exact ih hnext fun later hlater ↦ hasks later (List.mem_cons_of_mem event hlater)

/-- A pass that nobody has asked for does nothing. -/
theorem pass_of_not_requested (hrequest : site.service.runRequested = false) (runner : Runner)
    (now : Reading) :
    (runner.pass site.service now).1 = .ok .idle ∧ site.handle (.pass runner now) = site ∧
      site.workOf (.pass runner now) = .idle false := by
  obtain ⟨hpass, hafter⟩ := Service.pass_of_idle runner now hrequest
  have hsame := congrArg (fun service ↦ { site with service := service }) hafter
  exact ⟨hpass, hsame, Service.workOf_pass_of_idle runner now hrequest⟩

/-- Assumes a new service, which may have made its machine, and any requests and passes of a runner
in any order. Then the service says that it is running exactly if its runner has been asked to run,
and a service that is running has a machine that is not halted. A pass that finds that nobody has
asked for it takes no steps, counts no timers down and changes nothing. If a fault has halted the
machine, no event takes a step or counts the timers down before one that starts the machine anew,
and whatever happens, a pass does nothing before a request to run. -/
theorem runs_exactly_on_request {s : Service} (hnew : s.IsNew) (policy : OriginPolicy)
    (events : List SiteEvent) :
    let site := Site.handleAll ⟨s, policy⟩ events
    site.service.isRunning = site.service.runRequested ∧
      (site.service.isRunning = true →
        ∃ held : Machine, site.service.machine = some held ∧ held.halted = false) ∧
      (site.service.runRequested = false → ∀ runner now,
        (runner.pass site.service now).1 = .ok .idle ∧ site.handle (.pass runner now) = site ∧
          site.workOf (.pass runner now) = .idle false) ∧
      ∀ held : Machine, site.service.machine = some held → held.halted = true →
        (∀ later : List SiteEvent, (∀ event ∈ later, ¬ event.IsRestart) →
          (∃ keypad, (site.handleAll later).service.machine =
            some { held with keypad := keypad }) ∧
          ∀ event : SiteEvent, ¬ event.IsRestart →
            (site.handleAll later).workOf event = .idle false) ∧
        ∀ later : List SiteEvent, (∀ event ∈ later, event.asked ≠ some .run) →
          ∀ runner now, (site.handleAll later).workOf (.pass runner now) = .idle false := by
  intro site
  have hs : site.service.Coherent := coherent_handleAll hnew.coherent events
  refine ⟨hs.agrees, fun hrunning ↦ ?_, pass_of_not_requested, fun held hheld hfault ↦ ?_⟩
  · obtain ⟨held, hheld, hfault⟩ := hs.sound hrunning
    exact ⟨held, hheld, by rw [Machine.halted, hfault]; rfl⟩
  have hhalted : site.service.HoldsHalted held := ⟨hfault, held.keypad, hheld⟩
  refine ⟨fun later hrestart ↦ ?_, fun later hasks runner now ↦ ?_⟩
  · have hlater := holdsHalted_handleAll hs hhalted hrestart
    refine ⟨hlater.2, fun event hevent ↦ ?_⟩
    exact (holdsHalted_handle (coherent_handleAll hs later) hlater hevent).1
  · have hrequest := runRequested_handleAll (hhalted.runRequested hs) hasks
    exact (pass_of_not_requested hrequest runner now).2.2

/-! ### A program that halts its machine -/

/-- A request to replace the program by one that begins with a return. -/
def returnRequest : Request :=
  ⟨"POST", ⟨"", Target.usualHost, "/api/v1/program", "/api/v1/program", []⟩, none, [0x00, 0xEE],
    none⟩

theorem asked_returnRequest : returnRequest.asked = some (.load #[0x00, 0xEE]) := by
  have hreaches : returnRequest.Reaches .program :=
    ⟨by cbv, by decide, by cbv, by cbv, rfl⟩
  exact hreaches.asked_eq

theorem asked_runRequest : runRequest.asked = some .run := by
  rw [reaches_runRequest.asked_eq]
  show (Api.fieldsOf? runRequest.content).bind Api.askedOfControl = _
  rw [fieldsOf?_runRequest]
  rfl

theorem run_returnMachine :
    returnMachine.run 1 = ([.faulted ⟨.empty, 0x200, 0x00EE⟩], haltedMachine) := by
  have hfetch : returnMachine.fetch = 0x00EE := by
    rw [returnMachine, Machine.fetch, Machine.read_powerOn, Machine.read_powerOn]
    decide
  have hdecode : Instruction.decode? returnMachine.fetch = some .ret := by rw [hfetch]; rfl
  have hexecute : returnMachine.execute .ret = .error .empty :=
    Machine.execute_error_iff.mpr (Or.inl ⟨rfl, rfl, rfl⟩)
  rw [Machine.run, Machine.step_of_execute_error rfl hdecode hexecute, hfetch]
  rfl

/-- The program is replaced and run until it halts the machine. -/
def haltingEvents : List SiteEvent :=
  [.request returnRequest, .request runRequest, .pass ⟨⟨.nothing, .nothing, none⟩, 1⟩ .nothing]

theorem handleAll_haltingEvents :
    demonstrationSite.handleAll haltingEvents =
      { demonstrationSite with service := demonstrationSite.service.holding haltedMachine } := by
  have hload : demonstrationSite.handle (.request returnRequest) =
      { demonstrationSite with service := demonstrationSite.service.holding returnMachine } := by
    rw [handle_eq, SiteEvent.asked, asked_returnRequest]
    rfl
  have hrun : handle { demonstrationSite with
        service := demonstrationSite.service.holding returnMachine } (.request runRequest) =
      { demonstrationSite with service := { demonstrationSite.service.holding returnMachine with
        isRunning := true
        runRequested := true } } := by
    rw [handle_eq, SiteEvent.asked, asked_runRequest]
    rfl
  have hsteps : ¬ (returnMachine.run 1).1.all Outcome.isExecuted = true := by
    rw [run_returnMachine]
    decide
  rw [handleAll, haltingEvents, List.foldl_cons, List.foldl_cons, List.foldl_cons, List.foldl_nil,
    hload, hrun, handle, Service.pass_of_requested _ _ rfl rfl, if_neg hsteps, Service.afterBatch,
    run_returnMachine]
  rfl

theorem runs_exactly_on_request_of_return :
    (demonstrationSite.handleAll haltingEvents).service.isRunning = false ∧
      ∀ event : SiteEvent, ¬ event.IsRestart →
        (demonstrationSite.handleAll haltingEvents).workOf event = .idle false := by
  have hnew : demonstrationSite.service.IsNew := .equipped ensureMachine_demonstration
  have hruns := runs_exactly_on_request hnew .closed haltingEvents
  rw [show (⟨demonstrationSite.service, .closed⟩ : Site) = demonstrationSite from rfl,
    handleAll_haltingEvents] at hruns
  obtain ⟨-, -, -, hhalted⟩ := hruns
  rw [handleAll_haltingEvents]
  have hrests := (hhalted haltedMachine rfl rfl).1 [] (by simp)
  exact ⟨rfl, hrests.2⟩

end Site

end Web

end Cosmac
