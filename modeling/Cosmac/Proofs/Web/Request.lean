import Cosmac.Proofs.Service.Action
import Cosmac.Web.Site

/-!
# What requests ask for

A request asks the service for one action at most (`Web.Request.asked`). Answering it is performing
that action (`Web.Site.respond_service`), but for a step, which is not taken while the runner takes
them anyway (`Service.granted`).
-/

set_option autoImplicit false

namespace Cosmac

namespace Web

/-! ### Asking -/

/-- The action that a change of a key asks for. -/
def Api.askedOfChange (key action : Json) : Option ServiceAction :=
  match action with
  | .text "press" => some (.press key)
  | .text "release" => some (.release key)
  | _ => none

/-- The action that the fields of a request about a key ask for. -/
def Api.askedOfKey (fields : List (String × Json)) : Option ServiceAction :=
  match lookupField? "key" fields with
  | none | some .null | some (.bool _) => none
  | some key => askedOfChange key ((lookupField? "action" fields).getD (.text "press"))

/-- The action that a command asks for. -/
def Api.askedOfCommand (name : Json) : Option ServiceAction :=
  match name with
  | .text "run" => some .run
  | .text "pause" => some .pause
  | .text "step" => some .step
  | .text "reset" => some .reset
  | _ => none

/-- The action that the fields of a request about a command ask for. -/
def Api.askedOfControl (fields : List (String × Json)) : Option ServiceAction :=
  askedOfCommand ((lookupField? "command" fields).getD .null)

/-- The action that a request asks a resource for. -/
def Endpoint.asked (endpoint : Endpoint) (request : Request) : Option ServiceAction :=
  match endpoint with
  | .state => some .view
  | .screen =>
    let zoom := Api.zoomOf request.target
    if 1 ≤ zoom ∧ zoom ≤ 32 then some .view else none
  | .key => (Api.fieldsOf? request.content).bind Api.askedOfKey
  | .control => (Api.fieldsOf? request.content).bind Api.askedOfControl
  | .program => if request.body.isEmpty then none else some (.load request.body.toArray)
  | .asset => none

/-- The action that a request asks for. -/
def Request.asked (request : Request) : Option ServiceAction :=
  if request.target.hasHost then
    match Endpoint.ofPath? request.target.path with
    | some endpoint =>
      if (Site.refusal? endpoint request).isSome ∨ request.methodName = "OPTIONS" then none
      else endpoint.asked request
    | none => none
  else none

end Web

/-- The action that a service performs for one that it is asked for. A step is not taken while the
runner takes them anyway. -/
def Service.granted (s : Service) : ServiceAction → ServiceAction
  | .step => if s.isRunning then .view else .step
  | action => action

/-- The service after it has been asked for an action, if it has. -/
def Service.grant (s : Service) (asked : Option ServiceAction) : Service :=
  asked.elim s fun action ↦ s.perform (s.granted action)

namespace Web

variable {s : Service} {machine : Machine}

/-! ### Answering -/

namespace Api

theorem service_showState (s : Service) : (showState s).2 = s.view.2 := by
  unfold showState
  split <;> (rename_i hview; rw [hview])

theorem service_picture (s : Service) (zoom : Quantity) : (s.picture zoom).2 = s.view.2 := by
  cases hmachine : s.available? with
  | none =>
    obtain ⟨_, hpicture⟩ := Service.onMachine_of_unavailable hmachine fun machine s ↦
      ((machine.screen.image zoom).mapError .image, s)
    obtain ⟨_, hview⟩ := Service.view_of_unavailable hmachine
    exact (congrArg Prod.snd hpicture).trans (congrArg Prod.snd hview).symm
  | some machine =>
    rw [Service.picture, Service.onMachine_of_available hmachine,
      Service.view_of_available hmachine]

theorem service_showScreen (target : Target) (s : Service) :
    (showScreen target s).2 =
      s.grant (if 1 ≤ zoomOf target ∧ zoomOf target ≤ 32 then some .view else none) := by
  unfold showScreen
  by_cases hzoom : 1 ≤ zoomOf target ∧ zoomOf target ≤ 32
  · rw [if_pos hzoom, if_pos hzoom]
    show _ = s.view.2
    rw [← service_picture s (.whole (zoomOf target))]
    split <;> (rename_i hpicture; rw [hpicture])
  · rw [if_neg hzoom, if_neg hzoom]
    rfl

theorem service_changeKey (key action : Json) (s : Service) :
    (changeKey key action s).2 = s.grant (askedOfChange key action) := by
  unfold changeKey
  split
  case h_1 => rfl
  case h_2 => rfl
  case h_3 hpress hrelease =>
    have hasked : askedOfChange key action = none := by
      unfold askedOfChange
      split
      · exact absurd rfl hpress
      · exact absurd rfl hrelease
      · rfl
    rw [hasked]
    rfl

theorem service_handleKey (fields : List (String × Json)) (s : Service) :
    (handleKey fields s).2 = s.grant (askedOfKey fields) := by
  unfold handleKey askedOfKey
  rcases lookupField? "key" fields with _ | key
  · rfl
  · cases key with
    | null => rfl
    | bool flag => rfl
    | _ => exact service_changeKey _ _ s

theorem service_haltedResponse (s : Service) : (haltedResponse s).2 = s.view.2 := by
  unfold haltedResponse
  split <;> (rename_i hview; rw [hview])

theorem service_unlessHalted (status : String) (s : Service)
    (act : Machine → Service → Service) :
    (unlessHalted status (s.onMachine fun machine s ↦
      if machine.halted then (.ok false, s) else (.ok true, act machine s))).2 =
    (s.onMachine fun machine s ↦
      if machine.halted then (.ok false, s) else (.ok true, act machine s)).2 := by
  cases hmachine : s.available? with
  | none =>
    obtain ⟨cause, hfailed⟩ := Service.onMachine_of_unavailable hmachine fun machine s ↦
      if machine.halted then (.ok false, s) else (.ok true, act machine s)
    rw [hfailed]
    rfl
  | some machine =>
    rw [Service.onMachine_of_available hmachine]
    cases machine.halted with
    | true => exact service_haltedResponse (s.holding machine)
    | false => rfl

theorem service_stepOnce (s : Service) : (stepOnce s).2 = s.grant (some .step) := by
  unfold stepOnce Service.grant Service.granted
  cases hmachine : s.available? with
  | none =>
    obtain ⟨_, hview⟩ := Service.view_of_unavailable hmachine
    obtain ⟨_, hstep⟩ := Service.step_of_unavailable hmachine
    rw [hview]
    cases s.isRunning with
    | true => exact (congrArg Prod.snd hview).symm
    | false => exact (congrArg Prod.snd hstep).symm
  | some machine =>
    have hview := Service.view_of_available hmachine
    have hstep : (s.holding machine).step = s.step := by
      rw [Service.step_of_available hmachine, Service.step_of_available (Service.available?_eq rfl)]
      rfl
    rw [hview]
    by_cases hrunning : s.isRunning = true
    · rw [if_pos hrunning]
      simp only [hrunning, if_true]
      exact (congrArg Prod.snd hview).symm
    · rw [if_neg hrunning]
      simp only [hrunning]
      rw [if_neg (by decide), hstep]
      exact service_unlessHalted "stepped" s fun machine s ↦ (s.advance machine).2

theorem service_command (name : Json) (s : Service) :
    (command name s).2 = s.grant (askedOfCommand name) := by
  unfold command
  split
  case h_1 => exact service_unlessHalted "running" s fun _ s ↦
    { s with isRunning := true, runRequested := true }
  case h_2 => rfl
  case h_3 => exact service_stepOnce s
  case h_4 =>
    show _ = s.reset.2
    split <;> (rename_i hreset; rw [hreset])
  case h_5 hrun hpause hstep hreset =>
    have hasked : askedOfCommand name = none := by
      unfold askedOfCommand
      split
      · exact absurd rfl hrun
      · exact absurd rfl hpause
      · exact absurd rfl hstep
      · exact absurd rfl hreset
      · rfl
    rw [hasked]
    rfl

theorem service_handleControl (fields : List (String × Json)) (s : Service) :
    (handleControl fields s).2 = s.grant (askedOfControl fields) := by
  unfold handleControl askedOfControl
  by_cases hname : ((lookupField? "command" fields).getD .null).isTruthy = true
  · rw [if_pos hname]
    exact service_command _ s
  · rw [if_neg hname]
    have hasked : askedOfCommand ((lookupField? "command" fields).getD .null) = none := by
      unfold askedOfCommand
      split
      case h_5 => rfl
      all_goals exact absurd (by rename_i hcommand; rw [hcommand]; decide) hname
    rw [hasked]
    rfl

theorem service_upload (body : List UInt8) (s : Service) :
    (upload body s).2 = s.grant (if body.isEmpty then none else some (.load body.toArray)) := by
  unfold upload
  by_cases hempty : body.isEmpty = true
  · rw [if_pos hempty, if_pos hempty]
    rfl
  · rw [if_neg hempty, if_neg hempty]
    show _ = (s.load body.toArray).2
    split <;> (rename_i hload; rw [hload])

theorem service_withFields {request : Request}
    {answer : List (String × Json) → Response × Service}
    {asked : List (String × Json) → Option ServiceAction}
    (hanswer : ∀ fields, (answer fields).2 = s.grant (asked fields)) :
    (withFields request s answer).2 = s.grant ((fieldsOf? request.content).bind asked) := by
  unfold withFields
  cases fieldsOf? request.content with
  | none => rfl
  | some fields => exact hanswer fields

end Api

/-- A resource does what a request asks it for. -/
theorem Endpoint.service_answer (endpoint : Endpoint) (request : Request) (s : Service) :
    (endpoint.answer request s).2 = s.grant (endpoint.asked request) := by
  cases endpoint with
  | state => exact Api.service_showState s
  | screen => exact Api.service_showScreen request.target s
  | key => exact Api.service_withFields fun fields ↦ Api.service_handleKey fields s
  | control => exact Api.service_withFields fun fields ↦ Api.service_handleControl fields s
  | program => exact Api.service_upload request.body s
  | asset => rfl

/-! ### The site -/

theorem Endpoint.asked_of_not_post {endpoint : Endpoint} {request : Request}
    (hposts : endpoint.methods.contains "POST" = false) :
    endpoint.asked request = none ∨ endpoint.asked request = some .view := by
  cases endpoint with
  | state => exact Or.inr rfl
  | screen =>
    unfold Endpoint.asked
    dsimp only
    split
    · exact Or.inr rfl
    · exact Or.inl rfl
  | asset => exact Or.inl rfl
  | key | control | program => exact absurd hposts (by decide)

/-- A request by another method than `POST` asks for nothing but to be shown the service. -/
theorem Request.asked_of_not_post {request : Request} (hmethod : request.methodName ≠ "POST") :
    request.asked = none ∨ request.asked = some .view := by
  unfold Request.asked
  split
  · split
    · rename_i endpoint _
      split
      · exact Or.inl rfl
      · rename_i hanswers
        refine Endpoint.asked_of_not_post (Bool.eq_false_iff.mpr fun hposts ↦ hanswers ?_)
        by_cases hoptions : request.methodName = "OPTIONS"
        · exact Or.inr hoptions
        · refine Or.inl ?_
          have hmethods : endpoint.methods = ["POST", "OPTIONS"] := by
            cases endpoint with
            | key | control | program => rfl
            | state | screen | asset => exact absurd hposts (by decide)
          rw [Site.refusal?, hmethods, if_pos (by simp [hmethod, hoptions])]
          rfl
    · exact Or.inl rfl
  · exact Or.inl rfl

/-- Whether a request reaches a resource, which then answers it. -/
structure Request.Reaches (request : Request) (endpoint : Endpoint) : Prop where
  /-- Its host can be looked up. -/
  host : request.target.hasHost = true
  /-- Its path is that of the resource. -/
  path : Endpoint.ofPath? request.target.path = some endpoint
  /-- The resource has its method. -/
  method : endpoint.methods.contains request.methodName = true
  /-- It does not ask for the methods of the resource. -/
  plain : request.methodName ≠ "OPTIONS"
  /-- It keeps no conversation open. -/
  closes : request.target.staysOpen = false

namespace Request.Reaches

variable {request : Request} {endpoint : Endpoint} (hreaches : request.Reaches endpoint)

include hreaches

theorem refusal?_eq_none : Site.refusal? endpoint request = none := by
  rw [Site.refusal?, hreaches.method, hreaches.closes]
  rfl

theorem asked_eq : request.asked = endpoint.asked request := by
  rw [Request.asked, if_pos hreaches.host, hreaches.path]
  dsimp only
  rw [hreaches.refusal?_eq_none, if_neg (by simp [hreaches.plain])]

theorem respondHere_eq (s : Service) :
    Site.respondHere request s = endpoint.answer request s := by
  rw [Site.respondHere, hreaches.path]
  dsimp only
  rw [Site.respondAt, hreaches.refusal?_eq_none]
  exact if_neg hreaches.plain

end Request.Reaches

namespace Site

theorem service_respondHere (request : Request) (s : Service)
    (hhost : request.target.hasHost = true) :
    (respondHere request s).2 = s.grant request.asked := by
  rw [respondHere, Request.asked, if_pos hhost]
  cases Endpoint.ofPath? request.target.path with
  | none => rfl
  | some endpoint =>
    dsimp only
    rw [respondAt]
    cases refusal? endpoint request with
    | some response => rfl
    | none =>
      dsimp only
      by_cases hoptions : request.methodName = "OPTIONS"
      · rw [if_pos hoptions, if_pos (Or.inr hoptions)]
        rfl
      · rw [if_neg hoptions, if_neg (by simp [hoptions])]
        exact endpoint.service_answer request s

/-- To answer a request is to perform the action that it asks for, if it is granted. -/
theorem respond_service (site : Site) (request : Request) :
    (site.respond request).2 = { site with service := site.service.grant request.asked } := by
  rw [respond]
  by_cases hhost : request.target.hasHost = true
  · rw [if_pos hhost, ← service_respondHere request site.service hhost]
  · rw [if_neg hhost, Request.asked, if_neg hhost]
    rfl

end Site

end Web

end Cosmac
