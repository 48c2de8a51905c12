import Cosmac.Proofs.Web.Request
import Cosmac.Proofs.Web.Status

/-!
# Requests that change nothing

A request is refused if its response has the status 400 or 409. Each resource refuses exactly the
requests with a flaw that it looks for (`Web.Endpoint.HasFlaw`), and where it refuses it leaves the
service as it is (`Web.RefusesIf`): a flaw of a key (`Web.Api.KeyFlaw`), of a command
(`Web.Api.CommandFlaw`), of a program (`Web.Api.ProgramFlaw`) or of a zoom. Requests by another
method than `POST` only look at the service.
-/

set_option autoImplicit false

namespace Cosmac.Web

/-- Whether a request that is answered with this response is refused. -/
def Response.IsRefusal (response : Response) : Prop :=
  response.status ∈ [400, 409]

/-- Whether an answer refuses exactly the requests with a flaw, and leaves the service as it is if
it does. -/
structure RefusesIf (flaw : Prop) (s : Service) (answer : Response × Service) : Prop where
  /-- A request is refused exactly if it has the flaw. -/
  refuses : answer.1.IsRefusal ↔ flaw
  /-- A request that is refused changes nothing. -/
  spares : answer.1.IsRefusal → answer.2 = s

namespace RefusesIf

variable {flaw other : Prop} {s : Service} {answer : Response × Service}

theorem of_refused (hflaw : flaw) (hrefused : answer.1.IsRefusal) (hsame : answer.2 = s) :
    RefusesIf flaw s answer :=
  ⟨iff_of_true hrefused hflaw, fun _ ↦ hsame⟩

theorem of_accepted (hflaw : ¬ flaw) (haccepted : ¬ answer.1.IsRefusal) :
    RefusesIf flaw s answer :=
  ⟨iff_of_false haccepted hflaw, fun h ↦ absurd h haccepted⟩

theorem of_iff (hrefuses : RefusesIf flaw s answer) (hother : other ↔ flaw) :
    RefusesIf other s answer :=
  ⟨hrefuses.refuses.trans hother.symm, hrefuses.spares⟩

end RefusesIf

namespace Api

theorem isRefusal_badRequest (message : String) : (Response.badRequest message).IsRefusal :=
  List.mem_cons_self

theorem not_isRefusal_ok (fields : List (String × Json)) :
    ¬ (Response.ofFields 200 fields).IsRefusal :=
  show ¬ 200 ∈ [400, 409] by decide

theorem not_isRefusal_failure : ¬ Response.internalError.IsRefusal :=
  show ¬ 500 ∈ [400, 409] by decide

variable {s : Service} {machine : Machine} {fields : List (String × Json)}

/-! ### Keys -/

/-- What is wrong with a request to change a key. -/
inductive KeyFlaw (map : KeyMap) (fields : List (String × Json)) : Prop
  /-- It names no key. -/
  | missing (hkey : lookupField? "key" fields = none ∨ lookupField? "key" fields = some .null ∨
      ∃ flag, lookupField? "key" fields = some (.bool flag))
  /-- It asks neither to press nor to release it. -/
  | action (haction : (lookupField? "action" fields).getD (.text "press") ∉
      [.text "press", .text "release"])
  /-- There is no such key, for a reason that can be told. -/
  | unknown {key : Json} {cause : KeyError} (hkey : lookupField? "key" fields = some key)
      (hcause : Key.resolve map key = .error cause) (habout : cause.isAboutKey = true)

theorem refusesIf_onKey (verb : String) (hmachine : s.machine = some machine) (key : Json)
    (change : Keypad → Key → Keypad) :
    RefusesIf (∃ cause, Key.resolve s.keyMap key = .error cause ∧ cause.isAboutKey = true) s
      (keyResponse verb (s.onKey key change).1, (s.onKey key change).2) := by
  unfold Service.onKey
  cases hkey : Key.resolve s.keyMap key with
  | error cause =>
    cases habout : cause.isAboutKey with
    | true =>
      refine .of_refused ⟨cause, rfl, habout⟩ ?_ rfl
      simp only [keyResponse, habout, if_true]
      exact isRefusal_badRequest _
    | false =>
      refine .of_accepted ?_ ?_
      · rintro ⟨other, hother, htold⟩
        cases hother
        cases habout.symm.trans htold
      · simp only [keyResponse, habout]
        exact not_isRefusal_failure
  | ok key =>
    simp only [Service.onMachine_eq hmachine]
    refine .of_accepted ?_ (not_isRefusal_ok _)
    rintro ⟨cause, hcause, -⟩
    cases hcause

theorem refusesIf_changeKey (hmachine : s.machine = some machine) (key action : Json) :
    RefusesIf (action ∉ [.text "press", .text "release"] ∨
      ∃ cause, Key.resolve s.keyMap key = .error cause ∧ cause.isAboutKey = true) s
      (changeKey key action s) := by
  unfold changeKey
  split
  case h_1 =>
    have hknown : ¬ Json.text "press" ∉ [Json.text "press", .text "release"] := by simp
    exact (refusesIf_onKey "pressed" hmachine key Keypad.press).of_iff (or_iff_right hknown)
  case h_2 =>
    have hknown : ¬ Json.text "release" ∉ [Json.text "press", .text "release"] := by simp
    exact (refusesIf_onKey "released" hmachine key Keypad.release).of_iff (or_iff_right hknown)
  case h_3 hpress hrelease =>
    refine .of_refused (Or.inl fun hknown ↦ ?_) (isRefusal_badRequest _) rfl
    rcases List.mem_cons.mp hknown with haction | haction
    · exact hpress haction
    · exact hrelease (List.mem_singleton.mp haction)

theorem refusesIf_handleKey (hmachine : s.machine = some machine)
    (fields : List (String × Json)) :
    RefusesIf (KeyFlaw s.keyMap fields) s (handleKey fields s) := by
  unfold handleKey
  split
  case h_1 hkey => exact .of_refused (.missing (Or.inl hkey)) (isRefusal_badRequest _) rfl
  case h_2 hkey =>
    exact .of_refused (.missing (Or.inr (Or.inl hkey))) (isRefusal_badRequest _) rfl
  case h_3 hkey =>
    exact .of_refused (.missing (Or.inr (Or.inr ⟨_, hkey⟩))) (isRefusal_badRequest _) rfl
  case h_4 key hnull hflag hkey =>
    refine (refusesIf_changeKey hmachine key _).of_iff ⟨fun hflaw ↦ ?_, fun hflaw ↦ ?_⟩
    · cases hflaw with
      | missing hmissing =>
        rw [hkey] at hmissing
        rcases hmissing with hnone | hsome | ⟨flag, hsome⟩
        · cases hnone
        · exact absurd (Option.some.inj hsome) hnull
        · exact absurd (Option.some.inj hsome) (hflag flag)
      | action haction => exact Or.inl haction
      | unknown hother hcause habout =>
        cases hkey.symm.trans hother
        exact Or.inr ⟨_, hcause, habout⟩
    · rcases hflaw with haction | ⟨cause, hcause, habout⟩
      · exact .action haction
      · exact .unknown hkey hcause habout

/-! ### Commands -/

/-- What is wrong with a request to carry out a command. -/
inductive CommandFlaw (s : Service) (machine : Machine) (name : Json) : Prop
  /-- It names no command. -/
  | missing (hname : name.isTruthy = false)
  /-- There is no such command. -/
  | unknown (hname : name ∉ [.text "run", .text "pause", .text "step", .text "reset"])
  /-- It asks a machine to run that a fault has halted. -/
  | run (hname : name = .text "run") (hhalted : machine.halted = true)
  /-- It asks a machine for a step that a fault has halted. -/
  | step (hname : name = .text "step") (hhalted : machine.halted = true)
      (hstopped : s.isRunning = false)

/-- The flaws of a command that there is. -/
theorem CommandFlaw.of_known {name : Json} (hflaw : CommandFlaw s machine name)
    (hknown : name ∈ [.text "run", .text "pause", .text "step", .text "reset"]) :
    machine.halted = true ∧
      (name = .text "run" ∨ name = .text "step" ∧ s.isRunning = false) := by
  cases hflaw with
  | missing hname =>
    have htruthy : ∀ known ∈ [Json.text "run", .text "pause", .text "step", .text "reset"],
        known.isTruthy = true := by decide
    rw [htruthy name hknown] at hname
    cases hname
  | unknown hname => exact absurd hknown hname
  | run hname hhalted => exact ⟨hhalted, Or.inl hname⟩
  | step hname hhalted hstopped => exact ⟨hhalted, Or.inr ⟨hname, hstopped⟩⟩

theorem haltedResponse_eq (hmachine : s.machine = some machine) :
    (haltedResponse s).1.IsRefusal ∧ (haltedResponse s).2 = s := by
  rw [haltedResponse, Service.view, Service.onMachine_eq hmachine]
  exact ⟨List.mem_cons_of_mem _ List.mem_cons_self, rfl⟩

theorem refusesIf_unlessHalted (status : String) (hmachine : s.machine = some machine)
    {later : Service} :
    RefusesIf (machine.halted = true) s (unlessHalted status
      (if machine.halted then (.ok false, s) else (.ok true, later))) := by
  cases machine.halted with
  | true => exact .of_refused rfl (haltedResponse_eq hmachine).1 (haltedResponse_eq hmachine).2
  | false => exact .of_accepted nofun (not_isRefusal_ok _)

theorem refusesIf_stepOnce (hmachine : s.machine = some machine) :
    RefusesIf (machine.halted = true ∧ s.isRunning = false) s (stepOnce s) := by
  rw [stepOnce, Service.view, Service.onMachine_eq hmachine]
  dsimp only
  cases hrunning : s.isRunning with
  | true =>
    refine .of_accepted ?_ (not_isRefusal_ok _)
    rintro ⟨-, hstopped⟩
    cases hstopped
  | false =>
    rw [if_neg (by decide), Service.step, Service.onMachine_eq hmachine]
    exact (refusesIf_unlessHalted "stepped" hmachine).of_iff (and_iff_left rfl)

theorem refusesIf_command (hmachine : s.machine = some machine) (name : Json) :
    RefusesIf (CommandFlaw s machine name) s (command name s) := by
  unfold command
  split
  case h_1 =>
    rw [Service.run, Service.onMachine_eq hmachine]
    refine (refusesIf_unlessHalted "running" hmachine).of_iff ⟨fun hflaw ↦ ?_, .run rfl⟩
    exact (hflaw.of_known List.mem_cons_self).1
  case h_2 =>
    refine .of_accepted (fun hflaw ↦ ?_) (not_isRefusal_ok _)
    exact absurd (hflaw.of_known (by simp)).2 (by simp)
  case h_3 =>
    refine (refusesIf_stepOnce hmachine).of_iff ⟨fun hflaw ↦ ?_, fun h ↦ .step rfl h.1 h.2⟩
    obtain ⟨hhalted, hname⟩ := hflaw.of_known (by simp)
    exact ⟨hhalted, (hname.resolve_left (by simp)).2⟩
  case h_4 =>
    rw [Service.reset, Service.onMachine_eq hmachine]
    refine .of_accepted (fun hflaw ↦ ?_) (not_isRefusal_ok _)
    exact absurd (hflaw.of_known (by simp)).2 (by simp)
  case h_5 hrun hpause hstep hreset =>
    refine .of_refused (.unknown ?_) (isRefusal_badRequest _) rfl
    simp only [List.mem_cons, List.not_mem_nil, or_false, not_or]
    exact ⟨hrun, hpause, hstep, hreset⟩

theorem refusesIf_handleControl (hmachine : s.machine = some machine)
    (fields : List (String × Json)) :
    RefusesIf (CommandFlaw s machine ((lookupField? "command" fields).getD .null)) s
      (handleControl fields s) := by
  unfold handleControl
  dsimp only
  split
  · exact refusesIf_command hmachine _
  · rename_i hfalsy
    exact .of_refused (.missing (Bool.eq_false_iff.mpr hfalsy)) (isRefusal_badRequest _) rfl

theorem refusesIf_withFields {request : Request}
    {answer : List (String × Json) → Response × Service} {flaw : List (String × Json) → Prop}
    (hanswer : ∀ fields, RefusesIf (flaw fields) s (answer fields)) :
    RefusesIf (∃ fields, fieldsOf? request.content = some fields ∧ flaw fields) s
      (withFields request s answer) := by
  unfold withFields
  cases fieldsOf? request.content with
  | none =>
    refine .of_accepted ?_ not_isRefusal_failure
    rintro ⟨fields, hfields, -⟩
    cases hfields
  | some fields =>
    refine (hanswer fields).of_iff ⟨?_, fun hflaw ↦ ⟨fields, rfl, hflaw⟩⟩
    rintro ⟨other, hother, hflaw⟩
    cases hother
    exact hflaw

/-! ### Programs -/

/-- What is wrong with a program that is to replace the one that runs. -/
inductive ProgramFlaw (body : List UInt8) : Prop
  /-- It is empty. -/
  | empty (hbody : body = [])
  /-- It does not fit into memory. -/
  | tooLarge (hbody : maxProgramSize < body.length)

theorem refusesIf_upload (hmachine : s.machine = some machine) (body : List UInt8) :
    RefusesIf (ProgramFlaw body) s (upload body s) := by
  unfold upload
  by_cases hempty : body.isEmpty = true
  · rw [if_pos hempty]
    exact .of_refused (.empty (List.isEmpty_iff.mp hempty)) (isRefusal_badRequest _) rfl
  rw [if_neg hempty, Service.load, Service.onMachine_eq hmachine, Machine.load, Program.ofBytes]
  by_cases hfits : body.toArray.size ≤ maxProgramSize
  · rw [dif_pos hfits]
    refine .of_accepted (fun hflaw ↦ ?_) (not_isRefusal_ok _)
    cases hflaw with
    | empty hbody => exact hempty (List.isEmpty_iff.mpr hbody)
    | tooLarge hbody => exact absurd hfits (Nat.not_le_of_lt hbody)
  · rw [dif_neg hfits]
    exact .of_refused (.tooLarge (Nat.lt_of_not_le hfits)) (isRefusal_badRequest _) rfl

/-! ### Pictures -/

theorem refusesIf_showScreen (hmachine : s.machine = some machine) (target : Target) :
    RefusesIf (¬ (1 ≤ zoomOf target ∧ zoomOf target ≤ 32)) s (showScreen target s) := by
  unfold showScreen
  by_cases hzoom : 1 ≤ zoomOf target ∧ zoomOf target ≤ 32
  · rw [if_pos hzoom, Service.picture, Service.onMachine_eq hmachine]
    refine .of_accepted (not_not_intro hzoom) ?_
    cases machine.screen.image (.whole (zoomOf target)) with
    | ok image => exact not_isRefusal_ok []
    | error cause => exact not_isRefusal_failure
  · rw [if_neg hzoom]
    exact .of_refused hzoom (isRefusal_badRequest _) rfl

end Api

/-! ### The site -/

/-- What is wrong with a request that reaches a resource. -/
def Endpoint.HasFlaw (endpoint : Endpoint) (s : Service) (machine : Machine) (request : Request) :
    Prop :=
  match endpoint with
  | .state | .asset => False
  | .screen => ¬ (1 ≤ Api.zoomOf request.target ∧ Api.zoomOf request.target ≤ 32)
  | .key => ∃ fields, Api.fieldsOf? request.content = some fields ∧ Api.KeyFlaw s.keyMap fields
  | .control => ∃ fields, Api.fieldsOf? request.content = some fields ∧
      Api.CommandFlaw s machine ((lookupField? "command" fields).getD .null)
  | .program => Api.ProgramFlaw request.body

variable {s : Service} {machine : Machine} {request : Request}

theorem Endpoint.refusesIf_answer (hmachine : s.machine = some machine) (endpoint : Endpoint)
    (request : Request) :
    RefusesIf (endpoint.HasFlaw s machine request) s (endpoint.answer request s) := by
  cases endpoint with
  | state =>
    refine .of_accepted not_false ?_
    show ¬ (Api.showState s).1.IsRefusal
    rw [Api.showState, Service.view, Service.onMachine_eq hmachine]
    exact Api.not_isRefusal_ok []
  | screen => exact Api.refusesIf_showScreen hmachine request.target
  | key => exact Api.refusesIf_withFields (Api.refusesIf_handleKey hmachine)
  | control => exact Api.refusesIf_withFields (Api.refusesIf_handleControl hmachine)
  | program => exact Api.refusesIf_upload hmachine request.body
  | asset => exact .of_accepted not_false (show ¬ 404 ∈ [400, 409] by decide)

namespace Site

variable {site : Site}

theorem respondHere_spares (hmachine : s.machine = some machine)
    (hrefused : (respondHere request s).1.IsRefusal) : (respondHere request s).2 = s := by
  revert hrefused
  rw [respondHere]
  cases Endpoint.ofPath? request.target.path with
  | none => exact fun _ ↦ rfl
  | some endpoint =>
    dsimp only
    rw [respondAt]
    cases refusal? endpoint request with
    | some response => exact fun _ ↦ rfl
    | none =>
      dsimp only
      split
      · exact fun _ ↦ rfl
      · exact (endpoint.refusesIf_answer hmachine request).spares

theorem respond_of_refused (hmachine : site.service.machine = some machine)
    (hrefused : (site.respond request).1.IsRefusal) : (site.respond request).2 = site := by
  rw [Response.IsRefusal, respond_status] at hrefused
  rw [respond]
  by_cases hhost : request.target.hasHost = true
  · rw [if_pos hhost] at hrefused ⊢
    have hsame := respondHere_spares hmachine hrefused
    exact congrArg (fun service ↦ { site with service := service }) hsame
  · rw [if_neg hhost]

theorem respond_of_reading (hmachine : site.service.machine = some machine)
    (hmethod : request.methodName ≠ "POST") : (site.respond request).2 = site := by
  rw [respond_service]
  rcases Request.asked_of_not_post hmethod with hnone | hview
  · rw [hnone]
    rfl
  · rw [hview, Service.grant, Option.elim_some]
    simp only [Service.granted, Service.perform, Service.view, Service.onMachine_eq hmachine]

theorem isRefusal_iff_hasFlaw (hmachine : site.service.machine = some machine)
    {endpoint : Endpoint} (hreaches : request.Reaches endpoint) :
    (site.respond request).1.IsRefusal ↔ endpoint.HasFlaw site.service machine request := by
  rw [Response.IsRefusal, respond_status, if_pos hreaches.host, hreaches.respondHere_eq]
  exact (endpoint.refusesIf_answer hmachine request).refuses

/-- Assumes a service that has a machine. A request by another method than `POST`, such as a `GET`,
and one that is answered with the status 400 or 409, leaves the site as it is: the machine with its
keypad, the diagnostics, the tone and whether the service runs. Of the requests that reach a
resource, exactly those with a flaw are answered so. -/
theorem refused_request_changes_nothing (site : Site) {machine : Machine}
    (hmachine : site.service.machine = some machine) (request : Request) :
    (request.methodName ≠ "POST" ∨ (site.respond request).1.status ∈ [400, 409] →
      (site.respond request).2 = site) ∧
    ∀ endpoint : Endpoint, request.Reaches endpoint →
      ((site.respond request).1.status ∈ [400, 409] ↔
        endpoint.HasFlaw site.service machine request) := by
  refine ⟨fun hspared ↦ ?_, fun endpoint hreaches ↦ isRefusal_iff_hasFlaw hmachine hreaches⟩
  rcases hspared with hmethod | hrefused
  · exact respond_of_reading hmachine hmethod
  · exact respond_of_refused hmachine hrefused

/-! ### A machine that refuses to run -/

/-- A machine whose program begins with a return. -/
def returnMachine : Machine :=
  .powerOn ⟨#[0x00, 0xEE], by decide⟩ .screen .idle .silent

/-- The machine that its return has halted. -/
def haltedMachine : Machine :=
  { returnMachine with fault := some ⟨.empty, 0x200, 0x00EE⟩ }

/-- The document that names the command to run. -/
def runText : List Char :=
  "\x7b\"command\":\"run\"\x7d".toList

/-- A request with the command to run. -/
def runRequest : Request :=
  ⟨"POST", ⟨"", Target.usualHost, "/api/v1/control", "/api/v1/control", []⟩,
    some "application/json", runText.map fun c ↦ UInt8.ofNat c.toNat, none⟩

theorem fieldsOf?_runRequest :
    Api.fieldsOf? runRequest.content = some [("command", .text "run")] := by
  have hdecode : Text.decodeDocument? runRequest.body = some runText := by cbv
  have hparse : Json.parseChars contentNesting runText =
      .ok (.object [("command", .text "run")]) := by cbv
  rw [content_of_json rfl, contentOf, hdecode]
  dsimp only
  rw [hparse]
  rfl

theorem reaches_runRequest : runRequest.Reaches .control :=
  ⟨by cbv, by decide, by cbv, by cbv, rfl⟩

theorem refused_request_changes_nothing_of_halted :
    let site : Site := { demonstrationSite with
      service := demonstrationSite.service.holding haltedMachine }
    (site.respond runRequest).1.status ∈ [400, 409] ∧ (site.respond runRequest).2 = site := by
  intro site
  obtain ⟨hspares, hrefuses⟩ := refused_request_changes_nothing site (rfl : _ = some haltedMachine)
    runRequest
  have hstatus := (hrefuses .control reaches_runRequest).mpr
    ⟨_, fieldsOf?_runRequest, .run rfl rfl⟩
  exact ⟨hstatus, hspares (Or.inr hstatus)⟩

end Site

end Cosmac.Web
