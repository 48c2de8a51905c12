import Cosmac.Proofs.Json.Integers
import Cosmac.Proofs.Keypad.Precedence
import Cosmac.Proofs.Text.LowerCase
import Cosmac.Web.Site
import Mathlib

/-!
# Status codes

A request about a key or a command, whatever its body is, is answered with the status 200, 400 or
409 while the service has a machine, unless its document has no fields to look up or asks for a key
by a label that the configuration sends to a number too long to be shown: then the service itself
fails (`Web.Site.server_error_iff_unanswerable`). A list is such a document
(`Web.Site.server_error_of_list`). What a request gives itself can always be shown, as it has been
read from a document (`Web.Api.isPrintable_of_lookupField?`).
-/

set_option autoImplicit false

namespace Cosmac

/-! ### The service -/

namespace Service

variable {s : Service} {machine : Machine}

theorem isNumbered_keyMap (s : Service) : Key.IsNumbered s.keyMap := by
  rw [keyMap]
  split
  · exact Key.isNumbered_ofNumbers _
  · exact Key.isNumbered_ofNumbers _

theorem onMachine_eq {α : Type} (hmachine : s.machine = some machine)
    (act : Machine → Service → Except ServiceError α × Service) :
    s.onMachine act = act machine s := by
  rw [onMachine, ensureMachine, hmachine]

theorem onKey_eq (hmachine : s.machine = some machine) (key : Json)
    (change : Keypad → Key → Keypad) :
    (s.onKey key change).1 = (Key.resolve s.keyMap key).mapError .key := by
  rw [onKey]
  cases Key.resolve s.keyMap key with
  | error cause => rfl
  | ok key => exact congrArg Prod.fst (onMachine_eq hmachine _)

end Service

namespace Web

/-- Whether the status of a response is one of those that users are told. -/
def Response.IsRegular (response : Response) : Prop :=
  response.status = 200 ∨ response.status = 400 ∨ response.status = 409

/-- Whether a response is an internal error under a condition, and otherwise regular. -/
def FailsIf (condition : Prop) (response : Response) : Prop :=
  (condition → response.status = 500) ∧ (¬ condition → response.IsRegular)

theorem Response.IsRegular.failsIf {response : Response} (hregular : response.IsRegular)
    {condition : Prop} (hcondition : ¬ condition) : FailsIf condition response :=
  ⟨fun h ↦ absurd h hcondition, fun _ ↦ hregular⟩

theorem FailsIf.of_iff {condition other : Prop} {response : Response}
    (hfails : FailsIf condition response) (hother : other ↔ condition) : FailsIf other response :=
  ⟨fun h ↦ hfails.1 (hother.mp h), fun h ↦ hfails.2 fun hcondition ↦ h (hother.mpr hcondition)⟩

namespace Api

variable {s : Service} {machine : Machine}

/-! ### Key requests -/

theorem failsIf_keyResponse (verb : String) {map : KeyMap} (hmap : Key.IsNumbered map) {key : Json}
    (hshown : key.isPrintable = true) :
    FailsIf (∃ number, Key.StandsFor map key number ∧ Numeral.isPrintable number = false)
      (keyResponse verb ((Key.resolve map key).mapError .key)) := by
  have hregular (habout : ∀ cause, Key.resolve map key = .error cause → cause.isAboutKey = true) :
      (keyResponse verb ((Key.resolve map key).mapError .key)).IsRegular := by
    cases hkey : Key.resolve map key with
    | ok => exact Or.inl rfl
    | error cause =>
      refine Or.inr (Or.inl ?_)
      rw [Except.mapError, keyResponse, if_pos (habout cause hkey)]
      rfl
  refine ⟨fun ⟨number, hkey, hlong⟩ ↦ ?_, fun hshort ↦ hregular fun cause hcause ↦ ?_⟩
  · rw [Key.resolve_of_standsFor hkey, Key.ofInt_eq_unprintable hlong]
    rfl
  · by_cases hkey : ∃ number, Key.StandsFor map key number
    · obtain ⟨number, hkey⟩ := hkey
      rw [Key.resolve_of_standsFor hkey] at hcause
      refine Key.isAboutKey_of_ofInt ?_ hcause
      exact Bool.eq_true_of_not_eq_false fun hlong ↦ hshort ⟨number, hkey, hlong⟩
    · exact Key.isAboutKey_of_resolve hmap (not_exists.mp hkey) hshown hcause

theorem changeKey_press (hmachine : s.machine = some machine) (key : Json) :
    (changeKey key (.text "press") s).1 =
      keyResponse "pressed" ((Key.resolve s.keyMap key).mapError .key) :=
  congrArg (keyResponse "pressed") (Service.onKey_eq hmachine key Keypad.press)

theorem changeKey_release (hmachine : s.machine = some machine) (key : Json) :
    (changeKey key (.text "release") s).1 =
      keyResponse "released" ((Key.resolve s.keyMap key).mapError .key) :=
  congrArg (keyResponse "released") (Service.onKey_eq hmachine key Keypad.release)

theorem failsIf_changeKey (hmachine : s.machine = some machine) {key : Json}
    (hshown : key.isPrintable = true) (action : Json) :
    FailsIf (action ∈ [.text "press", .text "release"] ∧
      ∃ number, Key.StandsFor s.keyMap key number ∧ Numeral.isPrintable number = false)
      (changeKey key action s).1 := by
  have hchange {verb : String} (haction : action ∈ [.text "press", .text "release"])
      (hresponse : (changeKey key action s).1 =
        keyResponse verb ((Key.resolve s.keyMap key).mapError .key)) :
      FailsIf (action ∈ [.text "press", .text "release"] ∧
        ∃ number, Key.StandsFor s.keyMap key number ∧ Numeral.isPrintable number = false)
        (changeKey key action s).1 := by
    rw [hresponse]
    exact (failsIf_keyResponse verb s.isNumbered_keyMap hshown).of_iff (and_iff_right haction)
  by_cases hpress : action = .text "press"
  · subst hpress
    exact hchange List.mem_cons_self (changeKey_press hmachine key)
  by_cases hrelease : action = .text "release"
  · subst hrelease
    exact hchange (List.mem_cons_of_mem _ List.mem_cons_self) (changeKey_release hmachine key)
  · have hother : (changeKey key action s).1 =
        .badRequest ("Invalid action: " ++ action.plain) := by
      unfold changeKey
      split
      · exact absurd rfl hpress
      · exact absurd rfl hrelease
      · rfl
    rw [hother]
    refine Response.IsRegular.failsIf (Or.inr (Or.inl rfl)) fun h ↦ ?_
    rcases List.mem_cons.mp h.1 with haction | haction
    · exact hpress haction
    · exact hrelease (List.mem_singleton.mp haction)

/-- Whether fields ask to press or release a key by a label for which the map of the service holds a
number with too many digits to be shown. -/
def AsksForUnprintable (s : Service) (fields : List (String × Json)) : Prop :=
  ∃ (label : String) (number : Int), lookupField? "key" fields = some (.text label) ∧
    (lookupField? "action" fields).getD (.text "press") ∈ [.text "press", .text "release"] ∧
      Key.StandsFor s.keyMap (.text label) number ∧ Numeral.isPrintable number = false

/-- Assumes fields whose key can be shown. -/
theorem failsIf_handleKey (hmachine : s.machine = some machine) {fields : List (String × Json)}
    (hshown : ∀ key, lookupField? "key" fields = some key → key.isPrintable = true) :
    FailsIf (AsksForUnprintable s fields) (handleKey fields s).1 := by
  have hmissing (hkey : ∀ label, lookupField? "key" fields ≠ some (.text label)) :
      FailsIf (AsksForUnprintable s fields) (.badRequest "Missing key") :=
    Response.IsRegular.failsIf (Or.inr (Or.inl rfl)) fun ⟨label, _, hlabel, _⟩ ↦ hkey label hlabel
  unfold handleKey
  split
  case h_1 hnone => exact hmissing fun label hlabel ↦ nomatch hnone.symm.trans hlabel
  case h_2 hnull => exact hmissing fun label hlabel ↦ nomatch hnull.symm.trans hlabel
  case h_3 hflag => exact hmissing fun label hlabel ↦ nomatch hflag.symm.trans hlabel
  case h_4 key _ _ hkey =>
    refine (failsIf_changeKey hmachine (hshown key hkey) _).of_iff ⟨?_, ?_⟩
    · rintro ⟨label, number, hlabel, haction, hstands, hlong⟩
      cases hkey.symm.trans hlabel
      exact ⟨haction, number, hstands, hlong⟩
    · rintro ⟨haction, number, hstands, hlong⟩
      cases hstands with
      | number =>
        have hshort : Numeral.isPrintable number = true := by
          simpa only [Json.isPrintable] using hshown _ hkey
        rw [hshort] at hlong
        cases hlong
      | label hmarker hmapped =>
        exact ⟨_, number, hkey, haction, .label hmarker hmapped, hlong⟩

/-! ### Control requests -/

theorem isRegular_haltedResponse (hmachine : s.machine = some machine) :
    (haltedResponse s).1.IsRegular := by
  rw [haltedResponse, Service.view, Service.onMachine_eq hmachine]
  exact Or.inr (Or.inr rfl)

theorem isRegular_unlessHalted (status : String) (hmachine : s.machine = some machine)
    {later : Service} :
    (unlessHalted status
      (if machine.halted then (.ok false, s) else (.ok true, later))).1.IsRegular := by
  cases machine.halted with
  | true => exact isRegular_haltedResponse hmachine
  | false => exact Or.inl rfl

theorem isRegular_command (hmachine : s.machine = some machine) (name : Json) :
    (command name s).1.IsRegular := by
  unfold command
  split
  case h_1 =>
    rw [Service.run, Service.onMachine_eq hmachine]
    exact isRegular_unlessHalted "running" hmachine
  case h_2 => exact Or.inl rfl
  case h_3 =>
    rw [stepOnce, Service.view, Service.onMachine_eq hmachine]
    dsimp only
    split
    · exact Or.inl rfl
    · rw [Service.step, Service.onMachine_eq hmachine]
      exact isRegular_unlessHalted "stepped" hmachine
  case h_4 =>
    rw [Service.reset, Service.onMachine_eq hmachine]
    exact Or.inl rfl
  case h_5 => exact Or.inr (Or.inl rfl)

theorem isRegular_handleControl (hmachine : s.machine = some machine)
    (fields : List (String × Json)) : (handleControl fields s).1.IsRegular := by
  rw [handleControl]
  split
  · exact isRegular_command hmachine _
  · exact Or.inr (Or.inl rfl)

/-! ### Bodies -/

/-- Whether what a request carries has no fields to look up: it is nested too deeply to be read, or
a document that counts as true and is no object. -/
inductive HasNoFields : Content → Prop
  | unreadable : HasNoFields .unreadable
  | document {value : Json} (htruthy : value.isTruthy = true)
    (hother : ∀ fields, value ≠ .object fields) : HasNoFields (.document value)

theorem fieldsOf?_document {value : Json} (hother : ∀ fields, value ≠ .object fields) :
    fieldsOf? (.document value) = if value.isTruthy then none else some [] := by
  cases value with
  | object fields => exact absurd rfl (hother fields)
  | _ => rfl

theorem eq_object_of_fieldsOf? {value : Json} {fields : List (String × Json)}
    (hfields : fieldsOf? (.document value) = some fields) (hne : fields ≠ []) :
    value = .object fields := by
  by_cases hother : ∀ given, value ≠ .object given
  · rw [fieldsOf?_document hother] at hfields
    split at hfields <;> cases hfields
    exact absurd rfl hne
  · obtain ⟨given, hgiven⟩ := not_forall_not.mp hother
    rw [hgiven] at hfields ⊢
    exact congrArg Json.object (Option.some.inj hfields)

theorem fieldsOf?_eq_none_iff {content : Content} :
    fieldsOf? content = none ↔ HasNoFields content := by
  constructor
  · intro hnone
    cases content with
    | nothing => cases hnone
    | unreadable => exact .unreadable
    | document value =>
      have hother : ∀ fields, value ≠ .object fields := by
        rintro fields rfl
        cases hnone
      rw [fieldsOf?_document hother] at hnone
      cases htruthy : value.isTruthy with
      | true => exact .document htruthy hother
      | false =>
        rw [htruthy] at hnone
        cases hnone
  · intro hcontent
    cases hcontent with
    | unreadable => rfl
    | document htruthy hother => rw [fieldsOf?_document hother, if_pos htruthy]

theorem exists_of_content_eq_document {request : Request} {value : Json}
    (hvalue : request.content = .document value) :
    ∃ text : List Char, Json.parseChars contentNesting text = .ok value := by
  unfold Request.content contentOf at hvalue
  split at hvalue
  case h_2 => cases hvalue
  case h_1 =>
    split at hvalue
    case isFalse => cases hvalue
    case isTrue =>
      split at hvalue
      case h_1 => cases hvalue
      case h_2 text _ =>
        split at hvalue <;> cases hvalue
        rename_i hparse
        exact ⟨text, hparse⟩

/-- What the fields of a request hold can be shown. -/
theorem isPrintable_of_lookupField? {request : Request} {fields : List (String × Json)}
    (hfields : fieldsOf? request.content = some fields) {name : String} {held : Json}
    (hheld : lookupField? name fields = some held) : held.isPrintable = true := by
  have hentry := mem_of_lookupField? hheld
  have hempty : fields ≠ [] := List.ne_nil_of_mem hentry
  cases hcontent : request.content with
  | nothing =>
    rw [hcontent] at hfields
    exact absurd (Option.some.inj hfields).symm hempty
  | unreadable =>
    rw [hcontent] at hfields
    cases hfields
  | document value =>
    rw [hcontent] at hfields
    obtain ⟨text, hparse⟩ := exists_of_content_eq_document hcontent
    rw [eq_object_of_fieldsOf? hfields hempty] at hparse
    cases Json.hasIntegers_of_parseWithin hparse with
    | object hvalues =>
      exact Json.isPrintable_of_hasIntegers
        (fun _ hbound ↦ Numeral.isPrintable_iff.mpr (hbound 4300 rfl)) (hvalues _ hentry)

/-- A request whose document has fields is answered by way of them. -/
theorem failsIf_withFields {request : Request} {condition : List (String × Json) → Prop}
    {answer : List (String × Json) → Response × Service}
    (hanswer : ∀ fields, fieldsOf? request.content = some fields →
      FailsIf (condition fields) (answer fields).1) :
    FailsIf (HasNoFields request.content ∨
      ∃ fields, fieldsOf? request.content = some fields ∧ condition fields)
      (withFields request s answer).1 := by
  rw [← fieldsOf?_eq_none_iff, withFields]
  cases hfields : fieldsOf? request.content with
  | none => exact ⟨fun _ ↦ rfl, fun h ↦ absurd (Or.inl rfl) h⟩
  | some fields =>
    refine ⟨fun h ↦ ?_, fun h ↦ (hanswer fields hfields).2 fun hcondition ↦
      h (Or.inr ⟨fields, rfl, hcondition⟩)⟩
    obtain ⟨other, hother, hcondition⟩ := h.resolve_left nofun
    cases hother
    exact (hanswer fields hfields).1 hcondition

end Api

/-! ### The site -/

namespace Site

/-- Whether the service itself fails over a request: the request names a host, keeps no conversation
open, and has no fields to look up or asks for a key whose number is too long to be shown. -/
def IsUnanswerable (s : Service) (request : Request) : Prop :=
  request.target.hasHost = true ∧ request.target.staysOpen = false ∧
    (Api.HasNoFields request.content ∨
      ∃ fields, Api.fieldsOf? request.content = some fields ∧
        request.target.path = "/api/v1/key" ∧ Api.AsksForUnprintable s fields)

theorem withoutBody_status (method : String) (response : Response) :
    (withoutBody method response).status = response.status := by
  unfold withoutBody
  split <;> rfl

theorem respond_status (site : Site) (request : Request) :
    (site.respond request).1.status =
      if request.target.hasHost then (respondHere request site.service).1.status else 400 := by
  rw [respond]
  simp only [withoutBody_status]
  split <;> rfl

theorem respondHere_status {s : Service} {request : Request} {endpoint : Endpoint}
    (hmethod : request.methodName = "POST")
    (hendpoint : Endpoint.ofPath? request.target.path = some endpoint)
    (hposts : endpoint.methods.contains "POST" = true) :
    (respondHere request s).1.status =
      if request.target.staysOpen then 400 else (endpoint.answer request s).1.status := by
  rw [respondHere, hendpoint]
  dsimp only
  rw [respondAt, refusal?, hmethod, hposts]
  cases request.target.staysOpen <;> rfl

/-- What a request would have to carry for the resource at its path to fail. -/
theorem exists_endpoint {s : Service} {machine : Machine} {request : Request}
    (hmachine : s.machine = some machine)
    (hpath : request.target.path ∈ ["/api/v1/key", "/api/v1/control"]) :
    ∃ endpoint : Endpoint, Endpoint.ofPath? request.target.path = some endpoint ∧
      endpoint.methods.contains "POST" = true ∧
      FailsIf (Api.HasNoFields request.content ∨
        ∃ fields, Api.fieldsOf? request.content = some fields ∧
          request.target.path = "/api/v1/key" ∧ Api.AsksForUnprintable s fields)
        (endpoint.answer request s).1 := by
  rcases List.mem_cons.mp hpath with hkey | hpath
  · rw [hkey]
    refine ⟨.key, by decide, by decide, Api.failsIf_withFields fun fields hfields ↦ ?_⟩
    have hfails := Api.failsIf_handleKey hmachine fun key hkey ↦
      Api.isPrintable_of_lookupField? hfields hkey
    exact hfails.of_iff (and_iff_right rfl)
  · rw [List.mem_singleton.mp hpath]
    refine ⟨.control, by decide, by decide, Api.failsIf_withFields fun fields _ ↦ ?_⟩
    exact (Api.isRegular_handleControl hmachine fields).failsIf fun h ↦ absurd h.1 (by decide)

theorem failsIf_respond (site : Site) {request : Request} {machine : Machine}
    (hmachine : site.service.machine = some machine) (hmethod : request.methodName = "POST")
    (hpath : request.target.path ∈ ["/api/v1/key", "/api/v1/control"]) :
    FailsIf (IsUnanswerable site.service request) (site.respond request).1 := by
  obtain ⟨endpoint, hendpoint, hposts, hfails⟩ := exists_endpoint hmachine hpath
  have hstatus := site.respond_status request
  rw [respondHere_status hmethod hendpoint hposts] at hstatus
  cases hhost : request.target.hasHost with
  | false =>
    rw [hhost] at hstatus
    exact Response.IsRegular.failsIf (Or.inr (Or.inl hstatus)) fun h ↦
      absurd (hhost.symm.trans h.1) nofun
  | true =>
    cases hopen : request.target.staysOpen with
    | true =>
      rw [hhost, hopen] at hstatus
      exact Response.IsRegular.failsIf (Or.inr (Or.inl hstatus)) fun h ↦
        absurd (hopen.symm.trans h.2.1) nofun
    | false =>
      rw [hhost, hopen] at hstatus
      have hstatus : (site.respond request).1.status = _ := hstatus
      refine ⟨fun h ↦ hstatus.trans (hfails.1 h.2.2), fun h ↦ ?_⟩
      rw [Response.IsRegular, hstatus]
      exact hfails.2 fun hbody ↦ h ⟨hhost, hopen, hbody⟩

/-- Assumes a service that has a machine, and a request to change a key or to carry out a command,
with any body. The status is 500 exactly if the request is unanswerable, and otherwise 200, 400 or
409. -/
theorem server_error_iff_unanswerable (site : Site) {request : Request} {machine : Machine}
    (hmachine : site.service.machine = some machine) (hmethod : request.methodName = "POST")
    (hpath : request.target.path ∈ ["/api/v1/key", "/api/v1/control"]) :
    ((site.respond request).1.status = 500 ↔ IsUnanswerable site.service request) ∧
      (¬ IsUnanswerable site.service request →
        (site.respond request).1.status ∈ [200, 400, 409]) := by
  obtain ⟨hfails, hregular⟩ := failsIf_respond site hmachine hmethod hpath
  refine ⟨⟨fun herror ↦ ?_, hfails⟩, fun hanswerable ↦ ?_⟩
  · refine Classical.byContradiction fun hanswerable ↦ ?_
    rcases hregular hanswerable with hstatus | hstatus | hstatus <;>
      exact absurd (herror.symm.trans hstatus) (by decide)
  · rcases hregular hanswerable with hstatus | hstatus | hstatus <;> rw [hstatus] <;> decide

/-- The machine that runs the demonstration. -/
def demonstrationMachine : Machine :=
  .powerOn ⟨Service.demonstration, by decide⟩ .screen .idle .silent

/-- A site whose service runs the demonstration and whose responses nobody else may read. -/
def demonstrationSite : Site where
  service := { Service.ofConfig .standard ⟨[], []⟩ none with machine := some demonstrationMachine }
  policy := .closed

/-- The service of the site is a new one that has made its machine. -/
theorem ensureMachine_demonstration :
    (Service.ofConfig .standard ⟨[], []⟩ none).ensureMachine =
      .ok (demonstrationMachine, demonstrationSite.service) := by
  rfl

/-- A request about a key with a document. -/
def keyRequest (body : List UInt8) : Request :=
  ⟨"POST", ⟨"", Target.usualHost, "/api/v1/key", "/api/v1/key", []⟩, some "application/json", body,
    none⟩

theorem isDocumentType_json : isDocumentType "application/json" = true := by
  have hkind : String.ofList (Text.trimWhile (fun c ↦ c = ' ' || c = '\t')
      ("application/json".toList.takeWhile (· ≠ ';'))) = "application/json" := by cbv
  have hlower : Text.lowerCase "application/json" = "application/json" :=
    Text.lowerCase_eq (Text.isLower_of_all (by decide))
  unfold isDocumentType
  simp only [hkind, hlower, decide_true, Bool.true_or]

theorem content_of_json {request : Request}
    (htype : request.contentType = some "application/json") :
    request.content = contentOf request.body := by
  rw [Request.content, htype]
  exact if_pos isDocumentType_json

theorem content_keyRequest (body : List UInt8) : (keyRequest body).content = contentOf body :=
  content_of_json rfl

/-- The document `[1]` has no fields. -/
theorem hasNoFields_list : Api.HasNoFields (keyRequest [0x5B, 0x31, 0x5D]).content := by
  have hdecode : Text.decodeDocument? [0x5B, 0x31, 0x5D] = some ['[', '1', ']'] := by cbv
  have hparse : Json.parseChars contentNesting ['[', '1', ']'] = .ok (.list [.int 1]) := by rfl
  rw [content_keyRequest, contentOf, hdecode]
  simp only [hparse]
  exact .document rfl fun fields hobject ↦ by cases hobject

theorem methodName_keyRequest (body : List UInt8) : (keyRequest body).methodName = "POST" := by
  cbv

theorem hasHost_keyRequest (body : List UInt8) : (keyRequest body).target.hasHost = true := by
  cbv

theorem isUnanswerable_list :
    IsUnanswerable demonstrationSite.service (keyRequest [0x5B, 0x31, 0x5D]) :=
  ⟨hasHost_keyRequest _, rfl, Or.inl hasNoFields_list⟩

theorem not_isUnanswerable_empty :
    ¬ IsUnanswerable demonstrationSite.service (keyRequest []) := by
  have hcontent : (keyRequest []).content = .nothing := by
    rw [content_keyRequest]
    rfl
  rintro ⟨-, -, hnone | ⟨fields, hfields, -, label, number, hlabel, -⟩⟩
  · rw [hcontent] at hnone
    cases hnone
  · rw [hcontent] at hfields
    cases hfields
    cases hlabel

theorem server_error_iff_unanswerable_of_demonstration :
    (demonstrationSite.respond (keyRequest [0x5B, 0x31, 0x5D])).1.status = 500 ∧
      (demonstrationSite.respond (keyRequest [])).1.status ∈ [200, 400, 409] := by
  have hstatus (body : List UInt8) := server_error_iff_unanswerable demonstrationSite rfl
    (methodName_keyRequest body) List.mem_cons_self
  exact ⟨(hstatus _).1.mpr isUnanswerable_list, (hstatus _).2 not_isUnanswerable_empty⟩

/-- A service that has just made its machine does not answer every request with the status 200, 400
or 409: not one whose document is a list. -/
theorem server_error_of_list :
    ¬ ∀ (config : Config) (files : Files) (programFile : Option String) (machine : Machine)
      (s : Service) (policy : OriginPolicy) (request : Request),
      (Service.ofConfig config files programFile).ensureMachine = .ok (machine, s) →
        request.methodName = "POST" → request.target.path ∈ ["/api/v1/key", "/api/v1/control"] →
          (respond ⟨s, policy⟩ request).1.status ∈ [200, 400, 409] := by
  intro hall
  have hregular := hall .standard ⟨[], []⟩ none _ _ .closed (keyRequest [0x5B, 0x31, 0x5D])
    ensureMachine_demonstration (methodName_keyRequest _) List.mem_cons_self
  have herror := (failsIf_respond demonstrationSite rfl (methodName_keyRequest _)
    List.mem_cons_self).1 isUnanswerable_list
  rw [show (⟨demonstrationSite.service, .closed⟩ : Site) = demonstrationSite from rfl, herror]
    at hregular
  exact absurd hregular (by decide)

end Site

end Web

end Cosmac
