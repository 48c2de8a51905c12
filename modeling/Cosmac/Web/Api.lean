import Cosmac.Web.Message

/-!
# Answers

What the web interface does with a request: show the service or its screen, press and release keys,
carry out commands and replace the program. Each function gives the response and the service after
it; a request that is refused is answered with what was wrong.
-/

set_option autoImplicit false

namespace Cosmac.Web.Api

/-! ### Reading -/

/-- Shows the service. -/
def showState (s : Service) : Response × Service :=
  match s.view with
  | (.ok view, s) => (.ofBody (.state view), s)
  | (.error _, s) => (.internalError, s)

/-- The scale factor that a query asks for: one unless it names a number. -/
def zoomOf (target : Target) : Int :=
  ((target.value? "zoom").bind (Numeral.read? 10)).getD 1

/-- Shows the screen. -/
def showScreen (target : Target) (s : Service) : Response × Service :=
  let zoom := zoomOf target
  if 1 ≤ zoom ∧ zoom ≤ 32 then
    match s.picture (.whole zoom) with
    | (.ok image, s) => (.ofBody (.picture image), s)
    | (.error _, s) => (.internalError, s)
  else (.badRequest "zoom must be between 1 and 32", s)

/-! ### Documents -/

/-- The fields that a request carries. An absent document, and any that counts as false, has no
fields; other values than objects have none to look up. -/
def fieldsOf? : Content → Option (List (String × Json))
  | .nothing => some []
  | .document (.object fields) => some fields
  | .document value => if value.isTruthy then none else some []
  | .unreadable => none

/-- Answers a request whose document has fields. -/
def withFields (request : Request) (s : Service)
    (answer : List (String × Json) → Response × Service) : Response × Service :=
  match fieldsOf? request.content with
  | some fields => answer fields
  | none => (.internalError, s)

/-! ### Keys -/

/-- The response to a change of a key. -/
def keyResponse (verb : String) : Except ServiceError Key → Response
  | .ok key =>
    .ofFields 200 [("status", .text "ok"), ("key", .int key.val),
      ("message", .text ("Key 0x" ++ Numeral.hexadecimal 1 (key.val : Nat) ++ " " ++ verb))]
  | .error (.key cause) => if cause.isAboutKey then .badRequest cause.message else .internalError
  | .error _ => .internalError

/-- Presses or releases a key. -/
def changeKey (key action : Json) (s : Service) : Response × Service :=
  match action with
  | .text "press" => let (result, s) := s.pressKey key; (keyResponse "pressed" result, s)
  | .text "release" => let (result, s) := s.releaseKey key; (keyResponse "released" result, s)
  | _ => (.badRequest ("Invalid action: " ++ action.plain), s)

/-- Answers a request to press or release a key. Truth values name no key. -/
def handleKey (fields : List (String × Json)) (s : Service) : Response × Service :=
  match lookupField? "key" fields with
  | none | some .null | some (.bool _) => (.badRequest "Missing key", s)
  | some key => changeKey key ((lookupField? "action" fields).getD (.text "press")) s

/-! ### Control -/

/-- The response that a command has been carried out. -/
def done (status : String) : Response :=
  .ofFields 200 [("status", .text status)]

/-- The response that a fault has halted the machine. -/
def haltedResponse (s : Service) : Response × Service :=
  match s.view with
  | (.ok view, s) =>
    let fields := [("error", .text "Machine halted; reset required"), ("fault", view.faultText)]
    (.ofFields 409 fields, s)
  | (.error _, s) => (.internalError, s)

/-- The response to a command that a halted machine refuses. -/
def unlessHalted (status : String) : Except ServiceError Bool × Service → Response × Service
  | (.ok true, s) => (done status, s)
  | (.ok false, s) => haltedResponse s
  | (.error _, s) => (.internalError, s)

/-- Takes a step, unless the runner is taking them anyway. -/
def stepOnce (s : Service) : Response × Service :=
  match s.view with
  | (.error _, s) => (.internalError, s)
  | (.ok view, s) => if view.isRunning then (done "stepped", s) else unlessHalted "stepped" s.step

/-- Carries out a command. -/
def command (name : Json) (s : Service) : Response × Service :=
  match name with
  | .text "run" => unlessHalted "running" s.run
  | .text "pause" => (done "paused", s.pause)
  | .text "step" => stepOnce s
  | .text "reset" =>
    match s.reset with
    | (.ok (), s) => (done "reset", s)
    | (.error _, s) => (.internalError, s)
  | _ => (.badRequest ("Unknown command: " ++ name.plain), s)

/-- Answers a request to carry out a command. -/
def handleControl (fields : List (String × Json)) (s : Service) : Response × Service :=
  let name := (lookupField? "command" fields).getD .null
  if name.isTruthy then command name s else (.badRequest "Missing command", s)

/-! ### Programs -/

/-- Replaces the program with the body of a request. -/
def upload (body : List UInt8) (s : Service) : Response × Service :=
  if body.isEmpty then (.badRequest "Empty program", s)
  else
    match s.load body.toArray with
    | (.ok size, s) => (.ofFields 200 [("status", .text "loaded"), ("size", .int size)], s)
    | (.error (.start (.program cause)), s) => (.badRequest cause.message, s)
    | (.error _, s) => (.internalError, s)

end Cosmac.Web.Api
