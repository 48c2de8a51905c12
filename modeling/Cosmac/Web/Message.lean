import Cosmac.Json.Reader
import Cosmac.Service.View
import Cosmac.Text.Encoding
import Cosmac.Web.Target

/-!
# Requests and responses

What a user sends to the web interface and what comes back. `Request.make` refuses a request that
cannot be sent, and `Request.content` is what the body of a request means as a JSON document.
-/

set_option autoImplicit false

namespace Cosmac.Web

/-! ### Requests -/

/-- A request. -/
structure Request where
  /-- The method, in either case. -/
  method : String
  /-- The target. -/
  target : Target
  /-- The type of the body, if it is given. -/
  contentType : Option String
  /-- The body. -/
  body : List UInt8
  /-- The site that the request comes from, if it is given. -/
  origin : Option String

/-- Why a request cannot be sent. -/
inductive RequestError where
  /-- The target is refused. -/
  | badTarget (cause : ReferenceError)
  /-- A header would end a line. -/
  | brokenHeader
  deriving DecidableEq, Repr

/-- The wording of an error. -/
def RequestError.message : RequestError → String
  | badTarget cause => cause.message
  | brokenHeader => "Header values must not contain newline characters."

/-- Makes a request that can be sent. -/
def Request.make (method target : String) (contentType origin : Option String)
    (body : List UInt8) : Except RequestError Request := do
  let target ← (Target.ofString target).mapError .badTarget
  if [contentType, origin].any (·.any (·.any fun c ↦ c = '\r' || c = '\n')) then
    throw .brokenHeader
  target.checkSent.mapError .badTarget
  return { method, target, contentType, body, origin }

/-- The capitals of a character, as far as they are ASCII: the dotless i, the long s and its
ligatures have such capitals too. -/
def capitals (c : Char) : List Char :=
  if c = 'ı' then ['I']
  else if c = 'ſ' then ['S']
  else if c = 'ﬅ' ∨ c = 'ﬆ' then ['S', 'T']
  else [c.toUpper]

/-- The name of the method in capitals. -/
def Request.methodName (request : Request) : String :=
  String.ofList (request.method.toList.flatMap capitals)

/-- Whether a content type is one of JSON documents. Parameters and case do not matter. -/
def isDocumentType (contentType : String) : Bool :=
  let isPadding (c : Char) : Bool := c = ' ' || c = '\t'
  let kind := Text.trimWhile isPadding (contentType.toList.takeWhile (· ≠ ';'))
  let name := Text.lowerCase (String.ofList kind)
  name = "application/json" || (name.startsWith "application/" && name.endsWith "+json")

/-- What a request carries. -/
inductive Content where
  /-- No document. -/
  | nothing
  /-- A document. -/
  | document (value : Json)
  /-- A document that is nested too deeply to be read. -/
  | unreadable

/-- How deeply the values of a document may be nested. -/
def contentNesting : Nat := 977

/-- What bytes mean as a document. -/
def contentOf (bytes : List UInt8) : Content :=
  match Text.decodeDocument? bytes with
  | none => .nothing
  | some text =>
    match Json.parseChars contentNesting text with
    | .ok value => .document value
    | .error ⟨.nestedTooDeeply _, _⟩ => .unreadable
    | .error _ => .nothing

/-- What a request carries. Only one that says that it carries a document does. -/
def Request.content (request : Request) : Content :=
  match request.contentType with
  | some contentType => if isDocumentType contentType then contentOf request.body else .nothing
  | none => .nothing

/-! ### Responses -/

/-- The body of a response. -/
inductive Body where
  /-- Nothing. -/
  | nothing
  /-- A page that tells people about an error. -/
  | page
  /-- A JSON document. -/
  | document (value : Json)
  /-- The view of the service. -/
  | state (view : ServiceView)
  /-- A picture. -/
  | picture (image : Image)

/-- A response. -/
structure Response where
  /-- The status code. -/
  status : Nat
  /-- The body. -/
  body : Body
  /-- The site that may read the response, if one is named. -/
  allowedOrigin : Option String

namespace Response

/-- A response that carries a body. -/
def ofBody (body : Body) : Response :=
  ⟨200, body, none⟩

/-- A response that carries a document with the given fields. -/
def ofFields (status : Nat) (fields : List (String × Json)) : Response :=
  ⟨status, .document (.object fields), none⟩

/-- A response that tells what was wrong with a request. -/
def badRequest (message : String) : Response :=
  ofFields 400 [("error", .text message)]

/-- A response with a page instead of what was asked for. -/
def errorPage (status : Nat) : Response :=
  ⟨status, .page, none⟩

/-- The response to a failure of the service itself. -/
def internalError : Response :=
  errorPage 500

end Response

end Cosmac.Web
