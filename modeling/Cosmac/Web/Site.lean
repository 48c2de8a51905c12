import Cosmac.Web.Endpoint
import Cosmac.Web.Origin

/-!
# The site

The web interface as a whole: `Site.respond` finds the resource of a request, lets it answer, and
names the origin that may read the response.
-/

set_option autoImplicit false

namespace Cosmac.Web

/-- A service and who may read what it says. -/
structure Site where
  /-- The service. -/
  service : Service
  /-- Who may read the responses. -/
  policy : OriginPolicy

namespace Site

/-- The path in which neighbouring slashes are a single one. -/
def mergeSlashes : List Char → List Char
  | '/' :: rest => if rest.head? = some '/' then mergeSlashes rest else '/' :: mergeSlashes rest
  | c :: rest => c :: mergeSlashes rest
  | [] => []

/-- The response without its body, where the method asks for none. -/
def withoutBody (method : String) (response : Response) : Response :=
  if method = "HEAD" then { response with body := .nothing } else response

/-- The response to a request that a resource refuses: it has certain methods only, and keeps no
conversation open. -/
def refusal? (endpoint : Endpoint) (request : Request) : Option Response :=
  if !endpoint.methods.contains request.methodName then some (.errorPage 405)
  else if request.target.staysOpen then some (.errorPage 400)
  else none

/-- Answers a request at a resource. -/
def respondAt (endpoint : Endpoint) (request : Request) (s : Service) : Response × Service :=
  match refusal? endpoint request with
  | some response => (response, s)
  | none =>
    if request.methodName = "OPTIONS" then (.ofBody .nothing, s) else endpoint.answer request s

/-- Answers a request at a path that is no resource. One with too many slashes is sent to the
resource that it means. -/
def respondElsewhere (request : Request) : Response :=
  match Endpoint.ofPath? (String.ofList (mergeSlashes request.target.path.toList)) with
  | some endpoint => (refusal? endpoint request).getD (.errorPage 308)
  | none => .errorPage 404

/-- Answers a request to a host that could be looked up. -/
def respondHere (request : Request) (s : Service) : Response × Service :=
  match Endpoint.ofPath? request.target.path with
  | some endpoint => respondAt endpoint request s
  | none => (respondElsewhere request, s)

/-- Answers a request. -/
def respond (site : Site) (request : Request) : Response × Site :=
  let (response, service) :=
    if request.target.hasHost then respondHere request site.service
    else (.errorPage 400, site.service)
  let origin := if request.target.isBelow "/api" then site.policy.allowed request.origin else none
  ({ withoutBody request.methodName response with allowedOrigin := origin },
    { site with service := service })

end Site

end Cosmac.Web
