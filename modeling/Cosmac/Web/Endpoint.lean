import Cosmac.Web.Api

/-!
# Endpoints

The resources of the web interface. Each has a path and the methods that it answers. Besides those
with a path of their own there is a place for files, which is empty.
-/

set_option autoImplicit false

namespace Cosmac.Web

/-- The resources. -/
inductive Endpoint where
  | state
  | screen
  | key
  | control
  | program
  /-- A file that goes with the interface. There are none. -/
  | asset
  deriving DecidableEq, Repr

namespace Endpoint

/-- The resources with a path of their own, and their paths. -/
def paths : List (String × Endpoint) :=
  [("/api/v1/state", state), ("/api/v1/screen.png", screen), ("/api/v1/key", key),
    ("/api/v1/control", control), ("/api/v1/program", program)]

/-- Where files lie. -/
def assetRoot : List Char :=
  "/static/".toList

/-- Whether a path names a file: it goes on after the place for files with something other than a
slash, and no line ends in it after that. -/
def isAssetPath (path : List Char) : Bool :=
  assetRoot.isPrefixOf path &&
    match path.drop assetRoot.length with
    | first :: rest => first ≠ '/' && !rest.contains '\n'
    | [] => false

/-- The resource at a path. -/
def ofPath? (path : String) : Option Endpoint :=
  match paths.find? fun entry ↦ entry.1 = path with
  | some (_, endpoint) => some endpoint
  | none => if isAssetPath path.toList then some asset else none

/-- The methods that a resource answers. One that is read can also be asked for without its body,
and each tells on request which methods it answers. -/
def methods : Endpoint → List String
  | state | screen | asset => ["GET", "HEAD", "OPTIONS"]
  | key | control | program => ["POST", "OPTIONS"]

/-- Answers a request by a method of the resource. -/
def answer (endpoint : Endpoint) (request : Request) (s : Service) : Response × Service :=
  match endpoint with
  | state => Api.showState s
  | screen => Api.showScreen request.target s
  | key => Api.withFields request s fun fields ↦ Api.handleKey fields s
  | control => Api.withFields request s fun fields ↦ Api.handleControl fields s
  | program => Api.upload request.body s
  | asset => (.errorPage 404, s)

end Endpoint

end Cosmac.Web
