import Cosmac.Text.CaseFold
import Cosmac.Text.Pattern.Fit
import Cosmac.Text.Pattern.Reader
import Cosmac.Text.Quoted

/-!
# Origins

Other sites may read the responses of the web interface if they are among the allowed origins, each
of which is a single origin or a pattern. `OriginPolicy.ofString` reads a list of them, and
`OriginPolicy.allowed` is the origin that a response names.
-/

set_option autoImplicit false

namespace Cosmac.Web

/-! ### Allowed origins -/

/-- Who is allowed to read responses. -/
inductive AllowedOrigin where
  /-- Any origin. -/
  | any
  /-- A single origin. Case does not matter. -/
  | single (text : String)
  /-- The origins that start like a text that fits a pattern. -/
  | fitting (p : Text.Pattern)
  deriving DecidableEq, Repr

/-- Why an allowed origin cannot be read: it is taken for a pattern, and is none. -/
structure OriginError where
  /-- The text. -/
  text : String
  /-- Why it is no pattern. -/
  cause : Text.PatternError
  deriving DecidableEq, Repr

/-- The wording of an error. -/
def OriginError.message (error : OriginError) : String :=
  match error.cause with
  | .malformed =>
    "Invalid regular expression in Flask-CORS configuration: " ++ Text.quoted error.text
  | .tooManyDigits count => Numeral.tooManyDigitsMessage count
  | .tooManyTimes => "the repetition number is too large"
  | .conflictingSettings => "ASCII and UNICODE flags are incompatible"
  | .nestedTooDeeply => "maximum recursion depth exceeded"

namespace AllowedOrigin

/-- Whether a text is taken for a pattern: it has a character that hardly stands in an origin. -/
def isPattern (text : String) : Bool :=
  text.toList.any fun c ↦ ['*', '\\', ']', '?', '$', '^', '[', '(', ')'].contains c

/-- The origins that a text stands for. An asterisk stands for all. -/
def ofString (text : String) : Except OriginError AllowedOrigin :=
  if text = "*" ∨ text = ".*" then .ok any
  else if isPattern text then
    match Text.Pattern.ofText ⟨true, false⟩ text with
    | .ok p => .ok (fitting p)
    | .error cause => .error ⟨text, cause⟩
  else .ok (single text)

/-- Whether an origin is among those that are allowed. -/
def covers (origin : String) : AllowedOrigin → Bool
  | any => true
  | single text => Text.foldCase text = Text.foldCase origin
  | fitting p => p.startsText origin

/-- The text of a single origin. -/
def single? : AllowedOrigin → Option String
  | single text => some text
  | any | fitting _ => none

end AllowedOrigin

/-! ### Policies -/

/-- The origins that may read responses, in order. Without any, no response names an origin. -/
structure OriginPolicy where
  /-- The origins. -/
  origins : List AllowedOrigin
  deriving DecidableEq, Repr

namespace OriginPolicy

/-- The policy of a list of origins with commas between them. -/
def ofString (text : String) : Except OriginError OriginPolicy := do
  let texts := ((text.splitOn ",").map Text.trim).filter (· ≠ "")
  return ⟨← texts.mapM AllowedOrigin.ofString⟩

/-- The policy that allows nothing. -/
def closed : OriginPolicy :=
  ⟨[]⟩

/-- Whether every origin is allowed. -/
def isOpen (policy : OriginPolicy) : Bool :=
  policy.origins.contains .any

/-- Whether an origin is allowed. -/
def allows (policy : OriginPolicy) (origin : String) : Bool :=
  policy.origins.any (·.covers origin)

/-- The origin that is named to a request without one: any, or else the least single one. -/
def usual (policy : OriginPolicy) : Option String :=
  if policy.isOpen then some "*"
  else ((policy.origins.filterMap AllowedOrigin.single?).mergeSort Text.inOrder).head?

/-- The origin that the response to a request from an origin names. -/
def allowed (policy : OriginPolicy) : Option String → Option String
  | none | some "" => policy.usual
  | some origin => if policy.allows origin then some origin else none

end OriginPolicy

end Cosmac.Web
