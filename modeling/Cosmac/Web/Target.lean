import Cosmac.Web.Host

/-!
# Request targets

A request names its resource by a target: a reference with a scheme, an authority, a path, and after
a question mark a query of named values. `Reference.ofChars` takes a reference apart. A target is
taken apart where it is sent and again where it is received, and `Target.ofString` gives what is
left of it then.
-/

set_option autoImplicit false

namespace Cosmac.Web

/-! ### Queries -/

/-- The characters in which each plus sign is a blank. -/
def plusAsBlank (cs : List Char) : List Char :=
  cs.map fun c ↦ if c = '+' then ' ' else c

/-- The text of percent-encoded characters. If they encode no text they stand for themselves. -/
def decodedText (cs : List Char) : String :=
  match Text.decodeUtf8 (percentDecoded (plainChars cs)) with
  | .ok decoded => String.ofList decoded
  | .error _ => String.ofList cs

/-- The text of a name or a value in a query, in which a plus sign is a blank. -/
def queryText (cs : List Char) : String :=
  decodedText (plusAsBlank cs)

/-- A named value of a query. A name on its own has the empty value. -/
def queryField (cs : List Char) : String × String :=
  let (name, value) := splitFirst '=' cs
  (queryText name, queryText value)

/-- The named values of a query, in order. -/
def queryFields (cs : List Char) : List (String × String) :=
  ((cs.splitOnP (· = '&')).filter fun part ↦ !part.isEmpty).map queryField

/-! ### References -/

/-- A reference taken apart. What is left out is empty. -/
structure Reference where
  /-- The scheme, in lower case. -/
  scheme : List Char
  /-- The authority. -/
  authority : List Char
  /-- The path. -/
  path : List Char
  /-- The query. -/
  query : List Char
  deriving DecidableEq, Repr

namespace Reference

/-- The characters without control characters and blanks at the start, and without tabs and line
ends anywhere. -/
def cleaned (cs : List Char) : List Char :=
  (cs.dropWhile (· ≤ ' ')).filter fun c ↦ c ≠ '\t' && c ≠ '\n' && c ≠ '\r'

/-- Whether characters are the name of a scheme: a letter, and then letters, digits and three
marks. -/
def isScheme (cs : List Char) : Bool :=
  cs.head?.any Char.isAlpha && cs.all fun c ↦ c.isAlphanum || c = '+' || c = '-' || c = '.'

/-- The scheme before a colon, and what follows it. -/
def splitScheme (cs : List Char) : List Char × List Char :=
  let (name, rest) := splitFirst ':' cs
  if cs.contains ':' && isScheme name then (name.map Char.toLower, rest) else ([], cs)

/-- The authority that two slashes at the start announce, and what follows it. -/
def splitAuthority : List Char → List Char × List Char
  | '/' :: '/' :: rest => rest.span fun c ↦ c ≠ '/' && c ≠ '?' && c ≠ '#'
  | cs => ([], cs)

/-- Takes a reference apart. What follows a number sign is left out. -/
def ofChars (cs : List Char) : Except ReferenceError Reference := do
  let (scheme, rest) := splitScheme (cleaned cs)
  let (authority, rest) := splitAuthority rest
  checkAuthority authority
  let (path, query) := splitFirst '?' (rest.takeWhile (· ≠ '#'))
  return ⟨scheme, authority, path, query⟩

/-- The path and the query in one piece. -/
def resource (reference : Reference) : List Char :=
  if reference.query.isEmpty then reference.path else reference.path ++ '?' :: reference.query

/-- The path of a reference that stands for a path itself: its scheme and its authority, as they are
written, are part of it. -/
def wholePath (reference : Reference) : Except ReferenceError (List Char) := do
  let _ ← (Text.encodeUtf8? (String.ofList reference.path)).mapError .unencodable
  let authority ← (Authority.ofChars reference.authority).written
  return (if reference.scheme.isEmpty then [] else reference.scheme ++ [':'])
    ++ (if authority.isEmpty then [] else '/' :: '/' :: authority) ++ reference.path

end Reference

/-! ### Targets -/

/-- A target taken apart. -/
structure Target where
  /-- The scheme, if it is given. -/
  scheme : String
  /-- The authority, as it is written. -/
  authority : List Char
  /-- The path and the query that are sent. -/
  sent : String
  /-- The path, decoded, with one slash at its start. -/
  path : String
  /-- The named values of the query. -/
  query : List (String × String)
  deriving DecidableEq, Repr

namespace Target

/-- The host of a target that names none. -/
def usualHost : List Char :=
  "localhost".toList

/-- Takes a target apart. -/
def ofString (text : String) : Except ReferenceError Target := do
  let outer ← Reference.ofChars text.toList
  let inner ← Reference.ofChars outer.resource
  let path ← (← Reference.ofChars inner.path).wholePath
  let host := if outer.authority.isEmpty then usualHost else outer.authority
  let authority ← (Authority.ofChars host).written
  checkAuthority authority
  return {
    scheme := String.ofList outer.scheme
    authority := authority
    sent := String.ofList outer.resource
    path := String.ofList
      ('/' :: (readableText (percentDecoded (plainChars path))).dropWhile (· = '/'))
    query := queryFields inner.query }

/-- The host that the server takes the target to name. -/
def host (target : Target) : List Char :=
  Host.ofAuthority target.scheme target.authority

/-- Refuses a target that cannot be sent. -/
def checkSent (target : Target) : Except ReferenceError Unit := do
  let _ ← (Text.encodeUtf8? target.sent).mapError .unencodable
  Host.checkShown target.host

/-- The first value of a name in the query. -/
def value? (target : Target) (name : String) : Option String :=
  (target.query.find? fun field ↦ field.1 = name).map Prod.snd

/-- Whether the path, decoded once more, lies below a given one. -/
def isBelow (target : Target) (root : String) : Bool :=
  let path := plusAsBlank (plainChars target.path.toList)
  root.toList.isPrefixOf (readableText (percentDecoded path))

/-- Whether the host could be looked up. -/
def hasHost (target : Target) : Bool :=
  (HostName.checkAscii (Host.name target.host)).isOk

/-- Whether the target is one of a conversation that stays open. -/
def staysOpen (target : Target) : Bool :=
  target.scheme = "ws" || target.scheme = "wss"

end Target

end Cosmac.Web
