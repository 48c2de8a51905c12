import Cosmac.Web.HostName
import Cosmac.Web.IpAddress
import Cosmac.Web.Percent

/-!
# Authorities

The authority of a reference says where its resource is: a host, which a port may follow and a user
with a password may precede. `Authority.ofChars` takes it apart, and `Authority.written` writes it
in ASCII characters, or tells why it cannot be.
-/

set_option autoImplicit false

namespace Cosmac.Web

/-! ### Errors -/

/-- Why a reference is refused. -/
inductive ReferenceError where
  /-- A bracket has no partner, or something stands beside the brackets. -/
  | badBrackets
  /-- The address in brackets is of a version to come, but is not written so. -/
  | badFutureAddress
  /-- The address in brackets is one of four numbers. -/
  | bracketedNumbers
  /-- What stands in brackets is no address. -/
  | noAddress (content : List Char)
  /-- The authority has a character that another way of writing it turns into a mark. -/
  | ambiguous (authority : List Char)
  /-- The port is not a number. -/
  | portNotNumeric (port : List Char)
  /-- The port has more digits than are read. -/
  | portTooLong (digits : Nat)
  /-- There is no such port. -/
  | portOutOfRange
  /-- The host cannot be looked up. -/
  | badHost (cause : HostNameError)
  /-- The host cannot be shown. -/
  | unreadableHost (cause : AsciiNameError)
  /-- A part has a surrogate without a partner. -/
  | unencodable (cause : Text.SurrogateError)
  deriving DecidableEq, Repr

/-- The wording of an error. -/
def ReferenceError.message : ReferenceError → String
  | badBrackets => "Invalid IPv6 URL"
  | badFutureAddress => "IPvFuture address is invalid"
  | bracketedNumbers => "An IPv4 address cannot be in brackets"
  | noAddress content =>
    String.ofList (Text.quotedChars content) ++ " does not appear to be an IPv4 or IPv6 address"
  | ambiguous authority =>
    "netloc '" ++ String.ofList authority
      ++ "' contains invalid characters under NFKC normalization"
  | portNotNumeric port =>
    "Port could not be cast to integer value as " ++ String.ofList (Text.quotedChars port)
  | portTooLong digits => Numeral.tooManyDigitsMessage digits
  | portOutOfRange => "Port out of range 0-65535"
  | badHost cause => cause.message
  | unreadableHost cause => cause.message
  | unencodable cause => cause.message

/-! ### Refusal -/

/-- Whether characters are an address of a version to come: its number after a letter, a dot and
anything. -/
def isFutureAddress (cs : List Char) : Bool :=
  match splitFirst '.' cs with
  | (_ :: version, address) => !version.isEmpty && version.all isHexDigit && !address.isEmpty
  | ([], _) => false

/-- Refuses what stands in brackets if it is no address. -/
def checkBracketed (content : List Char) : Except ReferenceError Unit :=
  if content.head? = some 'v' then
    if isFutureAddress content then .ok () else .error .badFutureAddress
  else if isIpv4 content then .error .bracketedNumbers
  else if isIpv6 content then .ok ()
  else .error (.noAddress content)

/-- The characters that can also be written as several, one of them a mark in references. -/
def ambiguousChars : Text.CodePointSet :=
  #[(0x2047, 0x2049), (0x2100, 0x2101), (0x2105, 0x2106), (0x2A74, 0x2A74), (0xFE13, 0xFE13),
    (0xFE16, 0xFE16), (0xFE55, 0xFE56), (0xFE5F, 0xFE5F), (0xFE6B, 0xFE6B), (0xFF03, 0xFF03),
    (0xFF0F, 0xFF0F), (0xFF1A, 0xFF1A), (0xFF1F, 0xFF20)]

/-- The host and the port of an authority: what follows the last at sign. -/
def afterUser (authority : List Char) : List Char :=
  (splitFirst '@' authority.reverse).1.reverse

/-- Refuses an authority with brackets unless they hold an address. Nothing may stand between them
and the user or the port. -/
def checkBrackets (authority : List Char) : Except ReferenceError Unit := do
  let host := afterUser authority
  if host.contains '[' then
    let (before, bracketed) := splitFirst '[' host
    let (content, after) := splitFirst ']' bracketed
    if !before.isEmpty || after.head?.any (· ≠ ':') then throw .badBrackets
    checkBracketed content
  else checkBracketed (splitFirst ':' host).1

/-- Refuses an authority in which the marks are not clear. -/
def checkAuthority (authority : List Char) : Except ReferenceError Unit := do
  if authority.contains '[' != authority.contains ']' then throw .badBrackets
  if authority.contains '[' then checkBrackets authority
  if authority.any ambiguousChars.contains then throw (.ambiguous authority)

/-! ### Authorities -/

/-- An authority taken apart. What is left out is empty. -/
structure Authority where
  /-- The name of the user. -/
  user : List Char
  /-- The password. -/
  password : List Char
  /-- The host. -/
  host : List Char
  /-- The port. -/
  port : List Char
  deriving DecidableEq, Repr

namespace Authority

/-- The host and the port in characters. A host in brackets may have colons. -/
def splitPort (cs : List Char) : List Char × List Char :=
  if cs.contains '[' then
    let (host, rest) := splitFirst ']' (splitFirst '[' cs).2
    (host, (splitFirst ':' rest).2)
  else splitFirst ':' cs

/-- Takes an authority apart. The user and the password end at the last at sign. -/
def ofChars (cs : List Char) : Authority :=
  let (atHost, beforeHost) := splitFirst '@' cs.reverse
  let (user, password) := splitFirst ':' beforeHost.reverse
  let (host, port) := splitPort atHost.reverse
  ⟨user, password, host, port⟩

/-- The name of a host in lower case. The zone after a percent sign stays as it is. -/
def lowerHost (host : List Char) : List Char :=
  (Text.lowerCase (String.ofList (host.takeWhile (· ≠ '%')))).toList ++ host.dropWhile (· ≠ '%')

/-- A host in ASCII characters, in brackets if it has colons. -/
def writtenHost (host : List Char) : Except ReferenceError (List Char) := do
  let name ← (HostName.toAscii (Text.symbols (lowerHost host))).mapError .badHost
  return if name.contains ':' then '[' :: name ++ [']'] else name

/-- A port with the colon before it. Port zero is none. -/
def writtenPort (port : List Char) : Except ReferenceError (List Char) :=
  if port.isEmpty then .ok []
  else if !port.all Char.isDigit then .error (.portNotNumeric port)
  else
    match Numeral.readMagnitude 10 port with
    | .ok 0 => .ok []
    | .ok number =>
      if number < 0x10000 then .ok (':' :: Numeral.decimalDigits number) else .error .portOutOfRange
    | .error (.tooManyDigits count) => .error (.portTooLong count)
    | .error .malformed => .error (.portNotNumeric port)

/-- A user or a password in ASCII characters. -/
def writtenSecret (cs : List Char) : Except ReferenceError (List Char) :=
  (percentEncoded "-._~%!$&'()*+,;=".toList cs).mapError .unencodable

/-- An authority in ASCII characters. -/
def written (authority : Authority) : Except ReferenceError (List Char) := do
  let host ← writtenHost authority.host
  let port ← writtenPort authority.port
  if authority.user.isEmpty then return host ++ port
  let user ← writtenSecret authority.user
  let password ← writtenSecret authority.password
  return user ++ (if password.isEmpty then [] else ':' :: password) ++ '@' :: (host ++ port)

end Authority

end Cosmac.Web
