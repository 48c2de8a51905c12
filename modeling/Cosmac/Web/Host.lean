import Cosmac.Web.Authority

/-!
# Hosts

A server is told by which host and port it was asked for. It takes that at its word only where it is
a name or an address in plain form; `Host.ofAuthority` gives the host and the port then, and nothing
otherwise.
-/

set_option autoImplicit false

namespace Cosmac.Web.Host

/-! ### Forms -/

/-- The port of a scheme that is left out, with the colon before it. Without a scheme it is that of
the usual one. -/
def usualPort (scheme : String) : List Char :=
  if scheme = "" ∨ scheme = "http" ∨ scheme = "ws" then ":80".toList
  else if scheme = "https" ∨ scheme = "wss" then ":443".toList
  else []

/-- An authority without the usual port of its scheme. -/
def withoutUsualPort (scheme : String) (authority : List Char) : List Char :=
  if (usualPort scheme).isSuffixOf authority then
    authority.take (authority.length - (usualPort scheme).length)
  else authority

/-- Whether characters are nothing, or a port with the colon before it. -/
def isPort : List Char → Bool
  | [] => true
  | ':' :: digits => !digits.isEmpty && digits.all Char.isDigit
  | _ => false

/-- Whether characters look like an address of eight numbers: there is a colon, and after it
something of digits, points and colons. -/
def isAddress (cs : List Char) : Bool :=
  let (start, rest) := splitFirst ':' cs
  start.all isHexDigit && !rest.isEmpty && rest.all fun c ↦ isHexDigit c || c = '.' || c = ':'

/-- Whether characters are a name, or an address in brackets, and after it perhaps a port. -/
def isPlain : List Char → Bool
  | '[' :: cs =>
    let (address, port) := splitFirst ']' cs
    cs.contains ']' && isAddress address && isPort port
  | cs =>
    let isNameChar (c : Char) : Bool := c.isAlphanum || c = '.' || c = '-'
    (cs.head?.any isNameChar) && isPort (cs.dropWhile isNameChar)

/-! ### Hosts -/

/-- The host that an authority names, with its port. It is empty if it has no plain form. -/
def ofAuthority (scheme : String) (authority : List Char) : List Char :=
  let host := withoutUsualPort scheme authority
  if isPlain host then host else []

/-- The host without its port, as far as that is a name. -/
def name (host : List Char) : List Char :=
  (splitFirst ':' host).1

/-- Refuses a host that cannot be shown to people. -/
def checkShown (host : List Char) : Except ReferenceError Unit := do
  if host.head? ≠ some '[' then
    let shown ← (HostName.ofAscii (name host)).mapError .unreadableHost
    checkAuthority (Text.spelled shown ++ host.drop (name host).length)

end Cosmac.Web.Host
