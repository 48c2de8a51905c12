import Cosmac.Number.Numeral

/-!
# Internet addresses

A host can be named by its address: four decimal numbers, or eight groups of hexadecimal digits, of
which one run of zeros may be left out. `isIpv4` and `isIpv6` tell whether characters are such an
address.
-/

set_option autoImplicit false

namespace Cosmac.Web

/-! ### Four numbers -/

/-- Whether characters are a number below 256 without zeros in front. -/
def isOctet (cs : List Char) : Bool :=
  !cs.isEmpty && cs.all Char.isDigit && cs.length ≤ 3 && (cs = ['0'] || cs.head? ≠ some '0')
    && Numeral.ofDigits 10 (cs.filterMap (Numeral.digitBelow? 10)) < 256

/-- Whether characters are an address of four numbers. -/
def isIpv4 (cs : List Char) : Bool :=
  let octets := cs.splitOnP (· = '.')
  octets.length = 4 && octets.all isOctet

/-! ### Eight groups -/

/-- Whether a character is an ASCII hexadecimal digit. -/
def isHexDigit (c : Char) : Bool :=
  c.toNat < 0x80 && (Numeral.digitBelow? 16 c).isSome

/-- Whether characters are a group of an address. -/
def isHexGroup (cs : List Char) : Bool :=
  !cs.isEmpty && cs.all isHexDigit && cs.length ≤ 4

/-- The characters before the first two colons in a row, and those after them. -/
def splitAtGap? : List Char → Option (List Char × List Char)
  | ':' :: ':' :: rest => some ([], rest)
  | c :: rest => (splitAtGap? rest).map fun (before, after) ↦ (c :: before, after)
  | [] => none

/-- How many groups characters are, with colons between them. Where it is allowed an address of four
numbers stands for the last two. -/
def groupCount? (allowIpv4 : Bool) (cs : List Char) : Option Nat :=
  if cs.isEmpty then some 0
  else
    let parts := cs.splitOnP (· = ':')
    if parts.all isHexGroup then some parts.length
    else if allowIpv4 && parts.dropLast.all isHexGroup && isIpv4 (parts.getLastD []) then
      some (parts.length + 1)
    else none

/-- Whether characters are eight groups, or fewer with a gap for those that are left out. -/
def isGroups (cs : List Char) : Bool :=
  match splitAtGap? cs with
  | none => groupCount? true cs = some 8
  | some (before, after) =>
    match groupCount? false before, groupCount? true after with
    | some m, some n => m + n < 8
    | _, _ => false

/-- Whether characters are an address of eight groups. A percent sign and the name of a zone may
follow them. -/
def isIpv6 (cs : List Char) : Bool :=
  match cs.splitOnP (· = '%') with
  | [groups] => isGroups groups
  | [groups, zone] => isGroups groups && !zone.isEmpty
  | _ => false

end Cosmac.Web
