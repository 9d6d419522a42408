/-
Hosts that are written as numbers.

An address of four parts has numbers up to 255 between points.  An address of eight parts
has hexadecimal numbers between colons; one run of zeros in it may be left out, which two
colons show, and its last two parts may be written as an address of four parts.
-/

import OpenApiClient.Text.CodePoint
import OpenApiClient.Text.Split

set_option autoImplicit false

namespace OpenApiClient.Source

/-! ## Four parts -/

/-- Whether a text is a number up to 255, without a zero in front. -/
def isOctet (s : List Char) : Bool :=
  match s with
  | [] => false
  | c :: r =>
    s.length ≤ 3 && s.all Char.isDigit && (c ≠ '0' || r.isEmpty)
      && s.foldl (fun n d => n * 10 + (d.toNat - '0'.toNat)) 0 ≤ 255

/-- Whether a text is an address of four parts. -/
def isIPv4 (s : List Char) : Bool :=
  let parts := Text.splitOn '.' s
  parts.length = 4 && parts.all isOctet

/-! ## Eight parts -/

/-- Whether a text is a part of an address of eight parts. -/
def isHextet (s : List Char) : Bool := 1 ≤ s.length && s.length ≤ 4 && s.all Text.isHexDigit

/-- The parts beside the place where zeros are left out; an empty part at the very end of the
address belongs to that place. -/
def besideGap (s : List (List Char)) : List (List Char) := if s = [[]] then [] else s

/-- The parts between colons, with the last two written out. -/
def hextets? (s : List Char) : Option (List (List Char)) :=
  let parts := Text.splitOn ':' s
  let last := parts.getLastD []
  if parts.length < 3 then none
  else if !last.contains '.' then some parts
  else if isIPv4 last then some (parts.dropLast ++ [['0'], ['0']])
  else none

/-- Whether parts are those of an address, of which a run may be left out. -/
def fitHextets (parts : List (List Char)) : Bool :=
  let inner := (parts.drop 1).dropLast
  match inner.findIdx? List.isEmpty with
  | none => parts.length = 8 && parts.all isHextet
  | some i =>
    let before := besideGap (parts.take (i + 1))
    let after := besideGap (parts.drop (i + 2))
    before.length + after.length ≤ 7 && (before ++ after).all isHextet

/-- Whether a text is an address of eight parts, which may name the network that it is used
in. -/
def isIPv6 (s : List Char) : Bool :=
  let (address, scope) := match Text.splitFirst? '%' s with
    | some (address, scope) => (address, some scope)
    | none => (s, none)
  scope.all (fun z => !z.isEmpty && !z.contains '%')
    && ((hextets? address).map fitHextets).getD false

end OpenApiClient.Source
