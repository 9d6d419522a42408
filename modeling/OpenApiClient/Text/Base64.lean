/-
Bytes written in base 64.

Four characters stand for three bytes.  Characters outside of the alphabet are skipped, so
the text may be broken into lines.  Padding ends the text as soon as it completes a group
of four; what is left over without it is a fault.
-/

set_option autoImplicit false

namespace OpenApiClient.Text

/-- The value of a character of the alphabet. -/
def base64Value? (c : Char) : Option Nat :=
  let n := c.toNat
  if 'A' ≤ c ∧ c ≤ 'Z' then some (n - 'A'.toNat)
  else if 'a' ≤ c ∧ c ≤ 'z' then some (n - 'a'.toNat + 26)
  else if '0' ≤ c ∧ c ≤ '9' then some (n - '0'.toNat + 52)
  else if c = '+' then some 62
  else if c = '/' then some 63
  else none

/-- Why a text stands for no bytes. -/
inductive Base64Fault where
  /-- One character more than whole groups, of which there are this many in all. -/
  | oneOver (count : Nat)
  | padding
  deriving DecidableEq, Repr

/-- What a fault says. -/
def Base64Fault.message : Base64Fault → String
  | .oneOver count =>
    s!"Invalid base64-encoded string: number of data characters ({count}) cannot be 1 more than "
      ++ "a multiple of 4"
  | .padding => "Incorrect padding"

/-- Decodes a text.  `group` holds the values of the last group, last first, `pads` counts
the padding since then, and `acc` holds the bytes so far, last first. -/
def base64From : List Char → List Nat → Nat → List UInt8 → Except Base64Fault (List UInt8)
  | [], group, _, acc =>
    match group with
    | [] => .ok acc.reverse
    | [_] => .error (.oneOver (acc.length / 3 * 4 + 1))
    | _ => .error .padding
  | c :: r, group, pads, acc =>
    if c = '=' then
      if 2 ≤ group.length then
        if 4 ≤ group.length + (pads + 1) then .ok acc.reverse
        else base64From r group (pads + 1) acc
      else base64From r group pads acc
    else match base64Value? c, group with
      | none, _ => base64From r group pads acc
      | some v, [] => base64From r [v] 0 acc
      | some v, [a] => base64From r [v, a] 0 ((a * 4 + v / 16).toUInt8 :: acc)
      | some v, [b, a] => base64From r [v, b, a] 0 ((b % 16 * 16 + v / 4).toUInt8 :: acc)
      | some v, b :: _ => base64From r [] 0 ((b % 4 * 64 + v).toUInt8 :: acc)

/-- The bytes that a text stands for. -/
def decodeBase64 (s : List Char) : Except Base64Fault (List UInt8) := base64From s [] 0 []

end OpenApiClient.Text
