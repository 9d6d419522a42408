/-
Text in seven bits.

ASCII stands for itself but for the plus sign, which begins a stretch of base 64.  There the
bits of six at a time are put together again to units of sixteen, and a character that is not
in the alphabet ends the stretch; a hyphen that does so is dropped.  What is left over of the
bits has to be less than a character of the alphabet, and zero.
-/

import OpenApiClient.Text.Base64
import OpenApiClient.Text.Units

set_option autoImplicit false

namespace OpenApiClient.Text

/-- Where a stretch of base 64 is: the bits that are left over, how many they are, and the
first half of a pair if one has come. -/
structure Stretch where
  bits : Nat := 0
  count : Nat := 0
  half : Option Nat := none

namespace Stretch

/-- Whether something is missing at the end of a stretch. -/
def isBroken (s : Stretch) : Bool := 6 ≤ s.count || (0 < s.count && s.bits ≠ 0)

/-- The characters that are complete after a unit, and the first half that waits for its
partner. -/
def complete (half : Option Nat) (unit : Nat) : List Char × Option Nat :=
  match half with
  | some h =>
    if isSecondHalf unit then ([pairChar h unit], none)
    else if isFirstHalf unit then ([charOf h], some unit)
    else ([charOf h, charOf unit], none)
  | none => if isFirstHalf unit then ([], some unit) else ([charOf unit], none)

/-- A stretch after six more bits, and the characters that they complete. -/
def push (s : Stretch) (value : Nat) : List Char × Stretch :=
  let bits := s.bits * 64 + value
  let count := s.count + 6
  if count < 16 then ([], { s with bits, count })
  else
    let rest := 1 <<< (count - 16)
    let (chars, half) := complete s.half (bits / rest)
    (chars, ⟨bits % rest, count - 16, half⟩)

end Stretch

/-- A byte outside of a stretch. -/
def plainByte (b : UInt8) : Char := if b.toNat < 0x80 then .ofNat b.toNat else replacementChar

/-- The text that bytes stand for, inside of a stretch if there is one. -/
def readUtf7From : Option Stretch → List UInt8 → List Char
  | none, [] => []
  | some s, [] => if s.half.isSome || s.isBroken then [replacementChar] else []
  | none, 0x2B :: 0x2D :: r => '+' :: readUtf7From none r
  | none, [0x2B] => []
  | none, 0x2B :: b :: r =>
    match base64Value? (.ofNat b.toNat) with
    | some v => readUtf7From (some (Stretch.push {} v).2) r
    | none => replacementChar :: readUtf7From none r
  | none, b :: r => plainByte b :: readUtf7From none r
  | some s, b :: r =>
    match base64Value? (.ofNat b.toNat) with
    | some v =>
      let (chars, s) := s.push v
      chars ++ readUtf7From (some s) r
    | none =>
      if s.isBroken then replacementChar :: readUtf7From none r
      else
        (if b.toNat < 0x80 then (s.half.map charOf).toList else [])
          ++ (if b = 0x2D then [] else [plainByte b]) ++ readUtf7From none r

/-- The text that bytes stand for. -/
def readUtf7 (data : List UInt8) : List Char := readUtf7From none data

end OpenApiClient.Text
