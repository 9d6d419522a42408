/-
Text in units of two or four bytes.

A unit of four bytes is the number of a character.  A unit of two bytes is the number of a
character too, or it is one half of a pair, which together stand for a character past the
first plane.  The bytes of a unit come in one of two orders, and a mark at the start of a text
can say in which.  What stands for no character becomes the replacement character: a half
without its partner, a number past the last character, and bytes that are left over.
-/

import OpenApiClient.Text.CodePoint
import OpenApiClient.Text.Utf8

set_option autoImplicit false

namespace OpenApiClient.Text

/-- The order of the bytes of a unit. -/
inductive ByteOrder where
  | lowFirst
  | highFirst
  deriving DecidableEq, Repr

/-- The number of a unit of two bytes. -/
def ByteOrder.unit : ByteOrder → UInt8 → UInt8 → Nat
  | .lowFirst, a, b => a.toNat + b.toNat * 0x100
  | .highFirst, a, b => a.toNat * 0x100 + b.toNat

/-- Whether a number is that of the first half of a pair. -/
def isFirstHalf (n : Nat) : Bool := n / 0x400 = 0x36

/-- Whether a number is that of the second half of a pair. -/
def isSecondHalf (n : Nat) : Bool := n / 0x400 = 0x37

/-- The character that a pair stands for. -/
def pairChar (first second : Nat) : Char :=
  .ofNat (0x10000 + first % 0x400 * 0x400 + second % 0x400)

/-- The text that bytes stand for in units of two. -/
def readUnits16 (order : ByteOrder) : List UInt8 → List Char
  | [] => []
  | [_] => [replacementChar]
  | [a, b] =>
    let n := order.unit a b
    [if isSurrogate n then replacementChar else .ofNat n]
  | [a, b, _] =>
    let n := order.unit a b
    if isFirstHalf n then [replacementChar]
    else [if isSurrogate n then replacementChar else .ofNat n, replacementChar]
  | a :: b :: c :: d :: r =>
    let n := order.unit a b
    let m := order.unit c d
    if isFirstHalf n && isSecondHalf m then pairChar n m :: readUnits16 order r
    else (if isSurrogate n then replacementChar else .ofNat n) :: readUnits16 order (c :: d :: r)

/-- The text that bytes stand for in units of four. -/
def readUnits32 (order : ByteOrder) : List UInt8 → List Char
  | [] => []
  | a :: b :: c :: d :: r =>
    let n := match order with
      | .lowFirst => order.unit a b + order.unit c d * 0x10000
      | .highFirst => order.unit a b * 0x10000 + order.unit c d
    (if isSurrogate n || codePointEnd ≤ n then replacementChar else .ofNat n)
      :: readUnits32 order r
  | _ => [replacementChar]

/-- Text in units of two bytes that begins with a mark of their order; none without the mark.
A single byte has no room for it. -/
def readMarked16 (data : List UInt8) : Option (List Char) :=
  match data with
  | 0xFF :: 0xFE :: r => some (readUnits16 .lowFirst r)
  | 0xFE :: 0xFF :: r => some (readUnits16 .highFirst r)
  | _ :: _ :: _ => none
  | _ => some (readUnits16 .lowFirst data)

/-- Text in units of four bytes that begins with a mark of their order; none without the
mark. -/
def readMarked32 (data : List UInt8) : Option (List Char) :=
  match data with
  | 0xFF :: 0xFE :: 0 :: 0 :: r => some (readUnits32 .lowFirst r)
  | 0 :: 0 :: 0xFE :: 0xFF :: r => some (readUnits32 .highFirst r)
  | _ :: _ :: _ :: _ :: _ => none
  | _ => some (readUnits32 .lowFirst data)

end OpenApiClient.Text
