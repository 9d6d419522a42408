/-
Percent escapes.

A percent sign with two hexadecimal digits stands for a byte, and the bytes of a text are those
of its characters in UTF-8.  A percent sign without the digits stands for itself.
-/

import OpenApiClient.Text.Encodable
import OpenApiClient.Text.Utf8

set_option autoImplicit false

namespace OpenApiClient.Text.Percent

/-! ## Reading -/

/-- The value of a byte that is a hexadecimal digit. -/
def hexByte? (b : UInt8) : Option Nat :=
  let c := Char.ofNat b.toNat
  if isHexDigit c then some (hexValue [c]) else none

/-- The byte of the percent sign. -/
def percentByte : UInt8 := 0x25

/-- Bytes with their escapes decoded. -/
def unescapeBytes : List UInt8 → List UInt8
  | p :: a :: b :: r =>
    match if p = percentByte then (hexByte? a, hexByte? b) else (none, none) with
    | (some x, some y) => UInt8.ofNat (x * 16 + y) :: unescapeBytes r
    | _ => p :: unescapeBytes (a :: b :: r)
  | r => r
termination_by s => s.length

/-- The bytes of a text with its escapes decoded. -/
def bytesOf (s : List Char) : List UInt8 :=
  unescapeBytes (String.ofList s).toUTF8.toList

/-- A run of ASCII characters with its escapes decoded. -/
def unescapeRun (run : List Char) : List Char := decodeReplacing (bytesOf run)

/-- A text with its escapes decoded.  An escape stands for a byte, and the bytes of
one character stand in one run of ASCII characters; `run` is the run so far, last character
first. -/
def unescapeFrom (run : List Char) : List Char → List Char
  | [] => unescapeRun run.reverse
  | c :: r =>
    if c.toNat < 0x80 then unescapeFrom (c :: run) r
    else unescapeRun run.reverse ++ c :: unescapeFrom [] r

/-- A text with its escapes decoded. -/
def unescape (s : List Char) : List Char := unescapeFrom [] s

/-! ## Writing -/

/-- The escape of a byte. -/
def escapeByte (b : UInt8) : List Char := '%' :: (hex 2 b.toNat).map Char.toUpper

/-- A text in which every character that is not safe is given by escapes.  A half of a
surrogate pair has no bytes. -/
def escape (isSafe : Char → Bool) : List Char → Except EncodeFault (List Char)
  | [] => .ok []
  | c :: r => do
    if isSafe c then return c :: (← escape isSafe r)
    match encodeFault? .utf8 [c] with
    | some f => throw f
    | none =>
      return (String.singleton c).toUTF8.toList.flatMap escapeByte ++ (← escape isSafe r)

end OpenApiClient.Text.Percent
