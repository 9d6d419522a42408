/-
Quoted text, as it is shown inside a message.

A text is shown between apostrophes, or between quotation marks if it holds an
apostrophe and no quotation mark.  Inside, the chosen mark and the backslash are
escaped, and so is every character without a visible form, by the shortest of three
hexadecimal forms.
-/

import OpenApiClient.Text.CodePoint
import OpenApiClient.Text.Printable

set_option autoImplicit false

namespace OpenApiClient.Text

/-- The hexadecimal digits of a number, lower case, filled up to `width` with zeros. -/
def hex (width n : Nat) : List Char :=
  let digits := Nat.toDigits 16 n
  List.replicate (width - digits.length) '0' ++ digits

/-- A character by its number, in the shortest of three forms. -/
def numberedChar (c : Char) : List Char :=
  let n := codePoint c
  if n < 0x100 then '\\' :: 'x' :: hex 2 n
  else if n < 0x10000 then '\\' :: 'u' :: hex 4 n
  else '\\' :: 'U' :: hex 8 n

/-- One character between the marks `mark`. -/
def escapeChar (mark : Char) (c : Char) : List Char :=
  if c = mark ∨ c = '\\' then ['\\', c]
  else if c = '\n' then ['\\', 'n']
  else if c = '\r' then ['\\', 'r']
  else if c = '\t' then ['\\', 't']
  else if isPrintable c then [c]
  else numberedChar c

/-- The mark that a text is put between. -/
def markFor (s : List Char) : Char :=
  if s.contains '\'' && !s.contains '"' then '"' else '\''

/-- A text as it is shown in a message. -/
def quoted (s : String) : String :=
  let mark := markFor s.toList
  .ofList (mark :: s.toList.flatMap (escapeChar mark) ++ [mark])

/-- One byte between the marks `mark`; only ASCII has a visible form. -/
def escapeByte (mark : Char) (b : UInt8) : List Char :=
  let c := Char.ofNat b.toNat
  if b.toNat < 0x80 then escapeChar mark c else '\\' :: 'x' :: hex 2 b.toNat

/-- Bytes as they are shown in a message. -/
def quotedBytes (data : List UInt8) : String :=
  let mark := markFor (data.map fun b => Char.ofNat b.toNat)
  .ofList ('b' :: mark :: data.flatMap (escapeByte mark) ++ [mark])

end OpenApiClient.Text
