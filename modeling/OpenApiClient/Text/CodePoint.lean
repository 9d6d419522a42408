/-
Characters by their numbers.

The escapes of JSON, YAML and TOML name a character by hexadecimal digits.  The numbers of
surrogates name no character, but a text may hold one of them on its own: a half of a pair
without the other.  In a text it is kept as a stand-in from the last planes, which are for
private use, so that its number is known when the text is shown or written.
-/

import OpenApiClient.Text.Digit

set_option autoImplicit false

namespace OpenApiClient.Text

/-- Whether a character is a hexadecimal digit. -/
def isHexDigit (c : Char) : Bool := c.isDigit || ('a' ≤ c && c ≤ 'f') || ('A' ≤ c && c ≤ 'F')

/-- The number that hexadecimal digits are. -/
def hexValue (digits : List Char) : Nat :=
  digits.foldl (fun n c => n * 16 + (digitIn? 16 c).getD 0) 0

/-- The end of the numbers of characters. -/
def codePointEnd : Nat := 0x110000

/-- Whether a number is that of a half of a surrogate pair. -/
def isSurrogate (n : Nat) : Bool := 0xD800 ≤ n && n ≤ 0xDFFF

/-- How far the stand-in of a half is from its number. -/
def halfShift : Nat := 0xF0000

/-- The character with a number, or the stand-in of a half. -/
def charOf (n : Nat) : Char := .ofNat (if isSurrogate n then n + halfShift else n)

/-- Whether a character is the stand-in of a half. -/
def isHalf (c : Char) : Bool := halfShift ≤ c.toNat && isSurrogate (c.toNat - halfShift)

/-- The number of a character, or of the half that it stands for. -/
def codePoint (c : Char) : Nat := if isHalf c then c.toNat - halfShift else c.toNat

end OpenApiClient.Text
