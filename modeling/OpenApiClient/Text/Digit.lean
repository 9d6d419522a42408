/-
Decimal digits and the reading of integers.

Integers reach the program as text in three places: as a list position inside a
reference, as a scalar of a YAML document, and as the value of a numeric field.  All
three accept the digits of every script, a sign, blanks at the two ends and single
underscores between digits, so one reader serves them: `readInt?`.
-/

import OpenApiClient.Text.Blank

set_option autoImplicit false

namespace OpenApiClient.Text

/-! ## Digits -/

/-- The zeros of the scripts that have decimal digits.  In each script the other nine
digits follow its zero. -/
def zeros : List Nat := [
  0x30, 0x660, 0x6F0, 0x7C0, 0x966, 0x9E6, 0xA66, 0xAE6, 0xB66, 0xBE6, 0xC66, 0xCE6, 0xD66,
  0xDE6, 0xE50, 0xED0, 0xF20, 0x1040, 0x1090, 0x17E0, 0x1810, 0x1946, 0x19D0, 0x1A80, 0x1A90,
  0x1B50, 0x1BB0, 0x1C40, 0x1C50, 0xA620, 0xA8D0, 0xA900, 0xA9D0, 0xA9F0, 0xAA50, 0xABF0, 0xFF10,
  0x104A0, 0x10D30, 0x11066, 0x110F0, 0x11136, 0x111D0, 0x112F0, 0x11450, 0x114D0, 0x11650,
  0x116C0, 0x11730, 0x118E0, 0x11950, 0x11C50, 0x11D50, 0x11DA0, 0x16A60, 0x16AC0, 0x16B50,
  0x1D7CE, 0x1D7D8, 0x1D7E2, 0x1D7EC, 0x1D7F6, 0x1E140, 0x1E2F0, 0x1E950, 0x1FBF0]

/-- The value of a decimal digit of any script. -/
def digitValue? (c : Char) : Option Nat :=
  let n := c.toNat
  if n < 0x80 then
    if 0x30 ≤ n && n ≤ 0x39 then some (n - 0x30) else none
  else (zeros.find? fun z => z ≤ n && n ≤ z + 9).map (n - ·)

/-- The value of a digit in a base up to sixteen; letters stand for ten and up. -/
def digitIn? (base : Nat) (c : Char) : Option Nat :=
  let v :=
    if 'a' ≤ c && c ≤ 'z' then some (c.toNat - 'a'.toNat + 10)
    else if 'A' ≤ c && c ≤ 'Z' then some (c.toNat - 'A'.toNat + 10)
    else digitValue? c
  v.filter (· < base)

/-! ## Integers -/

/-- Reads digits with single underscores between them; `acc` is the number so far and
`isOpen` says that a digit stands just before. -/
def readDigits (base : Nat) : List Char → Bool → Nat → Option Nat
  | [], isOpen, acc => if isOpen then some acc else none
  | '_' :: r, isOpen, acc => if isOpen && !r.isEmpty then readDigits base r false acc else none
  | c :: r, _, acc => (digitIn? base c).bind fun d => readDigits base r true (acc * base + d)

/-- A base that is no power of two limits the length of a written integer, because its
conversion takes quadratic time: this many digits are read, and not one more. -/
def maxDigits : Nat := 4300

/-- What a fault says about an integer with too many digits. -/
def longIntegerMessage (digits : Nat) : String :=
  s!"Exceeds the limit ({maxDigits} digits) for integer string conversion: value has {digits} "
    ++ "digits; use sys.set_int_max_str_digits() to increase the limit"

/-- Why a text is no integer. -/
inductive IntFault where
  /-- It is not written as an integer. -/
  | illFormed
  /-- It has this many digits, which is more than are read. -/
  | tooLong (digits : Nat)
  deriving DecidableEq, Repr

/-- Drops a leading `0b`, `0o` or `0x` that announces the base, and one underscore
after it. -/
def dropBaseMark (base : Nat) (s : List Char) : List Char :=
  let mark : List Char := match base with
    | 2 => ['b', 'B']
    | 8 => ['o', 'O']
    | 16 => ['x', 'X']
    | _ => []
  match s with
  | '0' :: m :: r =>
    if mark.contains m then
      match r with
      | '_' :: r' => r'
      | _ => r
    else s
  | _ => s

/-- Reads digits after the sign. -/
def readMagnitude (base : Nat) (s : List Char) : Except IntFault Nat :=
  let digits := dropBaseMark base s
  match readDigits base digits false 0 with
  | none => .error .illFormed
  | some n =>
    let count := (digits.filter (· ≠ '_')).length
    if base = 10 && maxDigits < count then .error (.tooLong count) else .ok n

/-- An integer with an optional sign, between optional blanks. -/
def readInt (base : Nat) (s : List Char) : Except IntFault Int :=
  match trim s with
  | '-' :: r => (readMagnitude base r).map fun n => -(n : Int)
  | '+' :: r => (readMagnitude base r).map fun n => (n : Int)
  | r => (readMagnitude base r).map fun n => (n : Int)

end OpenApiClient.Text
