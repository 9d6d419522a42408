/-
Text as ASCII that says where the other characters belong.

The ASCII characters of a text come first, then a hyphen, then a number for each of the other
characters: how many places and how many characters it is away from the one before.  A number
has digits in base 36 of which the last one shows itself, because it is below a threshold, and
the thresholds follow the numbers that came before.
-/

import OpenApiClient.Text.CodePoint

set_option autoImplicit false

namespace OpenApiClient.Text.Punycode

/-! ## Numbers -/

/-- The threshold of a digit by its place. -/
def threshold (place bias : Nat) : Nat := Nat.min 26 (Nat.max 1 (36 * (place + 1) - bias))

theorem threshold_pos (place bias : Nat) : 1 ≤ threshold place bias :=
  Nat.le_min.2 ⟨by decide, Nat.le_max_left _ _⟩

theorem threshold_le (place bias : Nat) : threshold place bias ≤ 26 := Nat.min_le_left _ _

/-- A number divided by 35 until it is small, and how often. -/
def shrink (delta times : Nat) : Nat × Nat :=
  if 455 < delta then shrink (delta / 35) (times + 1) else (delta, times)
termination_by delta
decreasing_by omega

/-- The bias after a number; `length` is the length of the text with its character. -/
def adapt (delta : Nat) (isFirst : Bool) (length : Nat) : Nat :=
  let delta := if isFirst then delta / 700 else delta / 2
  let (delta, times) := shrink (delta + delta / length) 0
  36 * times + 36 * delta / (delta + 38)

/-- The value of a digit. -/
def digitValue? (c : Char) : Option Nat :=
  if c.isAlpha then some (c.toUpper.toNat - 'A'.toNat)
  else if c.isDigit then some (c.toNat - '0'.toNat + 26)
  else none

/-- The digit with a value. -/
def digitChar (d : Nat) : Char := .ofNat (if d < 26 then 'a'.toNat + d else '0'.toNat + d - 26)

/-- Reads the digits of a number from a place on; `value` and `weight` come from those
before.  There is no number if they break off. -/
def readNumber (bias : Nat) : List Char → Nat → Nat → Nat → Option (Nat × List Char)
  | [], _, _, _ => none
  | c :: r, place, value, weight =>
    (digitValue? c).bind fun digit =>
      let t := threshold place bias
      let value := value + digit * weight
      if digit < t then some (value, r)
      else readNumber bias r (place + 1) value (weight * (36 - t))

/-- The digits of a number from a place on. -/
def writeNumber (bias place n : Nat) : List Char :=
  let t := threshold place bias
  if n < t then [digitChar n]
  else digitChar (t + (n - t) % (36 - t)) :: writeNumber bias (place + 1) ((n - t) / (36 - t))
termination_by n
decreasing_by
  have h₁ := threshold_pos place bias
  have h₂ := threshold_le place bias
  exact Nat.lt_of_le_of_lt (Nat.div_le_self _ _) (by omega)

/-! ## Reading -/

/-- A text that was read, and whether nothing was wrong with it. -/
structure Reading where
  text : List Char
  isSound : Bool

/-- Puts characters into a text, as numbers say that are written in `s`.  `n` and `place` are
the number and the place of the last character.  A number past the last character stands for
a question mark.  Every number has a digit, so the digits bound the steps. -/
def insertFrom : Nat → List Char → Nat → Nat → Nat → Bool → Reading → Reading
  | 0, _, _, _, _, _, text => text
  | _, [], _, _, _, _, text => text
  | fuel + 1, s, n, place, bias, isFirst, t =>
    match readNumber bias s 0 0 1 with
    | none => { t with isSound := false }
    | some (delta, rest) =>
      let length := t.text.length + 1
      let n := n + (place + delta) / length
      let place := (place + delta) % length
      let isSound := t.isSound && n < codePointEnd
      let n := if n < codePointEnd then n else '?'.toNat
      insertFrom fuel rest n (place + 1) (adapt delta isFirst length) false
        ⟨t.text.take place ++ charOf n :: t.text.drop place, isSound⟩

/-- Reads a text with its ASCII characters and its numbers apart. -/
def read (ascii numbers : List Char) : Reading :=
  insertFrom numbers.length numbers 0x80 0 72 true ⟨ascii, true⟩

/-- A text cut at its last hyphen. -/
def cutLast (s : List Char) : List Char × List Char :=
  let numbers := (s.reverse.takeWhile (· ≠ '-')).reverse
  ((s.take (s.length - numbers.length)).dropLast, numbers)

/-! ## Writing -/

/-- The numbers of the characters of a text that are not ASCII, in order and once each. -/
def levels (text : List Char) : List Nat :=
  ((text.map codePoint).filter (0x80 ≤ ·)).mergeSort.eraseDups

/-- Where the writer is: the digits so far, how far it has come since the last number, the
bias, and the characters that have been written. -/
structure Writing where
  digits : List Char := []
  delta : Nat := 0
  bias : Nat := 72
  written : Nat
  isFirst : Bool := true

/-- One character of the text on the way past the places for the character `n`. -/
def Writing.pass (n : Nat) (w : Writing) (c : Char) : Writing :=
  let m := codePoint c
  if m < n then { w with delta := w.delta + 1 }
  else if m = n then
    ⟨w.digits ++ writeNumber w.bias 0 w.delta, 0, adapt w.delta w.isFirst (w.written + 1),
      w.written + 1, false⟩
  else w

/-- Writes the places of the characters with the given numbers; the last one written had a
number below `n`. -/
def Writing.level (text : List Char) : List Nat → Nat → Writing → Writing
  | [], _, w => w
  | m :: ms, n, w =>
    let w := { w with delta := w.delta + (m - n) * (w.written + 1) }
    let w := text.foldl (pass m) w
    level text ms (m + 1) { w with delta := w.delta + 1 }

/-- A text as ASCII. -/
def write (text : List Char) : List Char :=
  let ascii := text.filter fun c => c.toNat < 0x80
  let w := Writing.level text (levels text) 0x80 { written := ascii.length }
  (if ascii.isEmpty then [] else ascii ++ ['-']) ++ w.digits

end OpenApiClient.Text.Punycode
