/-
Charsets of several bytes for a character.

The scripts of East Asia have more characters than a byte has values.  Their charsets keep
ASCII as it is, and a byte past it begins a character of two bytes or more.  Bytes that stand
for nothing are skipped one at a time, and each of them becomes the replacement character;
what breaks off at the end becomes one of them.

The characters of such a set stand in a grid with a row for each first byte, and a column for
each second one.  Additions to a set are given as runs.
-/

import OpenApiClient.Text.Utf8

set_option autoImplicit false

namespace OpenApiClient.Text

/-! ## Tables -/

/-- A grid of characters: its first row and its first column, and the rows, in which the
replacement character stands for an empty place. -/
structure Grid where
  lead : Nat
  trail : Nat
  rows : List String

/-- The character in a place that is not empty. -/
def placed? (row : String) (column : Nat) : Option Char :=
  (row.toList[column]?).filter (· ≠ replacementChar)

/-- The character of a grid for two bytes. -/
def Grid.char? (g : Grid) (lead trail : Nat) : Option Char :=
  if lead < g.lead || trail < g.trail then none
  else (g.rows[lead - g.lead]?).bind fun row => placed? row (trail - g.trail)

/-- Runs of characters, each with the two bytes of its first one as a number. -/
abbrev Runs := List (Nat × String)

/-- The character of some runs for two bytes. -/
def Runs.char? (runs : Runs) (lead trail : Nat) : Option Char :=
  let n := lead * 0x100 + trail
  runs.findSome? fun r => if n < r.1 then none else placed? r.2 (n - r.1)

/-- The first `count` numbers from `first` on but for some, which are in order. -/
def numbersBut : Nat → Nat → List Nat → List Nat
  | 0, _, _ => []
  | count + 1, first, [] => first :: numbersBut count (first + 1) []
  | count + 1, first, n :: ns =>
    if n = first then numbersBut count (first + 1) ns
    else first :: numbersBut count (first + 1) (n :: ns)

/-! ## Reading -/

/-- What stands at the start of some bytes. -/
inductive Sign where
  /-- A character, and how many bytes it takes. -/
  | char (c : Char) (length : Nat)
  /-- A byte that stands for nothing. -/
  | bad
  /-- A character that breaks off. -/
  | short

/-- A character of two bytes, which `char?` gives for the second one. -/
def Sign.pair (rest : List UInt8) (char? : Nat → Option Char) : Sign :=
  match rest with
  | [] => .short
  | b :: _ => match char? b.toNat with
    | some c => .char c 2
    | none => .bad

/-- Reads bytes; every step takes a byte, so their number bounds the steps. -/
def readSignsFrom (first : Nat → List UInt8 → Sign) : Nat → List UInt8 → List Char
  | 0, _ => []
  | _, [] => []
  | fuel + 1, a :: r =>
    if a.toNat < 0x80 then .ofNat a.toNat :: readSignsFrom first fuel r
    else match first a.toNat r with
      | .char c n => c :: readSignsFrom first fuel (r.drop (n - 1))
      | .bad => replacementChar :: readSignsFrom first fuel r
      | .short => [replacementChar]

/-- The text that bytes stand for, where `first` says what a byte past ASCII begins with those
after it. -/
def readSigns (first : Nat → List UInt8 → Sign) (data : List UInt8) : List Char :=
  readSignsFrom first data.length data

end OpenApiClient.Text
