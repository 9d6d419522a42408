/-
Times and dates of a TOML text.

The parts of a date are taken from fixed places, and each has to be a number; what stands
between them does not matter.  A distance from universal time that cannot be read is left
out, together with the fraction of a second before it.  What then is no day of the calendar
is no date at all, and may be something else.
-/

import OpenApiClient.Number.Shortest
import OpenApiClient.Text.Digit
import OpenApiClient.Text.Split
import OpenApiClient.Toml.Fault
import OpenApiClient.Value.Calendar

set_option autoImplicit false

namespace OpenApiClient.Toml

/-! ## Times of day -/

/-- The numbers of a time of day. -/
structure TimeParts where
  hour : Nat
  minute : Nat
  second : Nat
  micro : Nat
  deriving Repr

/-- The number that decimal digits are. -/
def decimal (digits : List Char) : Nat := (Text.readDigits 10 digits false 0).getD 0

/-- A fraction after its point: three to six digits, which are counted as microseconds. -/
def timeFraction (s : List Char) : Nat :=
  match s with
  | '.' :: r =>
    let digits := (r.take 6).takeWhile Char.isDigit
    if 3 ≤ digits.length then decimal digits else 0
  | _ => 0

/-- The time of day that a text starts with. -/
def leadingTime? (s : List Char) : Option TimeParts :=
  match s with
  | a :: b :: ':' :: c :: d :: ':' :: e :: f :: r =>
    if [a, b, c, d, e, f].all Char.isDigit then
      some ⟨decimal [a, b], decimal [c, d], decimal [e, f], timeFraction r⟩
    else none
  | _ => none

/-- The time of day with the given numbers. -/
def TimeParts.value (t : TimeParts) : Except Trouble ClockTime :=
  match ClockTime.of? t.hour t.minute t.second t.micro with
  | some time => .ok time
  | none =>
    .error (.flaw (.time
      (if 23 < t.hour then .hour else if 59 < t.minute then .minute else .second)))

/-! ## Dates -/

/-- The integer at a place of a text. -/
def intAt (s : List Char) (start size : Nat) : Option Int :=
  (Text.readInt 10 ((s.drop start).take size)).toOption

/-- The natural number at a place of a text. -/
def natAt (s : List Char) (start size : Nat) : Option Nat :=
  (intAt s start size).bind fun n => if n < 0 then none else some n.toNat

/-- A distance from universal time in minutes. -/
def readOffset (s : List Char) : Option Int := do
  if s = ['Z'] then return 0
  let minutes := (← intAt s 1 2) * 60 + (← intAt s 4 2)
  return if s.head? = some '-' then -minutes else minutes

/-- The end of the microseconds of a second. -/
def microEnd : Nat := 1000000

/-- A fraction of a second of `size` characters in whole microseconds.  More than six digits
are scaled down by a floating-point number. -/
def micros (n size : Nat) : Nat :=
  if size ≤ 6 then n * Number.tenTo (6 - size)
  else
    let x := Number.ofDecimal n 0 * Number.ofDecimal 1 (6 - size)
    if x < Float.ofNat microEnd then x.toUInt64.toNat else microEnd

/-- The fraction of a second that a text is. -/
def readFraction (s : List Char) : Option Int :=
  (Text.readInt 10 s).toOption.map fun n =>
    let size := micros n.natAbs s.length
    if n < 0 then -(size : Int) else size

/-- What follows the point of a date, cut into the fraction and the distance. -/
def cutOffset (s : List Char) : List Char × Option (List Char) :=
  match s.reverse with
  | c :: r =>
    if c = 'Z' || c = 'z' then (r.reverse, some ['Z'])
    else
      let mark := if s.contains '+' then '+' else '-'
      if s.contains mark then (s.takeWhile (· ≠ mark), some (s.dropWhile (· ≠ mark)))
      else (s, none)
  | [] => ([], none)

/-- The microseconds and the distance that follow a date and a time. -/
def readTail (s : List Char) : Int × Option Int :=
  match s with
  | [] => (0, none)
  | '.' :: r =>
    match cutOffset r with
    | (fraction, none) => ((readFraction fraction).getD 0, none)
    | (fraction, some offset) =>
      match readOffset offset, readFraction fraction with
      | some minutes, some n => (n, some minutes)
      | _, _ => (0, none)
  | _ => (0, readOffset s)

/-- The day at the start of a text. -/
def dayAt (s : List Char) : Option Date := do
  Date.of? (← natAt s 0 4) (← natAt s 5 2) (← natAt s 8 2)

/-- The day, or the day and time, that a text is. -/
def readDate? (s : List Char) : Option Scalar := do
  let (micro, offset) := readTail (s.drop 19)
  if !(s.drop 1).contains '-' || micro < 0 then none
  else if s.length = 10 then return .date (← dayAt s)
  else
    let time ← ClockTime.of? (← natAt s 11 2) (← natAt s 14 2) (← natAt s 17 2) micro.toNat
    return .moment ⟨← dayAt s, time, offset⟩

end OpenApiClient.Toml
