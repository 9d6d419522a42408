/-
Timestamps.

A timestamp is a day, or a day with a time and perhaps a distance from universal time.
`Stamp.read?` takes one apart without a look at the calendar; `Stamp.value` then checks
that there is such a day and such a time.
-/

import OpenApiClient.Value.Calendar
import OpenApiClient.Value.Key
import OpenApiClient.Yaml.Fault

set_option autoImplicit false

namespace OpenApiClient.Yaml

/-! ## Reading -/

/-- Reads at least `least` and at most `most` digits. -/
def digitsBetween (least most : Nat) (s : List Char) : Option (Nat × List Char) :=
  let digits := (s.take most).takeWhile Char.isDigit
  if digits.length < least then none
  else some ((Text.readDigits 10 digits false 0).getD 0, s.drop digits.length)

/-- Moves over one character. -/
def expectChar (c : Char) (s : List Char) : Option (List Char) :=
  match s with
  | ch :: r => if ch = c then some r else none
  | [] => none

/-- A time of day as it is written, the fraction in microseconds, and the distance from
universal time in minutes. -/
structure StampTime where
  hour : Nat
  minute : Nat
  second : Nat
  micro : Nat
  offset : Option Int
  deriving Repr

/-- A timestamp as it is written. -/
structure Stamp where
  year : Nat
  month : Nat
  day : Nat
  time : Option StampTime
  deriving Repr

/-- Moves over the letter or the blanks between a day and a time. -/
def betweenDayAndTime (s : List Char) : Option (List Char) :=
  match s with
  | 'T' :: r => some r
  | 't' :: r => some r
  | ' ' :: _ => some (s.dropWhile fun c => c = ' ' || c = '\t')
  | '\t' :: _ => some (s.dropWhile fun c => c = ' ' || c = '\t')
  | _ => none

/-- The first six digits of a fraction as microseconds. -/
def microseconds (digits : List Char) : Nat :=
  let shown := digits.take 6
  (Text.readDigits 10 shown false 0).getD 0 * Number.tenTo (6 - shown.length)

/-- Reads the fraction of a second, if there is one. -/
def readFraction (s : List Char) : Nat × List Char :=
  match s with
  | '.' :: r =>
    let digits := r.takeWhile Char.isDigit
    (microseconds digits, r.drop digits.length)
  | _ => (0, s)

/-- Reads the size of a distance from universal time. -/
def readOffsetSize (s : List Char) : Option (Nat × List Char) := do
  let (hours, s) ← digitsBetween 1 2 s
  match s with
  | ':' :: r =>
    let (minutes, s) ← digitsBetween 2 2 r
    return (hours * 60 + minutes, s)
  | _ => return (hours * 60, s)

/-- Reads a distance from universal time, which goes up to the end. -/
def readOffset (s : List Char) : Option (Option Int) :=
  match s with
  | [] => some none
  | _ =>
    match s.dropWhile fun c => c = ' ' || c = '\t' with
    | ['Z'] => some (some 0)
    | '+' :: r => signed 1 r
    | '-' :: r => signed (-1) r
    | _ => none
where
  /-- A distance after its sign. -/
  signed (sign : Int) (r : List Char) : Option (Option Int) :=
    match readOffsetSize r with
    | some (n, []) => some (some (sign * n))
    | _ => none

/-- Reads a time, which goes up to the end. -/
def readTime (s : List Char) : Option StampTime := do
  let (hour, s) ← digitsBetween 1 2 s
  let (minute, s) ← digitsBetween 2 2 (← expectChar ':' s)
  let (second, s) ← digitsBetween 2 2 (← expectChar ':' s)
  let (micro, s) := readFraction s
  return ⟨hour, minute, second, micro, ← readOffset s⟩

/-- Reads a timestamp. -/
def Stamp.read? (s : List Char) : Option Stamp := do
  let (year, s) ← digitsBetween 4 4 s
  let (month, s) ← digitsBetween 1 2 (← expectChar '-' s)
  let (day, s) ← digitsBetween 1 2 (← expectChar '-' s)
  match s with
  | [] => return ⟨year, month, day, none⟩
  | _ => return ⟨year, month, day, some (← readTime (← betweenDayAndTime s))⟩

/-- Whether a plain scalar is a timestamp.  A day alone has to have all its digits. -/
def isTimestamp (s : List Char) : Bool :=
  match Stamp.read? s with
  | some stamp => stamp.time.isSome || s.length = 10
  | none => false

/-! ## The calendar -/

/-- A day, if there is one. -/
def dayOf (year month day : Nat) : Except ValueFault Date :=
  if year = 0 then .error (.year year)
  else if month = 0 ∨ 12 < month then .error .month
  else if day = 0 ∨ daysInMonth year month < day then .error .day
  else .ok ⟨year, month, day⟩

/-- A time, if there is one. -/
def timeOf (t : StampTime) : Except ValueFault ClockTime :=
  if 23 < t.hour then .error .hour
  else if 59 < t.minute then .error .minute
  else if 59 < t.second then .error .second
  else .ok ⟨t.hour, t.minute, t.second, t.micro⟩

/-- A distance from universal time, which has to be less than a day. -/
def offsetOf (offset : Option Int) : Except ValueFault (Option Int) :=
  match offset with
  | none => .ok none
  | some n => if 1440 ≤ n.natAbs then .error (.offset n) else .ok (some n)

/-- The day, or the day and time, that a timestamp is. -/
def Stamp.value (s : Stamp) : Except ValueFault Scalar := do
  match s.time with
  | none => return .date (← dayOf s.year s.month s.day)
  | some t =>
    let offset ← offsetOf t.offset
    let date ← dayOf s.year s.month s.day
    return .moment ⟨date, ← timeOf t, offset⟩

end OpenApiClient.Yaml
