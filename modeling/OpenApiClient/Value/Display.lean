/-
Values as text.

A value is written in two ways.  Its *display* is what a reader expects where a text is
wanted: a text is itself, a number is its decimal.  Its *literal* is what a message shows:
a text is quoted, and a date is written so that it cannot be taken for a text.  Lists and
objects are displayed as their literals.

`isGiven` belongs here too: an absent, false, zero or empty value counts as not given
wherever a document may leave something out.
-/

import OpenApiClient.Value.Basic
import OpenApiClient.Number.Shortest
import OpenApiClient.Text.Quoted

set_option autoImplicit false

namespace OpenApiClient

/-! ## Dates -/

/-- A number with at least `width` digits. -/
def padded (width n : Nat) : String :=
  let digits := toString n
  String.ofList (List.replicate (width - digits.length) '0') ++ digits

/-- A day: year, month and day with hyphens. -/
def Date.display (d : Date) : String :=
  padded 4 d.year ++ "-" ++ padded 2 d.month ++ "-" ++ padded 2 d.day

/-- A time of day; microseconds are written only if there are any. -/
def ClockTime.display (t : ClockTime) : String :=
  padded 2 t.hour ++ ":" ++ padded 2 t.minute ++ ":" ++ padded 2 t.second
    ++ (if t.micro = 0 then "" else "." ++ padded 6 t.micro)

/-- A distance from universal time, in minutes. -/
def displayOffset (minutes : Int) : String :=
  let size := minutes.natAbs
  (if minutes < 0 then "-" else "+") ++ padded 2 (size / 60) ++ ":" ++ padded 2 (size % 60)

/-- A day and a time with `between` between them. -/
def Moment.displayWith (between : String) (m : Moment) : String :=
  m.date.display ++ between ++ m.time.display
    ++ (match m.offset with
      | none => ""
      | some minutes => displayOffset minutes)

/-- A distance of time in minutes as a literal: whole days and the seconds after them. -/
def literalOffset (minutes : Int) : String :=
  if minutes = 0 then "datetime.timezone.utc"
  else
    let seconds := minutes * 60
    let days := seconds.fdiv 86400
    let rest := seconds.fmod 86400
    let parts := (if days = 0 then [] else [s!"days={days}"])
      ++ (if rest = 0 then [] else [s!"seconds={rest}"])
    "datetime.timezone(datetime.timedelta(" ++ ", ".intercalate parts ++ "))"

/-- The last parts of a time are left out while they are zero, up to `optional` of
them. -/
def dropZeros : Nat → List Nat → List Nat
  | 0, parts => parts
  | n + 1, parts => if parts.getLast? = some 0 then dropZeros n parts.dropLast else parts

/-- A day as a literal. -/
def Date.literal (d : Date) : String := s!"datetime.date({d.year}, {d.month}, {d.day})"

/-- A time of day as a literal. -/
def ClockTime.literal (t : ClockTime) : String :=
  let parts := dropZeros 2 [t.hour, t.minute, t.second, t.micro]
  "datetime.time(" ++ ", ".intercalate (parts.map toString) ++ ")"

/-- A day and a time as a literal. -/
def Moment.literal (m : Moment) : String :=
  let time := dropZeros 2 [m.time.hour, m.time.minute, m.time.second, m.time.micro]
  let parts := ([m.date.year, m.date.month, m.date.day] ++ time).map toString
  let zone := match m.offset with
    | none => []
    | some minutes => ["tzinfo=" ++ literalOffset minutes]
  "datetime.datetime(" ++ ", ".intercalate (parts ++ zone) ++ ")"

/-! ## Scalars -/

namespace Scalar

/-- A scalar as a message shows it. -/
def literal : Scalar → String
  | .null => "None"
  | .bool true => "True"
  | .bool false => "False"
  | .int n => toString n
  | .float x => Number.display x
  | .text s => Text.quoted s
  | .bytes data => Text.quotedBytes data
  | .date d => d.literal
  | .moment m => m.literal
  | .time t => t.literal

/-- A scalar where a text is wanted. -/
def display : Scalar → String
  | .text s => s
  | .date d => d.display
  | .moment m => m.displayWith " "
  | .time t => t.display
  | s => s.literal

/-- Whether a scalar counts as given. -/
def isGiven : Scalar → Bool
  | .null => false
  | .bool b => b
  | .int n => n != 0
  | .float x => x != 0.0
  | .text s => s != ""
  | .bytes data => !data.isEmpty
  | .date _ | .moment _ | .time _ => true

end Scalar

/-! ## Values -/

namespace Value

mutual

/-- A value as a message shows it. -/
def literal : Value → String
  | .scalar s => s.literal
  | .list items => "[" ++ ", ".intercalate (literals items) ++ "]"
  | .object _ ms => "\x7b" ++ ", ".intercalate (memberLiterals ms) ++ "\x7d"
  | .set [] => "set()"
  | .set ms => "\x7b" ++ ", ".intercalate (ms.map Scalar.literal) ++ "\x7d"
  | .pair k v => "(" ++ literal k ++ ", " ++ literal v ++ ")"
  | .again _ => "..."

/-- The values of a list, each as a message shows it. -/
def literals : List Value → List String
  | [] => []
  | v :: vs => literal v :: literals vs

/-- The members of an object, each as a message shows it. -/
def memberLiterals : List (Scalar × Value) → List String
  | [] => []
  | (k, v) :: ms => (k.literal ++ ": " ++ literal v) :: memberLiterals ms

end

/-- A value where a text is wanted. -/
def display : Value → String
  | .scalar s => s.display
  | v => v.literal

/-- Whether a value counts as given: not absent, false, zero or empty. -/
def isGiven : Value → Bool
  | .scalar s => s.isGiven
  | .list items => !items.isEmpty
  | .object _ ms => !ms.isEmpty
  | .set ms => !ms.isEmpty
  | .pair _ _ => true
  | .again _ => true

end Value

end OpenApiClient
