/-
Reading floating-point numbers.

A number is written with digits, a point, an exponent and a sign, as far as it needs them,
between optional blanks; single underscores may stand between digits.  Infinity and the
value that is no number are written as words.
-/

import OpenApiClient.Number.Shortest
import OpenApiClient.Text.Digit

set_option autoImplicit false

namespace OpenApiClient.Number

/-- A run of digits with single underscores between them, as its digits. -/
def spacedDigits? : List Char → Bool → Option (List Nat)
  | [], isOpen => if isOpen then some [] else none
  | '_' :: r, isOpen => if isOpen && !r.isEmpty then spacedDigits? r false else none
  | c :: r, _ =>
    match Text.digitValue? c with
    | some d => (spacedDigits? r true).map (d :: ·)
    | none => none

/-- A run of digits, which may be empty. -/
def digitsOrNone? (s : List Char) : Option (List Nat) :=
  if s.isEmpty then some [] else spacedDigits? s false

/-- The number that digits are. -/
def valueOf (digits : List Nat) : Nat := digits.foldl (fun n d => n * 10 + d) 0

/-- Reads an exponent after its letter. -/
def exponent? (s : List Char) : Option Int :=
  match s with
  | '-' :: r => (spacedDigits? r false).map fun ds => -(valueOf ds : Int)
  | '+' :: r => (spacedDigits? r false).map fun ds => (valueOf ds : Int)
  | _ => (spacedDigits? s false).map fun ds => (valueOf ds : Int)

/-- Reads digits with a point among them or at an end of them, and an exponent. -/
def decimal? (s : List Char) : Option Float := do
  let isMark (c : Char) : Bool := c = 'e' || c = 'E'
  let mantissa := s.takeWhile (!isMark ·)
  let exponent ← match s.dropWhile (!isMark ·) with
    | [] => some 0
    | _ :: r => exponent? r
  let whole ← digitsOrNone? (mantissa.takeWhile (· ≠ '.'))
  let fraction ← digitsOrNone? ((mantissa.dropWhile (· ≠ '.')).drop 1)
  if whole.isEmpty && fraction.isEmpty then none
  else some (ofDecimal (valueOf (whole ++ fraction)) (exponent - fraction.length))

/-- Reads a number without its sign. -/
def magnitude? (s : List Char) : Option Float :=
  let lower := s.map Char.toLower
  if lower = "inf".toList || lower = "infinity".toList then some (1.0 / 0.0)
  else if lower = "nan".toList then some (0.0 / 0.0)
  else decimal? s

/-- Reads a number. -/
def read? (s : List Char) : Option Float :=
  match Text.trim s with
  | '-' :: r => (magnitude? r).map (- ·)
  | '+' :: r => magnitude? r
  | r => magnitude? r

end OpenApiClient.Number
