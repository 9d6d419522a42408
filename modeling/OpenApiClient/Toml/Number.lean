/-
Numbers of a TOML text.

What is neither a string nor a list, a table, a truth value or a date has to be a number.
An integer has a base, which two characters at its start name, and may hold underscores; a
number with a point or an exponent is a floating-point number.
-/

import OpenApiClient.Number.Reader
import OpenApiClient.Text.Digit
import OpenApiClient.Text.Split
import OpenApiClient.Toml.Fault

set_option autoImplicit false

namespace OpenApiClient.Toml

/-! ## The form of a number -/

/-- Whether `pair` stands in a text. -/
def hasPair (a b : Char) (s : List Char) : Bool := Text.occurs [a, b] s

/-- Whether zeros and underscores stand only where they may in a number.  The rest of the
number is not looked at. -/
def isWellFormed (s : List Char) : Bool :=
  let s := Text.trim s
  match s with
  | [] => false
  | [c] => c ≠ '_'
  | a :: b :: r =>
    a ≠ '_' && s.getLast? ≠ some '_' && !hasPair '_' '.' s && !hasPair '.' '_' s
      && (a ≠ '0' || ['.', 'o', 'b', 'x'].contains b)
      && !((a = '+' || a = '-') && b = '0' && r.head?.any (· ≠ '.'))
      && !hasPair '_' '_' s

/-! ## Integers -/

/-- The base that the start of an integer without a sign names. -/
def baseOf (s : List Char) : Nat :=
  match s with
  | '0' :: c :: _ =>
    if c = 'x' || c = 'X' then 16 else if c = 'o' || c = 'O' then 8
    else if c = 'b' || c = 'B' then 2 else 10
  | _ => 10

/-- Reads an integer without a sign.  One with a zero at its start is zero. -/
def readNatural (s : List Char) : Except Text.IntFault Nat := do
  let n ← Text.readMagnitude (baseOf s) s
  if baseOf s = 10 && n ≠ 0 && s.head?.any (fun c => Text.digitValue? c = some 0) then
    throw .illFormed
  else return n

/-- Reads an integer. -/
def readInteger (s : List Char) : Except Text.IntFault Int :=
  match Text.trim s with
  | '-' :: r => (readNatural r).map fun n => -(n : Int)
  | '+' :: r => (readNatural r).map fun n => (n : Int)
  | r => (readNatural r).map fun n => (n : Int)

/-! ## Numbers -/

/-- Whether a text is written as a floating-point number. -/
def isFractional (s : List Char) : Bool :=
  s.contains '.' || (!s.contains 'x' && (s.contains 'e' || s.contains 'E'))

/-- Whether a text is one of the two words that are numbers. -/
def isNumberWord (s : List Char) : Bool :=
  let lower := s.map Char.toLower
  lower = ['i', 'n', 'f'] || lower = ['n', 'a', 'n']

/-- The floating-point number that a text is. -/
def readFloat (s : List Char) : Except Trouble Float :=
  match Number.read? s with
  | some x => .ok x
  | none => .error (.flaw (.notFloat s))

/-- The number without its sign that a text is. -/
def readUnsigned (s : List Char) : Except Trouble Scalar := do
  if isFractional s then
    if (Text.splitFirst? '.' s).any (·.2.isEmpty) then throw (.flaw .noFraction)
    else if !s.head?.any Char.isDigit then throw (.flaw .noLeadingDigit)
    else return .float (← readFloat s)
  else if isNumberWord s then return .float (← readFloat s)
  else match readInteger s with
    | .ok n => return .int n
    | .error (.tooLong n) => throw (.flaw (.longInteger n))
    | .error .illFormed => throw (.flaw (.notInteger s))

/-- The number that a text is, subtracted from zero. -/
def negated : Scalar → Scalar
  | .int n => .int (0 - n)
  | .float x => .float (0.0 - x)
  | s => s

/-- The number that a text is. -/
def readNumber (s : List Char) : Except Trouble Scalar :=
  let plain (r : List Char) := r.filter (· ≠ '_')
  match s with
  | '-' :: r => (readUnsigned (plain r)).map negated
  | '+' :: r => readUnsigned (plain r)
  | _ => readUnsigned (plain s)

end OpenApiClient.Toml
