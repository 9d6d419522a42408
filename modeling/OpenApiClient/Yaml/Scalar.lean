/-
Values of scalars.

The tag says what a scalar is, and its text has to fit.  For a plain scalar it does, since
the tag was chosen by the text; a tag that is written may promise too much.
-/

import OpenApiClient.Number.Reader
import OpenApiClient.Text.Base64
import OpenApiClient.Value.Basic
import OpenApiClient.Yaml.Node

set_option autoImplicit false

namespace OpenApiClient.Yaml

/-! ## Numbers -/

/-- Whether a text begins with a minus sign. -/
def isNegative (s : List Char) : Bool := s.head? = some '-'

/-- Reads an integer in a base. -/
def integerIn (base : Nat) (s : List Char) : Except ValueFault Int :=
  match Text.readInt base s with
  | .ok n => .ok n
  | .error .illFormed => .error (.notInteger base (.ofList s))
  | .error (.tooLong digits) => .error (.longInteger digits)

/-- The number whose digits in base sixty these are. -/
def sixties (digits : List Int) : Int := digits.foldl (fun n d => n * 60 + d) 0

/-- An integer without its sign. -/
def unsignedInteger (s : List Char) : Except ValueFault Int :=
  match s with
  | [] => .error .emptyNumber
  | '0' :: 'b' :: r => integerIn 2 r
  | '0' :: 'x' :: r => integerIn 16 r
  | ['0'] => .ok 0
  | '0' :: _ => integerIn 8 s
  | _ =>
    if s.contains ':' then do
      return sixties (← (Text.splitOn ':' s).mapM (integerIn 10))
    else integerIn 10 s

/-- The integer that a text is.  Underscores are only there to be read more easily. -/
def integer (text : String) : Except ValueFault Int := do
  let s := text.toList.filter (· ≠ '_')
  let n ← unsignedInteger (unsigned s)
  return if isNegative s then -n else n

/-- Reads a floating-point number in base ten. -/
def floatPart (s : List Char) : Except ValueFault Float :=
  match Number.read? s with
  | some x => .ok x
  | none => .error (.notFloat (.ofList s))

/-- The number whose digits in base sixty these are, the last first; `weight` is that of the
first. -/
def sixtieths (weight : Nat) : List Float → Float → Float
  | [], sum => sum
  | d :: ds, sum => sixtieths (weight * 60) ds (sum + d * Float.ofNat weight)

/-- A floating-point number without its sign, in lower case. -/
def unsignedFloat (s : List Char) : Except ValueFault Float :=
  if s.isEmpty then .error .emptyNumber
  else if s = ".inf".toList then .ok (1.0 / 0.0)
  else if s = ".nan".toList then .ok (0.0 / 0.0)
  else if s.contains ':' then do
    return sixtieths 1 (← (Text.splitOn ':' s).mapM floatPart).reverse 0.0
  else floatPart s

/-- The floating-point number that a text is. -/
def float (text : String) : Except ValueFault Float := do
  let s := (text.toList.filter (· ≠ '_')).map Char.toLower
  let x ← unsignedFloat (unsigned s)
  return if isNegative s then -x else x

/-! ## Other scalars -/

/-- The truth value that a text is. -/
def boolean (text : String) : Except ValueFault Bool :=
  let word := String.ofList (text.toList.map Char.toLower)
  if ["yes", "true", "on"].contains word then .ok true
  else if ["no", "false", "off"].contains word then .ok false
  else .error .notBoolean

/-- The day or the moment that a text is, apart from a line feed at its end. -/
def timestamp (text : String) : Except ValueFault Scalar :=
  match Stamp.read? (withoutLastFeed text.toList) with
  | some stamp => stamp.value
  | none => .error .notTimestamp

/-- The bytes that a text stands for. -/
def binary (m : Mark) (text : String) : Except Fault (List UInt8) :=
  let s := text.toList
  let isAscii (c : Char) : Bool := c.toNat < 0x80
  match s.dropWhile isAscii with
  | c :: r =>
    let length := ((c :: r).takeWhile (!isAscii ·)).length
    failAt (.notAscii c (s.takeWhile isAscii).length length) m
  | [] =>
    match Text.decodeBase64 s with
    | .ok bytes => .ok bytes
    | .error f => failAt (.notBase64 f.message) m

/-- Lifts a fault of a value. -/
def liftValue {α : Type} (x : Except ValueFault α) : Except Fault α := x.mapError .value

/-- The scalar that a text is by a tag; none, if the tag is not one of scalars. -/
def scalarOf (m : Mark) (tag : Tag) (text : String) : Option (Except Fault Scalar) :=
  match tag with
  | .null => some (.ok .null)
  | .bool => some (liftValue (.bool <$> boolean text))
  | .int => some (liftValue (.int <$> integer text))
  | .float => some (liftValue (.float <$> float text))
  | .binary => some (.bytes <$> binary m text)
  | .timestamp => some (liftValue (timestamp text))
  | .text => some (.ok (.text text))
  | _ => none

end OpenApiClient.Yaml
