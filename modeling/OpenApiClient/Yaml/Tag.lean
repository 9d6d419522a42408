/-
Tags, and the tags of plain scalars.

A tag says what kind of value a node is.  A plain scalar without a tag gets one by its
spelling; the first character decides which kinds are looked at, so a number is never
taken for a word.  Whatever fits nothing is a text.
-/

import OpenApiClient.Text.Split
import OpenApiClient.Yaml.Timestamp

set_option autoImplicit false

namespace OpenApiClient.Yaml

/-! ## Tags -/

/-- A tag. -/
inductive Tag where
  | null
  | bool
  | int
  | float
  | binary
  | timestamp
  | text
  | list
  | map
  | set
  | orderedMap
  | pairs
  /-- Takes over the pairs of other maps. -/
  | merge
  /-- The value proper of a map that stands for a scalar. -/
  | value
  | other (name : String)
  deriving DecidableEq, Repr, Inhabited

/-- What the names of the common tags begin with. -/
def tagStem : String := "tag:yaml.org,2002:"

/-- The common tags with the ends of their names. -/
def Tag.common : List (String × Tag) := [("null", .null), ("bool", .bool), ("int", .int),
  ("float", .float), ("binary", .binary), ("timestamp", .timestamp), ("str", .text),
  ("seq", .list), ("map", .map), ("set", .set), ("omap", .orderedMap), ("pairs", .pairs),
  ("merge", .merge), ("value", .value)]

/-- The tag of a name. -/
def Tag.ofName (name : String) : Tag :=
  match (Text.dropWord? tagStem.toList name.toList).bind fun r => common.lookup (.ofList r) with
  | some t => t
  | none => .other name

/-- The name of a tag. -/
def Tag.name : Tag → String
  | .other name => name
  | t => tagStem ++ ((common.find? fun c => c.2 = t).map (·.1)).getD ""

/-- Whether a tag is one of collections. -/
def Tag.isCollection : Tag → Bool
  | .list | .map | .set | .orderedMap | .pairs => true
  | _ => false

/-- Whether a tag is one of lists of single pairs. -/
def Tag.isPairList : Tag → Bool
  | .orderedMap | .pairs => true
  | _ => false

/-- Whether a tag is one of collections that take over pairs. -/
def Tag.takesOver : Tag → Bool
  | .map | .set => true
  | _ => false

/-! ## Spellings -/

/-- A text without its sign. -/
def unsigned (s : List Char) : List Char :=
  match s with
  | '+' :: r => r
  | '-' :: r => r
  | _ => s

/-- Whether a character is a digit or an underscore. -/
def isDigitOrUnderscore (c : Char) : Bool := c.isDigit || c = '_'

/-- Whether a text is a digit, and then digits and underscores. -/
def isSpacedNumber (s : List Char) : Bool :=
  match s with
  | c :: r => c.isDigit && r.all isDigitOrUnderscore
  | [] => false

/-- Whether a text is a group of a number in base sixty. -/
def isSixtieth (s : List Char) : Bool :=
  match s with
  | [a] => a.isDigit
  | [a, b] => '0' ≤ a && a ≤ '5' && b.isDigit
  | _ => false

/-- Whether a text is nothing or an exponent, which has to have a sign. -/
def isSignedExponent (s : List Char) : Bool :=
  match s with
  | [] => true
  | e :: sign :: digits =>
    (e = 'e' || e = 'E') && (sign = '+' || sign = '-') && !digits.isEmpty && digits.all Char.isDigit
  | [_] => false

/-- Whether a text is a fraction after its point, with an exponent if there is one. -/
def isFraction (s : List Char) : Bool := isSignedExponent (s.dropWhile isDigitOrUnderscore)

/-- Whether a text is a number with a point. -/
def isPointNumber (s : List Char) : Bool :=
  match Text.splitFirst? '.' (unsigned s) with
  | some ([], r) =>
    s.head? = some '.' && (r.head?.map Char.isDigit).getD false && isFraction r
  | some (whole, r) => isSpacedNumber whole && isFraction r
  | none => false

/-- Whether a text is a number in base sixty with a point. -/
def isSixtyNumber (s : List Char) : Bool :=
  match Text.splitFirst? '.' (unsigned s) with
  | some (whole, r) =>
    match Text.splitOn ':' whole with
    | first :: group :: groups =>
      isSpacedNumber first && (group :: groups).all isSixtieth && r.all isDigitOrUnderscore
    | _ => false
  | none => false

/-- The spellings of infinity and of what is no number. -/
def specialNumbers : List String :=
  [".inf", ".Inf", ".INF", "+.inf", "+.Inf", "+.INF", "-.inf", "-.Inf", "-.INF",
    ".nan", ".NaN", ".NAN"]

/-- Whether a plain scalar is a floating-point number. -/
def isFloat (s : List Char) : Bool :=
  isPointNumber s || isSixtyNumber s || specialNumbers.contains (.ofList s)

/-- Whether a character is a digit of a base or an underscore. -/
def isSpacedDigit (base : Nat) (c : Char) : Bool :=
  c = '_' || (c.toNat < 0x80 && (Text.digitIn? base c).isSome)

/-- Whether a plain scalar is an integer. -/
def isInt (s : List Char) : Bool :=
  match unsigned s with
  | '0' :: 'b' :: r => !r.isEmpty && r.all (isSpacedDigit 2)
  | '0' :: 'x' :: r => !r.isEmpty && r.all (isSpacedDigit 16)
  | '0' :: r => r.all (isSpacedDigit 8)
  | r =>
    match Text.splitOn ':' r with
    | first :: groups => isSpacedNumber first && groups.all isSixtieth
    | [] => false

/-- The spellings of the truth values. -/
def boolWords : List String :=
  ["yes", "Yes", "YES", "no", "No", "NO", "true", "True", "TRUE", "false", "False", "FALSE",
    "on", "On", "ON", "off", "Off", "OFF"]

/-- The spellings of the absent value. -/
def nullWords : List String := ["", "~", "null", "Null", "NULL"]

/-- A text without the line feed at its end, if something stands before that. -/
def withoutLastFeed (s : List Char) : List Char :=
  if 1 < s.length && s.getLast? = some '\n' then s.dropLast else s

/-- The tag of a plain scalar.  A quoted one that is to be read as a plain one may have a line
feed at its end, which does not count. -/
def Tag.ofPlain (written : String) : Tag :=
  let s := withoutLastFeed written.toList
  let text := String.ofList s
  if boolWords.contains text then .bool
  else if isFloat s then .float
  else if isInt s then .int
  else if text = "<<" then .merge
  else if nullWords.contains text then .null
  else if isTimestamp s then .timestamp
  else if text = "=" then .value
  else .text

end OpenApiClient.Yaml
