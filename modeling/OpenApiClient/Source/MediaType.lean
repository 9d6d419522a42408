/-
The charset that a media type names.

After a media type come parameters, each after a semicolon, and one of them names the charset
of the text.  The value of a parameter may stand between quotation marks, in which a semicolon
does not count.  A long value may be given in pieces with numbers, and a piece whose name ends
in an asterisk has percent escapes; then the value begins with the charset and the language in
which it is itself written.

A charset that is not known, or has no name in ASCII, is as good as none.
-/

import OpenApiClient.Text.Blank
import OpenApiClient.Text.Charset
import OpenApiClient.Text.Percent

set_option autoImplicit false

namespace OpenApiClient.Source.MediaType

/-- Why a media type names no charset that can be looked up. -/
inductive Fault where
  /-- Some pieces of a value have numbers and others have none, so they have no order. -/
  | unordered
  | name (fault : Text.CharsetFault)
  deriving DecidableEq, Repr

/-! ## Parameters -/

/-- The parts of a text between semicolons.  `isQuoted` says whether the text before was
inside of quotation marks, and `isEscaped` whether its last character was a backslash. -/
def partsFrom (isQuoted isEscaped : Bool) : List Char → List (List Char)
  | [] => [[]]
  | c :: r =>
    if c = ';' && !isQuoted then [] :: partsFrom false false r
    else
      let isQuoted := if c = '"' && !isEscaped then !isQuoted else isQuoted
      match partsFrom isQuoted (c = '\\') r with
      | [] => [[c]]
      | p :: ps => (c :: p) :: ps

/-- The name and the value of a parameter. -/
abbrev Parameter := List Char × List Char

/-- A part of a media type as a parameter.  Without a value its name stays as it is. -/
def parameter (part : List Char) : Parameter :=
  match Text.splitFirst? '=' part with
  | some (name, value) => ((Text.trim name).map Char.toLower, Text.trim value)
  | none => (Text.trim part, [])

/-! ## Quotation marks -/

/-- A text with `new` in the place of every `old`. -/
def replace (old new : String) (s : List Char) : List Char :=
  Text.joinWith new.toList (Text.splitWord old.toList s)

/-- A text between quotation marks. -/
def quote (s : List Char) : List Char :=
  ['"'] ++ replace "\"" "\\\"" (replace "\\" "\\\\" s) ++ ['"']

/-- A text without the marks around it. -/
def unquote (s : List Char) : List Char :=
  let inner := (s.drop 1).dropLast
  if s.length < 2 then s
  else if s.head? = some '"' && s.getLast? = some '"' then
    replace "\\\"" "\"" (replace "\\\\" "\\" inner)
  else if s.head? = some '<' && s.getLast? = some '>' then inner
  else s

/-! ## Values in pieces -/

/-- A piece of a value: its number, its text, and whether it has escapes. -/
structure Piece where
  number : Option Nat
  text : List Char
  isEscaped : Bool

/-- The name and the number that the name of a piece is made of. -/
def pieceName? (name : List Char) : Option (List Char × Option Nat) :=
  let word := name.takeWhile fun c => c.isAlphanum || c = '_'
  match name.drop word.length with
  | '*' :: r =>
    let digits := r.takeWhile Char.isDigit
    let rest := r.drop digits.length
    if word.isEmpty then none
    else if digits.isEmpty then if rest.isEmpty then some (word, none) else none
    else if rest.isEmpty || rest = ['*'] then some (word, some (Nat.ofDigitChars 10 digits 0))
    else none
  | _ => none

/-- The piece that a parameter is, with its name. -/
def piece? (p : Parameter) : Option (List Char × Piece) :=
  (pieceName? p.1).map fun (name, number) =>
    (name, ⟨number, unquote p.2, p.1.getLast? = some '*'⟩)

/-- Whether a piece comes before another one, or is as good as the other one. -/
def Piece.le (p q : Piece) : Bool :=
  if p.number ≠ q.number then p.number.getD 0 ≤ q.number.getD 0
  else if p.text ≠ q.text then p.text < q.text
  else !p.isEscaped || q.isEscaped

/-- Whether either all pieces have numbers or none has one. -/
def areOrdered (pieces : List Piece) : Bool :=
  pieces.all (·.number.isSome) || pieces.all (·.number.isNone)

/-- The text of a piece without its escapes. -/
def Piece.plain (p : Piece) : List Char :=
  if p.isEscaped then (Text.Percent.bytesOf p.text).map fun b => .ofNat b.toNat else p.text

/-- The text that bytes stand for in the charset with a name, or the text itself if they
stand for none. -/
def readNamed (name text : List Char) : Except Text.CharsetFault (List Char) := do
  let name := if name.isEmpty then "ascii".toList else name
  match ← Text.Charset.ofName? name with
  | some charset =>
    return (charset.readExactly? (text.map fun c => c.toNat.toUInt8)).getD text
  | none => return text

/-- The value that pieces make up. -/
def valueOf (pieces : List Piece) : Except Text.CharsetFault (List Char) :=
  let pieces := pieces.mergeSort Piece.le
  let quoted := quote (pieces.flatMap Piece.plain)
  if !pieces.any (·.isEscaped) then .ok (unquote quoted)
  else match Text.splitOn '\'' ((quoted.drop 1).dropLast) with
    | name :: _ :: p :: ps =>
      readNamed name (unquote (['"'] ++ Text.joinWith ['\''] (p :: ps) ++ ['"']))
    | _ => readNamed [] (unquote quoted)

/-! ## The charset -/

/-- Whether a parameter is the one that names the charset. -/
def isCharset (name : List Char) : Bool := name.map Char.toLower = "charset".toList

/-- The value of the parameter that names the charset.  Values in pieces come last. -/
def charsetName? (mediaType : String) : Except Fault (Option (List Char)) := do
  let parameters := (partsFrom false false mediaType.toList).map parameter
  let later := parameters.drop 1
  let pieces := later.filterMap piece?
  let ofName (name : List Char) : List Piece := (pieces.filter (·.1 = name)).map (·.2)
  if !pieces.all fun p => areOrdered (ofName p.1) then throw .unordered
  let whole := parameters.take 1
    ++ ((later.filter fun p => (pieceName? p.1).isNone).map fun p => (p.1, quote (unquote p.2)))
  match whole.find? fun p => isCharset p.1 with
  | some p => return some (unquote p.2)
  | none =>
    match pieces.find? fun p => isCharset p.1 with
    | some p => return some (← (valueOf (ofName p.1)).mapError .name)
    | none => return none

/-- The charset of a text with a media type. -/
def charset (mediaType : String) : Except Fault Text.Charset := do
  match ← charsetName? mediaType with
  | none => return .utf8
  | some name =>
    if name.all fun c => c.toNat < 0x80 then
      return ((← (Text.Charset.ofName? name).mapError .name)).getD .utf8
    else return .utf8

end OpenApiClient.Source.MediaType
