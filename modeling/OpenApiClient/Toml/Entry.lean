/-
Entries: a key, the sign of equality and a value.

Values nest, since a list holds values and an inline table holds entries, but only so deeply.
`readValue` passes itself with less fuel to the readers of lists and tables, which are written
for any reader of values, and a value that is nested too deeply uses up the fuel.

An entry changes the table that it stands in.  Its key may consist of several names, which
lead to an inner table.  A string over several lines has no value at the end of its first
line; its entry stays open, and the table waits for the rest.
-/

import OpenApiClient.Toml.Number
import OpenApiClient.Toml.Pieces
import OpenApiClient.Toml.Stamp
import OpenApiClient.Value.Key

set_option autoImplicit false

namespace OpenApiClient.Toml

/-! ## Kinds of values -/

/-- The kind of a value.  The items of a list are of one kind. -/
inductive Kind where
  | bool
  | text
  | list
  | table
  | time
  | date
  | int
  | float
  deriving DecidableEq, Repr

/-- The kind of a value. -/
def Kind.of : Value → Kind
  | .scalar (.bool _) => .bool
  | .scalar (.text _) => .text
  | .scalar (.time _) => .time
  | .scalar (.date _) | .scalar (.moment _) => .date
  | .scalar (.float _) => .float
  | .list _ => .list
  | .object _ _ => .table
  | _ => .int

/-- How a value is read; a number may have been found ill-formed before. -/
abbrev ValueReader := List Char → Bool → Except Trouble Value

/-- The empty table. -/
def emptyTable : Value := .object 0 []

/-- The number of the tables that are written as values.  Tables are told apart by their names,
so their numbers are free to say how they are written. -/
def inlineNumber : Nat := 1

/-- The empty table that is written as a value. -/
def emptyInline : Value := .object inlineNumber []

/-- The name of the kind of a table that is written as a value. -/
def inlineKind : String := "TomlDecoder.get_empty_inline_table.<locals>.DynamicInlineTableDict"

/-! ## Lists -/

/-- The items of a list; `kind` is that of the items before, if there are any. -/
def readItems (read : ValueReader) : Option Kind → List (List Char) → Except Trouble (List Value)
  | _, [] => .ok []
  | kind, p :: ps => do
    let s := Text.trim p
    if s.isEmpty then readItems read kind ps
    else
      let v ← read s true
      if kind.all (· = Kind.of v) then return v :: (← readItems read (some (Kind.of v)) ps)
      else flawed .mixedArray

/-- A list. -/
def readList (read : ValueReader) (s : List Char) : Except Trouble Value := do
  let s := Text.trim s
  return .list (← readItems read none (← itemsOf s))

/-! ## The two sides of an entry -/

/-- A line cut at the `n`-th sign of equality, or at the last one if there are fewer. -/
def cutAt (pieces : List (List Char)) (n : Nat) : List Char × List Char :=
  let n := min n (pieces.length - 1)
  (Text.joinWith ['='] (pieces.take n), Text.joinWith ['='] (pieces.drop n))

/-- Whether the right side of an entry can be a value, as far as its start shows. -/
def canBeValue (s : List Char) : Bool :=
  match s with
  | [] => true
  | c :: _ =>
    [' ', '\t', '\'', '"', '[', '\x7b'].contains c
      || Text.trim s = "true".toList || Text.trim s = "false".toList
      || (Number.read? s).isSome || (readDate? s).isSome || (leadingTime? s).isSome

/-- The right side of an entry: the number of the sign before it, its text, and whether it is
well-formed if it is a number. -/
structure RightSide where
  cut : Nat
  text : List Char
  isWellFormed : Bool

/-- Moves the cut of an entry on until what follows it can be a value. -/
def settle (pieces : List (List Char)) : Nat → RightSide → Except Trouble RightSide
  | 0, _ => flawed .dateOrNumber
  | fuel + 1, r =>
    if canBeValue r.text then .ok r
    else
      let text := (cutAt pieces (r.cut + 1)).2
      if text = r.text then flawed .dateOrNumber
      else settle pieces fuel ⟨r.cut + 1, text, r.isWellFormed && isWellFormed text⟩

/-- The key and the value of an entry as they are written, and whether the value is
well-formed if it is a number. -/
def sidesOf (line : List Char) : Except Trouble (List Char × List Char × Bool) := do
  let pieces := Text.splitOn '=' line
  let cut := firstOutside ['='] line
  let text := (cutAt pieces cut).2
  let plain := if text.head?.any Char.isDigit then text.filter (· ≠ '_') else text
  let r ← settle pieces (pieces.length + 2) ⟨cut, plain, isWellFormed text⟩
  return (Text.trim (cutAt pieces r.cut).1, Text.trim r.text, r.isWellFormed)

/-! ## Keys -/

/-- The names of a key, some of which are quoted, given the pieces between its quotes; those
inside of quotes are names as they are. -/
def namesOf : Bool → List (List Char) → List (List Char)
  | _, [] => []
  | true, p :: ps => p :: namesOf false ps
  | false, p :: ps => (Text.splitOn '.' p).map Text.trim ++ namesOf true ps

/-- The names of a key.  Blanks beside a point belong to the name that they stand at, unless
the key has quotes. -/
def keyNames (s : List Char) : List (List Char) :=
  if s.any isQuote then namesOf false (betweenQuotes s) else Text.splitOn '.' s

/-- The names of the tables that a key leads through, and the name in the last one. -/
def readKey (s : List Char) : Except Trouble (List String × String) := do
  if s.contains '.' then
    let names := ((keyNames s).reverse.dropWhile List.isEmpty).reverse
    match names.getLast? with
    | none => halted .pastEnd
    | some last =>
      return (((names.dropLast.filter (!·.isEmpty))).map .ofList, .ofList (Text.trim last))
  else match s.head?, s.getLast? with
    | some a, some z =>
      if isQuote a && a = z then return ([], .ofList (← unescape (inner s)))
      else return ([], .ofList s)
    | _, _ => halted .pastEnd

/-! ## Strings over several lines -/

/-- An entry whose value goes on in the next line. -/
structure OpenEntry where
  key : String
  body : List Char
  /-- Whether the next line continues the last one, without the line end between them. -/
  isJoined : Bool
  deriving Repr

/-- Puts the last pieces of a list together until they begin with a quote. -/
def lastString : List (List Char) → List Char → Except Trouble (List Char)
  | _, [] => halted .pastEnd
  | [], last => .ok last
  | p :: ps, c :: r => if isQuote c then .ok (c :: r) else lastString ps (p ++ ',' :: c :: r)

/-- What decides whether a value goes on in the next line: itself, or the last string of a
list that has no end. -/
def lastPart (s : List Char) : Except Trouble (List Char) :=
  if s.head? = some '[' && (Text.trim s).getLast? ≠ some ']' && startsWithQuote s then
    match (Text.splitOn ',' (Text.trim (s.drop 1))).reverse with
    | [] => .ok []
    | [p] => .ok p
    | p :: ps => lastString ps p
  else .ok s

/-- Whether a value is a string that goes on in the next line. -/
def isOpen (s : List Char) : Except Trouble Bool := do
  if s.length < 3 then return false
  match ← lastPart s with
  | [] => halted .pastEnd
  | [a] => if isQuote a then halted .pastEnd else return false
  | a :: b :: r =>
    if !isQuote a || b ≠ a then return false
    else match r with
      | [] => halted .pastEnd
      | c :: r => return c = a && !(3 ≤ r.length && (r.reverse.take 3).all (· = a))

/-- Ends a line of a string over several lines. -/
def OpenEntry.endLine (key : String) (body : List Char) : OpenEntry :=
  if endsInEscape body then ⟨key, body.dropLast, true⟩ else ⟨key, body ++ ['\n'], false⟩

/-! ## Entries -/

/-- Changes the table that names lead to, where each name that is missing becomes one. -/
def within {α : Type} (names : List String) (table : Value)
    (change : Value → Except Trouble (Value × α)) : Except Trouble (Value × α) :=
  match names with
  | [] => change table
  | name :: names =>
    match table with
    | .object n ms => do
      let (inside, a) ← within names ((Members.getText? ms name).getD emptyTable) change
      return (.object n (Members.insert ms (.text name) inside), a)
    | _ => halted .noTable

/-- Adds an entry to a table that does not have its key. -/
def addEntry (key : String) (value : Value ⊕ OpenEntry) (table : Value) :
    Except Trouble (Value × Option OpenEntry) :=
  match table with
  | .object n ms =>
    if (Members.getText? ms key).isSome then flawed .duplicateKey
    else match value with
      | .inl v => .ok (.object n (Members.insert ms (.text key) v), none)
      | .inr entry => if key = "" then halted .unnamedString else .ok (table, some entry)
  | _ => flawed .duplicateKey

/-- Reads an entry into a table. -/
def readEntry (read : ValueReader) (line : List Char) (table : Value) :
    Except Trouble (Value × Option OpenEntry) := do
  let (left, right, isWellFormed) ← sidesOf line
  let (names, key) ← readKey left
  within names table fun table => do
    if ← isOpen right then addEntry key (.inr (.endLine key right)) table
    else addEntry key (.inl (← read right isWellFormed)) table

/-! ## Inline tables -/

/-- Reads entries into a table, up to one that stays open. -/
def readEntries (read : ValueReader) : List (List Char) → Value → Except Trouble Value
  | [], table => .ok table
  | p :: ps, table => do
    match ← readEntry read p table with
    | (table, none) => readEntries read ps table
    | (table, some _) => return table

/-- Reads the members of an inline table into a table. -/
def readInline (read : ValueReader) (s : List Char) (table : Value) : Except Trouble Value := do
  readEntries read (← membersOf s) table

/-! ## Values -/

/-- A word that is a truth value, or is one but for its case. -/
def truthValue (s : List Char) : Option (Except Trouble Value) :=
  let lower := s.map Char.toLower
  if s = "true".toList then some (.ok (.bool true))
  else if s = "false".toList then some (.ok (.bool false))
  else if lower = "true".toList || lower = "false".toList then some (flawed .truthCase)
  else none

/-- A value that is neither a string, a list nor a table. -/
def readScalar (s : List Char) (isWellFormed : Bool) : Except Trouble Scalar := do
  match leadingTime? s, readDate? s with
  | some t, _ => return .time (← t.value)
  | none, some d => return d
  | none, none => if isWellFormed then readNumber s else flawed .numberForm

/-- How deeply values may be nested. -/
def maxDepth : Nat := 490

/-- A value, if values are not nested more deeply than `fuel`. -/
def readValue : Nat → ValueReader
  | 0, _, _ => halted .tooDeep
  | fuel + 1, s, isWellFormed =>
    match s, truthValue s with
    | [], _ => flawed .emptyValue
    | _, some v => v
    | c :: _, none =>
      if isQuote c then (readString c s).map .text
      else if c = '[' then readList (readValue fuel) s
      else if c = '\x7b' then readInline (readValue fuel) s emptyInline
      else (readScalar s isWellFormed).map .scalar

end OpenApiClient.Toml
