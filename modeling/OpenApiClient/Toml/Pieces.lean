/-
Cutting lines and lists of a TOML text into pieces.

Signs that separate pieces mean nothing inside of quotes, but the pieces are cut by the
signs first and put together again afterwards where a cut was in a string.  How far that
goes differs from place to place, so each kind of cut has its own function here; none of
them looks at what a piece stands for.
-/

import OpenApiClient.Text.Blank
import OpenApiClient.Toml.Quoted

set_option autoImplicit false

namespace OpenApiClient.Toml

/-! ## Names -/

/-- Whether a name needs no quotes. -/
def isBareName (s : List Char) : Bool :=
  !s.isEmpty && s.all fun c => c.isAlphanum || c = '_' || c = '-'

/-! ## Quotes in a line -/

/-- Whether a character is one of the two quotes. -/
def isQuote (c : Char) : Bool := c = '"' || c = '\''

/-- Puts pieces between double quotes together as long as the pieces between single quotes
end inside of quotes. -/
def cutSingle (singles : List (List Char)) :
    List (List Char) → List (List Char) × List (List Char)
  | [] => (singles, [])
  | d :: ds =>
    if singles.length % 2 = 0 then
      let last := singles.getLastD [] ++ '"' :: d
      cutSingle (singles.dropLast ++ Text.splitOn '\'' last) ds
    else (singles, d :: ds)

/-- The pieces of a line between its quotes; every second piece is inside of quotes. -/
def betweenQuotes (line : List Char) : List (List Char) :=
  let (before, doubles) := match Text.splitOn '"' line with
    | d :: e :: ds =>
      if d.contains '\'' then cutSingle (Text.splitOn '\'' d) (e :: ds) else ([], d :: e :: ds)
    | ds => ([], ds)
  match doubles with
  | [] => before
  | d :: ds => before ++ Text.splitOn '\'' d ++ ds

/-- How many occurrences of `word` stand in quotes before the first one outside of them. -/
def countQuoted (word : List Char) : Bool → List (List Char) → Nat
  | _, [] => 0
  | isQuoted, p :: ps =>
    let count := (Text.splitWord word p).length - 1
    if !isQuoted && count ≠ 0 then 0 else count + countQuoted word (!isQuoted) ps

/-- Which occurrence of `word` in a line is the first one outside of quotes, counted from
one. -/
def firstOutside (word line : List Char) : Nat := countQuoted word false (betweenQuotes line) + 1

/-! ## Lists of strings -/

/-- Whether the content of a list begins with a quote. -/
def startsWithQuote (list : List Char) : Bool := (Text.trim (inner list)).head?.any isQuote

/-- Whether a text ends with the character that it starts with, and not in an escape. -/
def isBounded (s : List Char) : Bool :=
  s.isEmpty || (s.getLast? = s.head? && !endsInEscape (inner s))

/-- Whether a text starts with three quotes and does not end with as many. -/
def isOpenTriple (s : List Char) : Bool :=
  match s with
  | a :: b :: c :: _ =>
    a = b && b = c && ((s.reverse.drop 1).take 2).all (· ≠ a)
  | _ => false

/-- Whether a piece of a list is a whole string. -/
def isWholeString (piece : List Char) : Bool :=
  let s := Text.trim piece
  isBounded s && !isOpenTriple s

/-- Puts the pieces of a list of strings together where a comma was in a string.  `piece`
comes before the others, and `isJoined` says that it has been put together. -/
def joinStrings (isJoined : Bool) (piece : List Char) :
    List (List Char) → Except Trouble (List (List Char))
  | [] => if isJoined && !isWholeString piece then halted .pastEnd else .ok [piece]
  | p :: ps =>
    if isWholeString piece then do return piece :: (← joinStrings false p ps)
    else joinStrings true (piece ++ ',' :: p) ps

/-- The strings of a list, given the pieces between its commas. -/
def stringsOf : List (List Char) → Except Trouble (List (List Char))
  | [] => .ok []
  | p :: ps => joinStrings false p ps

/-! ## Lists of lists -/

/-- The pieces of a list between the commas that stand outside of inner lists. -/
def splitLists (depth : Int) (piece : List Char) : List Char → List (List Char)
  | [] => [piece.reverse]
  | c :: r =>
    if c = ',' && depth = 0 then piece.reverse :: splitLists depth [] r
    else
      let depth := if c = '[' then depth + 1 else if c = ']' then depth - 1 else depth
      splitLists depth (c :: piece) r

/-! ## Lists of tables -/

/-- Where the cut of a list of tables is. -/
inductive TableCut where
  /-- In a table; its characters so far, the last one first, and whether they end in a
  string. -/
  | inside (table : List Char) (depth : Nat) (isText : Bool)
  /-- Directly after a table. -/
  | after
  | between
  deriving Repr

/-- The tables of a list.  What stands between them is left out. -/
def splitTables : TableCut → List Char → List (List Char)
  | _, [] => []
  | .after, _ :: r => splitTables .between r
  | .between, c :: r =>
    splitTables (if c = '\x7b' then .inside [c] 1 false else .between) r
  | .inside table depth isText, c :: r =>
    let isEscaped := (table.takeWhile (· = '\\')).length % 2 = 1
    let isText := if isQuote c then !isText || isEscaped else isText
    let depth := if !isText && c = '\x7b' then depth + 1 else depth
    if isText || c ≠ '\x7d' then splitTables (.inside (c :: table) depth isText) r
    else if 1 < depth then splitTables (.inside (c :: table) (depth - 1) isText) r
    else (c :: table).reverse :: splitTables .after r

/-- The tables of a list. -/
def tablesOf (list : List Char) : List (List Char) :=
  match list.drop 1 with
  | c :: r => splitTables (.inside [c] (if c = '\x7b' then 1 else 0) false) r.dropLast
  | [] => []

/-! ## Lists -/

/-- The pieces of a list, one for each item, and perhaps empty ones. -/
def itemsOf (list : List Char) : Except Trouble (List (List Char)) :=
  let body := inner list
  match (Text.trimStart body).head? with
  | some '[' => .ok (splitLists 0 [] body)
  | some '\x7b' => .ok (tablesOf list)
  | _ =>
    let pieces := Text.splitOn ',' body
    if startsWithQuote list then stringsOf pieces else .ok pieces

/-! ## Inline tables -/

/-- Whether a text is the whole value of a member of an inline table, as far as its two
ends show. -/
def isWholeValue (value : List Char) : Except Trouble Bool :=
  match value, value.getLast? with
  | a :: _, some z =>
    .ok ((a = z && isQuote a) || a = '-' || a.isDigit || value = "true".toList
      || value = "false".toList || (a = '[' && z = ']') || (a = '\x7b' && z = '\x7d'))
  | _, _ => halted .pastEnd

/-- The members of an inline table, given the pieces between its commas. -/
def joinMembers (piece : List Char) : List (List Char) → Except Trouble (List (List Char))
  | [] => do
    if ← isMember then return [piece] else flawed .inlineValue
  | p :: ps => do
    if ← isMember then return piece :: (← joinMembers p ps) else joinMembers (piece ++ ',' :: p) ps
where
  /-- Whether the piece is a whole member. -/
  isMember : Except Trouble Bool :=
    match Text.splitFirst? '=' piece with
    | some (_, value) => isWholeValue (Text.trim value)
    | none => flawed .inlineTable

/-- The members of an inline table. -/
def membersOf (table : List Char) : Except Trouble (List (List Char)) :=
  match Text.splitOn ',' (inner table) with
  | [p] => if (Text.trim p).isEmpty then .ok [] else joinMembers p []
  | p :: ps => joinMembers p ps
  | [] => .ok []

end OpenApiClient.Toml
