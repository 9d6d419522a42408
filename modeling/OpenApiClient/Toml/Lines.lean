/-
The lines of a TOML text.

A text is gone through once, character by character, to find out where its keys, strings,
table headers, lists and comments are.  The outcome is a text of the same length in which
every entry is on one line: a comment is blank, and a line end inside a list is a space.
Only strings over several lines keep their line ends, apart from one directly after the
opening quotes, in place of which these move on by one character.

Since the length stays, a position in the outcome is one in the text.  The scan looks at
characters that it has passed, to see whether a quote is the third in a row.  Before the
start of the text it finds the end of the text, as if both ends were joined.
-/

import OpenApiClient.Text.Blank
import OpenApiClient.Text.WordChar
import OpenApiClient.Toml.Fault

set_option autoImplicit false

namespace OpenApiClient.Toml

/-! ## The state of a scan -/

/-- Where a scan is with respect to a key. -/
inductive KeyPart where
  | outside
  | inside
  /-- After a name of the key, where more names may follow. -/
  | after
  deriving DecidableEq, Repr

/-- What a table header declares. -/
inductive Header where
  | table
  /-- One more table of a list of tables. -/
  | item
  deriving DecidableEq, Repr

/-- The state of a scan. -/
structure Scan where
  position : Nat := 0
  /-- The characters of the outcome, the last one first. -/
  before : List Char
  key : KeyPart := .outside
  /-- Whether the key consists of several names. -/
  isDotted : Bool := false
  /-- The quote that ends the string that the scan is in. -/
  quote : Option Char := none
  /-- Whether the string goes over several lines. -/
  isBlock : Bool := false
  /-- The header that the scan is in. -/
  header : Option Header := none
  /-- How many lists are open. -/
  depth : Int := 0
  isLineStart : Bool := true
  isComment : Bool := false
  deriving Repr

namespace Scan

/-- Moves over a character, which is `c` in the outcome. -/
def push (s : Scan) (c : Char) : Scan :=
  { s with position := s.position + 1, before := c :: s.before }

/-- Stops at the character that the scan is at. -/
def fail {α : Type} (s : Scan) (f : Flaw) : Except Fault α := .error (.flaw f s.position)

/-! ## Keys -/

/-- The part of a key that follows a blank or a point, which the next character decides. -/
def keyBefore (s : Scan) (next : Option Char) : Except Fault Scan :=
  match next with
  | none => .error (.halt .pastEnd)
  | some c => .ok (if Text.isBlank c || c = '.' then s else { s with key := .inside })

/-- Whether an odd number of backslashes stands at the head of a text. -/
def oddBackslashes (s : List Char) : Bool := (s.takeWhile (· = '\\')).length % 2 = 1

/-- Whether a character is one of the two quotes. -/
def isQuote (c : Char) : Bool := c = '"' || c = '\''

/-- Ends a key at the sign between it and its value. -/
def endKey (s : Scan) (c : Char) : Except Fault Scan :=
  if c = '=' then .ok { s with key := .outside, isDotted := false } else s.fail (.keyChar c)

/-- One character inside a name of a key, or after one. -/
def keyStep (s : Scan) (c : Char) (next : Option Char) : Except Fault Scan :=
  if c = '\n' then s.fail .openKeyInLine
  else match s.quote, s.key with
    | some q, _ =>
      .ok (if c = q && !oddBackslashes (s.before.take s.position) then
        { s with key := .after, quote := none } else s)
    | none, .after =>
      if Text.isBlank c then (if s.isDotted then s.keyBefore next else .ok s)
      else if c = '.' then keyBefore { s with isDotted := true } next
      else s.endKey c
    | none, _ =>
      if Text.isBlank c then .ok { s with key := .after }
      else if c = '.' then .ok { s with isDotted := true }
      else if Text.isWordChar c || c = '-' then .ok s
      else if s.isDotted && s.before.head? = some '.' && isQuote c then
        .ok { s with quote := some c }
      else s.endKey c

/-! ## Strings -/

/-- Turns to the inside of a string, or to its outside. -/
def toggle (s : Scan) (c : Char) (isTriple : Bool) : Scan :=
  let isOpen := if isTriple then !s.isBlock else s.quote.isNone
  { s with isBlock := if isTriple then isOpen else s.isBlock,
           quote := if isOpen then some c else none }

/-- A quote.  The other quote is a plain character inside of a string, and so is one after
a backslash, if the string has escapes. -/
def quoteStep (s : Scan) (c : Char) : Scan :=
  let count := ((s.before.take 2).takeWhile (· = c)).length
  let isEscaped := c = '"' && count ≠ 1 && oddBackslashes (s.before.drop count)
  if isQuote c && s.quote.all (· = c) && !isEscaped then s.toggle c (count = 2) else s

/-! ## Headers and lists -/

/-- A bracket outside of strings. -/
def bracketStep (s : Scan) (c : Char) (next : Option Char) : Scan :=
  if s.quote.isSome then s
  else match c, s.header with
    | '[', none =>
      if s.isLineStart then
        { s with header := some (if next = some '[' then .item else .table) }
      else { s with depth := s.depth + 1 }
    | ']', none => { s with depth := s.depth - 1 }
    | ']', some .table => { s with header := none }
    | ']', some .item => if s.before.head? = some ']' then { s with header := none } else s
    | _, _ => s

/-! ## Lines -/

/-- The line end after the opening quotes of a string becomes a quote, and the first of
three quotes a blank. -/
def shiftQuotes (s : Scan) : Scan :=
  match s.before with
  | a :: b :: r =>
    if isQuote a && b = a then
      let before := match r with
        | c :: r => a :: b :: (if c = a then ' ' else c) :: r
        | [] => s.before
      Scan.push { s with before := before } a
    else s.push '\n'
  | _ => s.push '\n'

/-- A line end. -/
def lineEndStep (s : Scan) : Except Fault Scan :=
  if s.isBlock then .ok s.shiftQuotes
  else if s.quote.isSome then s.fail .openQuote
  else if s.depth ≠ 0 then .ok (s.push ' ')
  else .ok (Scan.push { s with isLineStart := true } '\n')

/-- The first character of a line begins a key, unless it begins a header. -/
def startStep (s : Scan) (c : Char) : Except Fault Scan :=
  if s.isLineStart && c ≠ ' ' && c ≠ '\t' then
    let s := { s with isLineStart := false }
    if s.header.isSome then .ok s
    else if c = '=' then s.fail .emptyKey
    else .ok { s with key := .inside }
  else .ok s

/-! ## The whole text -/

/-- One character. -/
def step (s : Scan) (c : Char) (next : Option Char) : Except Fault Scan := do
  if s.key ≠ .outside then return (← s.keyStep c next).push c
  else if c = '\n' then lineEndStep { s with isComment := false }
  else if s.isComment then return s.push ' '
  else if c = '#' && s.quote.isNone && s.header.isNone then
    return Scan.push { s with isComment := true } ' '
  else return (← ((s.quoteStep c).bracketStep c next).startStep c).push c

/-- All characters. -/
def run (s : Scan) : List Char → Except Fault Scan
  | [] => .ok s
  | c :: r => do (← s.step c r.head?).run r

/-- A scan that went through the whole text may not be inside of a key or a string. -/
def finish (s : Scan) : Except Fault (List Char) :=
  if s.key ≠ .outside then s.fail .openKey
  else if s.quote.isSome then s.fail .openString
  else .ok (s.before.take s.position).reverse

end Scan

/-- The text with every entry on one line. -/
def joinLines (text : List Char) : Except Fault (List Char) := do
  (← Scan.run ⟨0, text.reverse, .outside, false, none, false, none, 0, true, false⟩ text).finish

end OpenApiClient.Toml
