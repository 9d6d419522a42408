/-
Literal and folded scalars.

The text of a block scalar stands on lines of its own, all indented alike.  The indentation
is given in the header or found at the first line that is not empty.  A folded scalar joins
two lines unless one of them begins with a blank.  The header also says what becomes of the
line breaks at the end: one stays, none stays, or all stay.
-/

import OpenApiClient.Yaml.Fault

set_option autoImplicit false

namespace OpenApiClient.Yaml

/-! ## The header -/

/-- What becomes of the line breaks at the end. -/
inductive Chomping where
  | clip
  | strip
  | keep
  deriving DecidableEq, Repr

/-- The header of a block scalar. -/
structure BlockHeader where
  chomping : Chomping := .clip
  increment : Option Nat := none
  deriving Repr

/-- The chomping that a character stands for. -/
def Chomping.ofChar? (c : Char) : Option Chomping :=
  if c = '+' then some .keep else if c = '-' then some .strip else none

/-- Reads the digit of a header, if it is next. -/
def headerDigit (start : Mark) (c : Cursor) : Except Fault (Option Nat × Cursor) :=
  let ch := c.peek
  if ch = '0' then failDuring .blockScalar start .zeroIndent c.mark
  else if ch.isDigit then .ok (some (ch.toNat - '0'.toNat), c.next)
  else .ok (none, c)

/-- Reads the two parts of a header, which stand in either order. -/
def headerParts (start : Mark) (c : Cursor) : Except Fault (BlockHeader × Cursor) := do
  match Chomping.ofChar? c.peek with
  | some chomping =>
    let (increment, c) ← headerDigit start c.next
    return (⟨chomping, increment⟩, c)
  | none =>
    let (increment, c) ← headerDigit start c
    match increment, Chomping.ofChar? c.peek with
    | some n, some chomping => return (⟨chomping, some n⟩, c.next)
    | _, _ => return (⟨.clip, increment⟩, c)

/-- Moves over the rest of a line that may hold a comment only. -/
def restOfLine (activity : Activity) (start : Mark) (c : Cursor) : Except Fault Cursor :=
  let c := (c.skipWhile (· = ' ')).skipComment
  if endsLine c.peek then .ok c.lineBreak.2
  else failDuring activity start (.expected "a comment or a line break" c.peek) c.mark

/-- Reads a header after its indicator, with the rest of its line. -/
def blockHeader (start : Mark) (c : Cursor) : Except Fault (BlockHeader × Cursor) := do
  let (header, c) ← headerParts start c
  if !endsWord c.peek then
    failDuring .blockScalar start (.expected "chomping or indentation indicators" c.peek) c.mark
  else return (header, ← restOfLine .blockScalar start c)

/-! ## The lines -/

/-- Moves over empty lines in search of the first other one; gives back the line breaks and
the largest column that was reached. -/
def findIndent : Nat → Nat → Cursor → List Char × Nat × Cursor
  | 0, widest, c => ([], widest, c)
  | fuel + 1, widest, c =>
    if c.peek = ' ' then
      let c := c.next
      findIndent fuel (max widest c.mark.column) c
    else if isBreak c.peek then
      let (b, c) := c.lineBreak
      let (bs, widest, c) := findIndent fuel widest c
      (b ++ bs, widest, c)
    else ([], widest, c)

/-- Moves over spaces up to a column. -/
def skipIndent (indent : Nat) (c : Cursor) : Cursor :=
  c.skip (min (c.run (· = ' ')).length (indent - c.mark.column))

/-- Moves over empty lines and up to the indentation of the next line; gives back the line
breaks. -/
def emptyLines (indent : Nat) : Nat → Cursor → List Char × Cursor
  | 0, c => ([], c)
  | fuel + 1, c =>
    let c := skipIndent indent c
    if isBreak c.peek then
      let (b, c) := c.lineBreak
      let (bs, c) := emptyLines indent fuel c
      (b ++ bs, c)
    else ([], c)

/-- Whether a line of the text starts here. -/
def atLine (indent : Nat) (c : Cursor) : Bool := c.mark.column = indent && c.peek ≠ '\x00'

/-- The text of a block scalar so far, and the line breaks after it: the first one and the
others. -/
structure BlockLines where
  text : List Char
  first : List Char
  others : List Char

/-- Whether a character is a blank at the start of a line. -/
def isLeadingBlank (c : Char) : Bool := c = ' ' || c = '\t'

/-- Reads the lines of a block scalar, the first of which starts here. -/
def blockLines (folded : Bool) (indent : Nat) : Nat → BlockLines → Cursor → BlockLines × Cursor
  | 0, ls, c => (ls, c)
  | fuel + 1, ls, c =>
    if !atLine indent c then (ls, c)
    else
      let leading := isLeadingBlank c.peek
      let line := c.run (!endsLine ·)
      let (first, after) := (c.skip line.length).lineBreak
      let (others, after) := emptyLines indent (after.rest.length + 1) after
      let text := ls.text ++ ls.others ++ line
      if !atLine indent after then (⟨text, first, others⟩, after)
      else
        let joint :=
          if folded && first = ['\n'] && !leading && !isLeadingBlank after.peek then
            if others.isEmpty then [' '] else []
          else first
        blockLines folded indent fuel ⟨text ++ joint, first, others⟩ after

/-- The text of a block scalar with what its header leaves of the line breaks at the end. -/
def BlockLines.chomp (ls : BlockLines) : Chomping → List Char
  | .strip => ls.text
  | .clip => ls.text ++ ls.first
  | .keep => ls.text ++ ls.first ++ ls.others

/-- Reads a block scalar, whose indicator is next, inside a collection whose entries stand
at column `outer`. -/
def blockScalar (outer : Int) (c : Cursor) : Except Fault (String × Cursor) := do
  let folded := c.peek = '>'
  let (header, c) ← blockHeader c.mark c.next
  let least := (max (outer + 1) 1).toNat
  let (breaks, indent, c) := match header.increment with
    | none =>
      let (breaks, widest, c) := findIndent (c.rest.length + 1) 0 c
      (breaks, max least widest, c)
    | some n =>
      let indent := least + n - 1
      let (breaks, c) := emptyLines indent (c.rest.length + 1) c
      (breaks, indent, c)
  let (ls, c) := blockLines folded indent (c.rest.length + 1) ⟨[], [], breaks⟩ c
  return (.ofList (ls.chomp header.chomping), c)

end OpenApiClient.Yaml
