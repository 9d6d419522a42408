/-
Plain scalars.

A plain scalar goes on until something that cannot belong to it: a colon before a gap, a
comment, a line that stands too far out, a line that ends or starts a document, and inside
brackets every character that structures them.  Line breaks inside are folded like those in
quotes.  After a line break a new key may begin, which the reader of tokens has to know, so
`plainScalar` says whether one was crossed at its end.
-/

import OpenApiClient.Yaml.Fault

set_option autoImplicit false

namespace OpenApiClient.Yaml

/-- How far a plain scalar goes on without a gap. -/
def plainLength (inFlow : Bool) : List Char → Nat
  | [] => 0
  | c :: r =>
    let following := r.headD '\x00'
    let isColon := c = ':' && (isGap following
      || (inFlow && [',', '[', ']', '\x7b', '\x7d'].contains following))
    let isIndicator := inFlow && [',', '?', '[', ']', '\x7b', '\x7d'].contains c
    if isGap c || isColon || isIndicator then 0 else plainLength inFlow r + 1

/-- Moves over spaces and line breaks and gives back the breaks; none, if a document ends or
starts on the way. -/
def plainBreaks : Nat → Cursor → Option (List Char) × Cursor
  | 0, c => (some [], c)
  | fuel + 1, c =>
    let c := c.skipWhile (· = ' ')
    if isBreak c.peek then
      let (b, c) := c.lineBreak
      if c.atSeparator then (none, c)
      else
        let (bs, c) := plainBreaks fuel c
        (bs.map (b ++ ·), c)
    else (some [], c)

/-- What the blanks between two parts of a plain scalar stand for, whether a line break is
among them, and where they end. -/
def plainBlanks (c : Cursor) : List Char × Bool × Cursor :=
  let spaces := c.run (· = ' ')
  let c := c.skip spaces.length
  if isBreak c.peek then
    let (b, c) := c.lineBreak
    if c.atSeparator then ([], true, c)
    else
      match plainBreaks (c.rest.length + 1) c with
      | (none, c) => ([], true, c)
      | (some bs, c) =>
        ((if b ≠ ['\n'] then b else if bs.isEmpty then [' '] else []) ++ bs, true, c)
  else (spaces, false, c)

/-- A plain scalar as far as it was read: its text, the place where it ends, and whether a
line break was crossed after it. -/
structure PlainPart where
  text : List Char
  stop : Mark
  crossed : Bool

/-- Reads the parts of a plain scalar; `blanks` stand before the next one. -/
def plainParts (inFlow : Bool) (indent : Int) : Nat → PlainPart → List Char → Cursor →
    PlainPart × Cursor
  | 0, part, _, c => (part, c)
  | fuel + 1, part, blanks, c =>
    let n := if c.peek = '#' then 0 else plainLength inFlow c.rest
    if n = 0 then (part, c)
    else
      let text := part.text ++ blanks ++ c.rest.take n
      let c := c.skip n
      let (blanks, crossed, after) := plainBlanks c
      let part : PlainPart := ⟨text, c.mark, crossed⟩
      if blanks.isEmpty || after.peek = '#' || (!inFlow && (after.mark.column : Int) < indent) then
        (part, after)
      else plainParts inFlow indent fuel part blanks after

/-- Reads a plain scalar that stands inside a collection whose entries stand at column
`indent`. -/
def plainScalar (inFlow : Bool) (indent : Int) (c : Cursor) : PlainPart × Cursor :=
  plainParts inFlow (indent + 1) (c.rest.length + 1) ⟨[], c.mark, false⟩ [] c

end OpenApiClient.Yaml
