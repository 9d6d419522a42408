/-
Quoted scalars.

Between apostrophes only the apostrophe is written in a special way, namely twice.
Between quotation marks a backslash starts an escape.  In both a line break with the blanks
around it becomes one space, and every further break stays; a line may not look like the
start or the end of a document.
-/

import OpenApiClient.Text.CodePoint
import OpenApiClient.Yaml.Fault

set_option autoImplicit false

namespace OpenApiClient.Yaml

/-! ## Escapes -/

/-- The character that a backslash and one character stand for. -/
def simpleEscape? (c : Char) : Option Char :=
  match c with
  | '0' => some '\x00'
  | 'a' => some '\x07'
  | 'b' => some '\x08'
  | 't' => some '\t'
  | '\t' => some '\t'
  | 'n' => some '\n'
  | 'v' => some '\x0b'
  | 'f' => some '\x0c'
  | 'r' => some '\r'
  | 'e' => some '\x1b'
  | ' ' => some ' '
  | '"' => some '"'
  | '\\' => some '\\'
  | '/' => some '/'
  | 'N' => some '\u0085'
  | '_' => some '\u00a0'
  | 'L' => some '\u2028'
  | 'P' => some '\u2029'
  | _ => none

/-- How many digits follow the letter of a numeric escape. -/
def escapeDigits? (c : Char) : Option Nat :=
  match c with
  | 'x' => some 2
  | 'u' => some 4
  | 'U' => some 8
  | _ => none

/-- The character with a number. -/
def numberedChar (n : Nat) : Except Fault Char :=
  if n < Text.codePointEnd then .ok (Text.charOf n)
  else if n < 0x80000000 then .error (.value .noCharacter)
  else .error (.value .hugeCharacter)

/-! ## Line breaks inside quotes -/

/-- Moves over further line breaks and the blanks before them, and gives back the breaks. -/
def furtherBreaks (start : Mark) : Nat → Cursor → Except Fault (List Char × Cursor)
  | 0, c => .ok ([], c)
  | fuel + 1, c =>
    if c.atSeparator then failDuring .quoted start .separator c.mark
    else
      let c := c.skipWhile fun ch => ch = ' ' || ch = '\t'
      if isBreak c.peek then do
        let (b, c) := c.lineBreak
        let (bs, c) ← furtherBreaks start fuel c
        return (b ++ bs, c)
      else .ok ([], c)

/-- Moves over blanks, and over line breaks if there are any; gives back what they stand
for. -/
def quotedBlanks (start : Mark) (c : Cursor) : Except Fault (List Char × Cursor) :=
  let blanks := c.run fun ch => ch = ' ' || ch = '\t'
  let c := c.skip blanks.length
  if c.peek = '\x00' then failDuring .quoted start .endOfText c.mark
  else if isBreak c.peek then do
    let (b, c) := c.lineBreak
    let (bs, c) ← furtherBreaks start (c.rest.length + 1) c
    return ((if b ≠ ['\n'] then b else if bs.isEmpty then [' '] else []) ++ bs, c)
  else .ok (blanks, c)

/-! ## The text between the marks -/

/-- Reads an escape, whose backslash is next. -/
def escape (start : Mark) (c : Cursor) : Except Fault (List Char × Cursor) :=
  let c := c.next
  let ch := c.peek
  match simpleEscape? ch, escapeDigits? ch with
  | some x, _ => .ok ([x], c.next)
  | none, some n => do
    let c := c.next
    let digits := c.rest.take n
    match digits.find? (!Text.isHexDigit ·), decide (digits.length < n) with
    | some wrong, _ => wanted n wrong c
    | none, true => wanted n '\x00' c
    | none, false => return ([← numberedChar (Text.hexValue digits)], c.skip n)
  | none, none =>
    if isBreak ch then furtherBreaks start (c.rest.length + 1) c.lineBreak.2
    else failDuring .doubleQuoted start (.unknownEscape ch) c.mark
where
  /-- The digits of the escape are not all there. -/
  wanted (n : Nat) (found : Char) (c : Cursor) : Except Fault (List Char × Cursor) :=
    failDuring .doubleQuoted start
      (.expected s!"escape sequence of {n} hexadecimal numbers" found) c.mark

/-- Whether a character stands for itself between quotes of either kind. -/
def isQuotedChar (c : Char) : Bool := c ≠ '\'' && c ≠ '"' && c ≠ '\\' && !isGap c

/-- Reads up to the closing mark and over it; what is read so far is in `acc`, piece by
piece, last first. -/
def quotedText (mark : Char) (start : Mark) : Nat → List (List Char) → Cursor →
    Except Fault (List Char × Cursor)
  | 0, acc, c => .ok (acc.reverse.flatten, c)
  | fuel + 1, acc, c => do
    let ch := c.peek
    let run := c.run isQuotedChar
    if !run.isEmpty then quotedText mark start fuel (run :: acc) (c.skip run.length)
    else if ch = mark then
      if mark = '\'' && c.ahead 1 = '\'' then quotedText mark start fuel (['\''] :: acc) (c.skip 2)
      else return (acc.reverse.flatten, c.next)
    else if ch = '\\' && mark = '"' then
      let (piece, c) ← escape start c
      quotedText mark start fuel (piece :: acc) c
    else if isGap ch then
      let (piece, c) ← quotedBlanks start c
      quotedText mark start fuel (piece :: acc) c
    else quotedText mark start fuel ([ch] :: acc) c.next

/-- Reads a quoted scalar, whose opening mark is next. -/
def quotedScalar (c : Cursor) : Except Fault (String × Cursor) := do
  let (text, rest) ← quotedText c.peek c.mark (c.rest.length + 1) [] c.next
  return (.ofList text, rest)

end OpenApiClient.Yaml
