/-
A YAML text as tokens.

The text is gone through once.  What a token means depends on where it stands, so the
reader keeps the columns of the open block collections and the depth of brackets.

A key is recognised late: only the colon after it shows that it was one.  Wherever a key
could begin, its place is remembered, one for every depth of brackets, and when the colon
comes the tokens for the key, and for the mapping that it opens, are put in there.  A place
is given up at the end of its line.  If the block needs a key at that column, giving it up
is a fault.
-/

import OpenApiClient.Yaml.Plain
import OpenApiClient.Yaml.Property

set_option autoImplicit false

namespace OpenApiClient.Yaml

/-- A place where a key may have begun: the number of tokens before it, whether a key has to
begin there, and the place in the text. -/
structure KeyPlace where
  position : Nat
  required : Bool
  mark : Mark
  deriving Repr

/-- Where the reader stands, the tokens so far, the column of the innermost block collection
(`-1` outside of all) and those of the ones around it, the depth of brackets, the places
where keys may have begun by that depth, and whether one may begin here. -/
structure Lexer where
  cursor : Cursor
  tokens : Array Token := #[]
  indent : Int := -1
  outer : List Int := []
  depth : Nat := 0
  keys : List (Nat × KeyPlace) := []
  allowKey : Bool := true
  isDone : Bool := false

namespace Lexer

/-! ## Small steps -/

/-- Adds a token. -/
def push (l : Lexer) (t : Token) : Lexer := { l with tokens := l.tokens.push t }

/-- The reader after a scalar or another token that was read up to `c`. -/
def pushUpTo (l : Lexer) (lexeme : Lexeme) (stop : Mark) (c : Cursor) : Lexer :=
  { l.push ⟨lexeme, l.cursor.mark, stop⟩ with cursor := c }

/-- Adds a token of `n` characters. -/
def pushNext (l : Lexer) (lexeme : Lexeme) (n : Nat) : Lexer :=
  let c := l.cursor.skip n
  l.pushUpTo lexeme c.mark c

/-- Whether the reader is inside brackets. -/
def inFlow (l : Lexer) : Bool := l.depth ≠ 0

/-- The longest distance between a key and its colon. -/
def maxKeyLength : Nat := 1024

/-- Whether a place can no longer be that of a key. -/
def isStale (l : Lexer) (k : KeyPlace) : Bool :=
  k.mark.line ≠ l.cursor.mark.line || maxKeyLength < l.cursor.mark.index - k.mark.index

/-- Stops because a key had to begin at a place and has no colon. -/
def noColon {α : Type} (l : Lexer) (k : KeyPlace) : Except Fault α :=
  failDuring .simpleKey k.mark .noColon l.cursor.mark

/-- Gives up the places that can no longer be those of keys. -/
def dropStale (l : Lexer) : Except Fault Lexer :=
  match l.keys.find? fun k => l.isStale k.2 && k.2.required with
  | some k => l.noColon k.2
  | none => .ok { l with keys := l.keys.filter fun k => !l.isStale k.2 }

/-- Gives up the place at the present depth. -/
def dropKey (l : Lexer) : Except Fault Lexer :=
  match l.keys.lookup l.depth with
  | some k =>
    if k.required then l.noColon k
    else .ok { l with keys := l.keys.filter fun k => k.1 ≠ l.depth }
  | none => .ok l

/-- Remembers that a key may begin here. -/
def saveKey (l : Lexer) : Except Fault Lexer := do
  if !l.allowKey then return l
  let required := !l.inFlow && l.indent = (l.cursor.mark.column : Int)
  let l ← l.dropKey
  return { l with keys := (l.depth, ⟨l.tokens.size, required, l.cursor.mark⟩) :: l.keys }

/-- Closes one block collection after another, while they stand further in than a column. -/
def closeBlocks (column : Int) : List Int → Lexer → Lexer
  | [], l => l
  | i :: is, l =>
    if column < l.indent then
      closeBlocks column is
        { l.push (.here .blockEnd l.cursor.mark) with indent := i, outer := is }
    else l

/-- Closes the block collections that stand further in than a column.  Inside brackets
columns do not count. -/
def unwind (l : Lexer) (column : Int) : Lexer :=
  if l.inFlow then l else closeBlocks column l.outer l

/-- Opens a block collection at a column, if it stands further in than the innermost one, by
putting a token at a position. -/
def openBlock (l : Lexer) (column : Nat) (lexeme : Lexeme) (position : Nat) (m : Mark) : Lexer :=
  if l.indent < (column : Int) then
    { l with
      outer := l.indent :: l.outer
      indent := column
      tokens := l.tokens.insertIdxIfInBounds position (.here lexeme m) }
  else l

/-- Opens a block collection here. -/
def openBlockHere (l : Lexer) (lexeme : Lexeme) : Lexer :=
  l.openBlock l.cursor.mark.column lexeme l.tokens.size l.cursor.mark

/-- Moves to the next token.  Outside of brackets a key may begin on every new line. -/
def toNext : Nat → Lexer → Lexer
  | 0, l => l
  | fuel + 1, l =>
    let c := (l.cursor.skipWhile (· = ' ')).skipComment
    if isBreak c.peek then
      toNext fuel { l with cursor := c.lineBreak.2, allowKey := l.allowKey || !l.inFlow }
    else { l with cursor := c }

/-! ## Tokens -/

/-- The end of the text. -/
def streamEnd (l : Lexer) : Except Fault Lexer := do
  let l ← (l.unwind (-1)).dropKey
  return { l.push (.here .streamEnd l.cursor.mark) with
    keys := [], allowKey := false, isDone := true }

/-- A directive. -/
def directive (l : Lexer) : Except Fault Lexer := do
  let l ← (l.unwind (-1)).dropKey
  let (d, stop, c) ← readDirective l.cursor
  return { l.pushUpTo (.directive d) stop c with allowKey := false }

/-- The start or the end of a document. -/
def separator (l : Lexer) (lexeme : Lexeme) : Except Fault Lexer := do
  let l ← (l.unwind (-1)).dropKey
  return { l.pushNext lexeme 3 with allowKey := false }

/-- An opening bracket. -/
def openFlow (l : Lexer) (lexeme : Lexeme) : Except Fault Lexer := do
  let l ← l.saveKey
  return { l.pushNext lexeme 1 with depth := l.depth + 1, allowKey := true }

/-- A closing bracket. -/
def closeFlow (l : Lexer) (lexeme : Lexeme) : Except Fault Lexer := do
  let l ← l.dropKey
  return { l.pushNext lexeme 1 with depth := l.depth - 1, allowKey := false }

/-- A comma between brackets. -/
def flowEntry (l : Lexer) : Except Fault Lexer := do
  let l ← { l with allowKey := true }.dropKey
  return l.pushNext .flowEntry 1

/-- The hyphen of an entry. -/
def blockEntry (l : Lexer) : Except Fault Lexer := do
  if !l.inFlow && !l.allowKey then failAt .entryNotAllowed l.cursor.mark
  else
    let l := if l.inFlow then l else l.openBlockHere .blockSequenceStart
    let l ← { l with allowKey := true }.dropKey
    return l.pushNext .blockEntry 1

/-- The question mark before a key. -/
def explicitKey (l : Lexer) : Except Fault Lexer := do
  if !l.inFlow && !l.allowKey then failAt .keyNotAllowed l.cursor.mark
  else
    let l := if l.inFlow then l else l.openBlockHere .blockMappingStart
    let l ← { l with allowKey := !l.inFlow }.dropKey
    return l.pushNext .key 1

/-- The colon of a value: a key has begun at the remembered place, or else the value stands
alone. -/
def valueMark (l : Lexer) : Except Fault Lexer := do
  match l.keys.lookup l.depth with
  | some k =>
    let l := { l with
      keys := l.keys.filter fun k => k.1 ≠ l.depth
      tokens := l.tokens.insertIdxIfInBounds k.position (.here .key k.mark)
      allowKey := false }
    let l := if l.inFlow then l
      else l.openBlock k.mark.column .blockMappingStart k.position k.mark
    return l.pushNext .value 1
  | none =>
    if !l.inFlow && !l.allowKey then failAt .valueNotAllowed l.cursor.mark
    else
      let l := if l.inFlow then l else l.openBlockHere .blockMappingStart
      let l ← { l with allowKey := !l.inFlow }.dropKey
      return l.pushNext .value 1

/-- An anchor or an alias. -/
def name (l : Lexer) (activity : Activity) (lexeme : String → Lexeme) : Except Fault Lexer := do
  let l ← l.saveKey
  let (name, c) ← nodeName activity l.cursor.mark l.cursor.next
  return { l.pushUpTo (lexeme name) c.mark c with allowKey := false }

/-- A tag. -/
def tag (l : Lexer) : Except Fault Lexer := do
  let l ← l.saveKey
  let (lexeme, c) ← readTag l.cursor
  return { l.pushUpTo lexeme c.mark c with allowKey := false }

/-- A literal or folded scalar. -/
def block (l : Lexer) : Except Fault Lexer := do
  let l ← { l with allowKey := true }.dropKey
  let (text, c) ← blockScalar l.indent l.cursor
  return l.pushUpTo (.scalar text false) c.mark c

/-- A quoted scalar. -/
def quoted (l : Lexer) : Except Fault Lexer := do
  let l ← l.saveKey
  let (text, c) ← quotedScalar l.cursor
  return { l.pushUpTo (.scalar text false) c.mark c with allowKey := false }

/-- A plain scalar. -/
def plain (l : Lexer) : Except Fault Lexer := do
  let l ← l.saveKey
  let (part, c) := plainScalar l.inFlow l.indent l.cursor
  return { l.pushUpTo (.scalar (.ofList part.text) true) part.stop c with allowKey := part.crossed }

/-- Characters that have another meaning at the start of a token. -/
def indicators : List Char :=
  ['-', '?', ':', ',', '[', ']', '\x7b', '\x7d', '#', '&', '*', '!', '|', '>', '\'', '"', '%', '@',
    '\u0060']

/-- Whether a plain scalar starts here. -/
def startsPlain (l : Lexer) : Bool :=
  let ch := l.cursor.peek
  (!isGap ch && !indicators.contains ch)
    || (!isGap (l.cursor.ahead 1) && (ch = '-' || (!l.inFlow && (ch = '?' || ch = ':'))))

/-- Reads the token that starts here. -/
def token (l : Lexer) : Except Fault Lexer :=
  let c := l.cursor
  let alone := isGap (c.ahead 1)
  let separates := c.mark.column = 0 && c.atSeparator
  match c.peek with
  | '\x00' => l.streamEnd
  | '%' => if c.mark.column = 0 then l.directive else wrong
  | '[' => l.openFlow .flowSequenceStart
  | '\x7b' => l.openFlow .flowMappingStart
  | ']' => l.closeFlow .flowSequenceEnd
  | '\x7d' => l.closeFlow .flowMappingEnd
  | ',' => l.flowEntry
  | '-' =>
    if separates then l.separator .documentStart
    else if alone then l.blockEntry
    else l.plain
  | '.' => if separates then l.separator .documentEnd else l.plain
  | '?' => if l.inFlow || alone then l.explicitKey else l.plain
  | ':' => if l.inFlow || alone then l.valueMark else l.plain
  | '*' => l.name .alias .alias
  | '&' => l.name .anchor .anchor
  | '!' => l.tag
  | '|' => if l.inFlow then wrong else l.block
  | '>' => if l.inFlow then wrong else l.block
  | '\'' => l.quoted
  | '"' => l.quoted
  | _ => if l.startsPlain then l.plain else wrong
where
  /-- No token starts here. -/
  wrong : Except Fault Lexer :=
    .error (.marked (some .nextToken) none (.noToken l.cursor.peek) l.cursor.mark)

/-- Reads one token with all that has to be closed before it. -/
def step (l : Lexer) : Except Fault Lexer := do
  let l ← (l.toNext (l.cursor.rest.length + 1)).dropStale
  let l ← (l.unwind l.cursor.mark.column).token
  if l.isDone then return l else l.dropStale

/-- The tokens that are settled: they come before every place where a key may have begun. -/
def settled (l : Lexer) : Array Token :=
  l.tokens.extract 0 (l.keys.foldl (fun n k => min n k.2.position) l.tokens.size)

/-- Reads all tokens.  A fault counts as soon as a token is wanted that is not settled. -/
def finish : Nat → Lexer → Array Token
  | 0, l => l.tokens
  | fuel + 1, l =>
    if l.isDone then l.tokens
    else match l.step with
      | .ok l => finish fuel l
      | .error f => l.settled.push (.here (.broken f) l.cursor.mark)

end Lexer

/-- The tokens of a text, from the start of the stream to its end or to a fault.  A byte
order mark may stand before all else. -/
def tokens (text : List Char) : List Token :=
  let c := Cursor.ofText text
  let c' := if c.peek = '\uFEFF' then c.next else c
  let l : Lexer := { cursor := c', tokens := #[.here .streamStart c.mark] }
  (l.finish (text.length + 2)).toList

end OpenApiClient.Yaml
