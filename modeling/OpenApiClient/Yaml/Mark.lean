/-
Places in a YAML text, and going through one.

A mark counts characters, lines and columns from the start.  Lines decide what belongs
together in YAML, so the five line breaks it knows are told apart from blanks, and a mark
moves over a carriage return with its line feed as over one break.  The end of a text reads
as the null character, which a text never holds, so looking ahead needs no special case
there.

A fault shows the line it is in with a pointer under the place; `Mark.display` cuts long
lines around it.
-/

set_option autoImplicit false

namespace OpenApiClient.Yaml

/-! ## Characters -/

/-- Characters that break a line. -/
def isBreak (c : Char) : Bool :=
  c = '\n' || c = '\r' || c = '\u0085' || c = '\u2028' || c = '\u2029'

/-- What ends a line: a line break, or the end of the text. -/
def endsLine (c : Char) : Bool := isBreak c || c = '\x00'

/-- What ends a word: a space, or the end of the line. -/
def endsWord (c : Char) : Bool := c = ' ' || endsLine c

/-- What separates tokens: a tab, or what ends a word. -/
def isGap (c : Char) : Bool := c = '\t' || endsWord c

/-- Characters of names: ASCII letters and digits, the hyphen and the underscore. -/
def isNameChar (c : Char) : Bool := c.isAlphanum || c = '-' || c = '_'

/-- Characters that a document may hold. -/
def isAllowed (c : Char) : Bool :=
  let n := c.toNat
  n == 0x09 || n == 0x0A || n == 0x0D || (0x20 ≤ n && n ≤ 0x7E) || n == 0x85
    || (0xA0 ≤ n && n ≤ 0xD7FF) || (0xE000 ≤ n && n ≤ 0xFFFD) || 0x10000 ≤ n

/-! ## Marks -/

/-- A place in a text: how many characters, lines, and characters of its line stand
before it. -/
structure Mark where
  index : Nat
  line : Nat
  column : Nat
  deriving DecidableEq, Repr, Inhabited

/-- The start of a text. -/
def Mark.start : Mark := ⟨0, 0, 0⟩

/-- The place after a character, if `r` follows it. -/
def Mark.after (m : Mark) (c : Char) (r : List Char) : Mark :=
  if (isBreak c && c ≠ '\r') || (c = '\r' && r.head? ≠ some '\n') then
    ⟨m.index + 1, m.line + 1, 0⟩
  else if c = '\uFEFF' then ⟨m.index + 1, m.line, m.column⟩
  else ⟨m.index + 1, m.line, m.column + 1⟩

/-- How many characters of a line may stand on one side of a place before the line is cut
there, and how many are left then. -/
def maxSide : Nat × Nat := (36, 32)

/-- One side of a place, and what stands for the part that was cut off. -/
def shownSide (side : List Char) : List Char × String :=
  if maxSide.1 < side.length then (side.take maxSide.2, " ... ") else (side, "")

/-- The line of a place with a pointer under it. -/
def Mark.snippet (m : Mark) (text : List Char) : String :=
  let (before, head) := shownSide ((text.take m.index).reverse.takeWhile (!endsLine ·))
  let (rest, tail) := shownSide ((text.drop m.index).takeWhile (!endsLine ·))
  let blanks := String.ofList (List.replicate (4 + before.length + head.length) ' ')
  "    " ++ head ++ .ofList before.reverse ++ .ofList rest ++ tail ++ "\n" ++ blanks ++ "^"

/-- A place as a message shows it. -/
def Mark.display (m : Mark) (text : List Char) : String :=
  s!"  in \"<unicode string>\", line {m.line + 1}, column {m.column + 1}:\n" ++ m.snippet text

/-! ## Going through a text -/

/-- The text that is left, and the place of its first character. -/
structure Cursor where
  rest : List Char
  mark : Mark
  deriving Repr, Inhabited

namespace Cursor

/-- The start of a text. -/
def ofText (text : List Char) : Cursor := ⟨text, .start⟩

/-- The character `n` places ahead. -/
def ahead (c : Cursor) (n : Nat) : Char := (c.rest.drop n).headD '\x00'

/-- The next character. -/
def peek (c : Cursor) : Char := c.rest.headD '\x00'

/-- Moves over one character. -/
def next (c : Cursor) : Cursor :=
  match c.rest with
  | [] => c
  | ch :: r => ⟨r, c.mark.after ch r⟩

/-- Moves over `n` characters. -/
def skip (c : Cursor) : Nat → Cursor
  | 0 => c
  | n + 1 => c.next.skip n

/-- The characters up to the first that does not satisfy `p`. -/
def run (c : Cursor) (p : Char → Bool) : List Char := c.rest.takeWhile p

/-- Moves over the characters up to the first that does not satisfy `p`. -/
def skipWhile (c : Cursor) (p : Char → Bool) : Cursor := c.skip (c.run p).length

/-- Moves over a line break, which becomes a line feed unless it is one of the two
separators. -/
def lineBreak (c : Cursor) : List Char × Cursor :=
  match c.rest with
  | '\r' :: '\n' :: _ => (['\n'], c.skip 2)
  | ch :: _ =>
    if ch = '\u2028' || ch = '\u2029' then ([ch], c.next)
    else if isBreak ch then (['\n'], c.next)
    else ([], c)
  | [] => ([], c)

/-- Whether a line starts here that ends a document or starts one, seen from its first
column. -/
def atSeparator (c : Cursor) : Bool :=
  match c.rest with
  | '-' :: '-' :: '-' :: r => isGap (r.headD '\x00')
  | '.' :: '.' :: '.' :: r => isGap (r.headD '\x00')
  | _ => false

/-- Moves over a comment up to the end of its line. -/
def skipComment (c : Cursor) : Cursor :=
  if c.peek = '#' then c.skipWhile (!endsLine ·) else c

end Cursor

end OpenApiClient.Yaml
