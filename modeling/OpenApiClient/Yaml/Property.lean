/-
Anchors, aliases, tags and directives.

These are names of different kinds.  A tag is an address, written out or begun with a
handle; bytes of an address can be written as two digits after a percent sign.  Directives
stand before a document and give its version and the meaning of its handles; others are
skipped.
-/

import OpenApiClient.Yaml.Block
import OpenApiClient.Yaml.Quoted
import OpenApiClient.Yaml.Token

set_option autoImplicit false

namespace OpenApiClient.Yaml

/-! ## Anchors and aliases -/

/-- Characters that may stand right after the name of an anchor. -/
def endsName (c : Char) : Bool :=
  isGap c || ['?', ':', ',', ']', '\x7d', '%', '@', '\u0060'].contains c

/-- Reads the name of an anchor or an alias after its indicator. -/
def nodeName (activity : Activity) (start : Mark) (c : Cursor) :
    Except Fault (String × Cursor) :=
  let name := c.run isNameChar
  let after := c.skip name.length
  if name.isEmpty then wrong c
  else if !endsName after.peek then wrong after
  else .ok (.ofList name, after)
where
  /-- A character that does not belong to the name. -/
  wrong (c : Cursor) : Except Fault (String × Cursor) :=
    failDuring activity start (.expected "alphabetic or numeric character" c.peek) c.mark

/-! ## Addresses -/

/-- Reads bytes that are written with percent signs. -/
def addressBytes (activity : Activity) (start : Mark) : Nat → Cursor →
    Except Fault (List UInt8 × Cursor)
  | 0, c => .ok ([], c)
  | fuel + 1, c =>
    if c.peek ≠ '%' then .ok ([], c)
    else
      let c := c.next
      match [c.ahead 0, c.ahead 1].find? (!Text.isHexDigit ·) with
      | some wrong =>
        failDuring activity start
          (.expected "URI escape sequence of 2 hexadecimal numbers" wrong) c.mark
      | none => do
        let b := (Text.hexValue (c.rest.take 2)).toUInt8
        let (bs, c) ← addressBytes activity start fuel (c.skip 2)
        return (b :: bs, c)

/-- Reads characters that are written with percent signs. -/
def addressEscapes (activity : Activity) (start : Mark) (c : Cursor) :
    Except Fault (List Char × Cursor) := do
  let (bytes, after) ← addressBytes activity start (c.rest.length + 1) c
  match Text.decode bytes with
  | .ok cs => return (cs, after)
  | .error f => failDuring activity start (.address f) c.mark

/-- Characters of an address that stand for themselves. -/
def isAddressChar (c : Char) : Bool :=
  isNameChar c || [';', '/', '?', ':', '@', '&', '=', '+', '$', ',', '.', '!', '~', '*', '\'',
    '(', ')', '[', ']'].contains c

/-- Reads the parts of an address. -/
def addressParts (activity : Activity) (start : Mark) : Nat → Cursor →
    Except Fault (List Char × Cursor)
  | 0, c => .ok ([], c)
  | fuel + 1, c =>
    let run := c.run isAddressChar
    if !run.isEmpty then do
      let (more, c) ← addressParts activity start fuel (c.skip run.length)
      return (run ++ more, c)
    else if c.peek = '%' then do
      let (cs, c) ← addressEscapes activity start c
      let (more, c) ← addressParts activity start fuel c
      return (cs ++ more, c)
    else .ok ([], c)

/-- Reads an address as a part of a tag or a directive; `whole` is the activity when it is
missing. -/
def address (activity whole : Activity) (start : Mark) (c : Cursor) :
    Except Fault (String × Cursor) :=
  if !isAddressChar c.peek && c.peek ≠ '%' then
    failDuring whole start (.expected "URI" c.peek) c.mark
  else do
    let (cs, c) ← addressParts activity start (c.rest.length + 1) c
    return (.ofList cs, c)

/-! ## Tags -/

/-- Reads a handle: an exclamation mark alone, or a name between two of them. -/
def tagHandle (activity : Activity) (start : Mark) (c : Cursor) :
    Except Fault (String × Cursor) :=
  if c.peek ≠ '!' then failDuring activity start (.expected "'!'" c.peek) c.mark
  else if c.ahead 1 = ' ' then .ok ("!", c.next)
  else
    let name := c.next.run isNameChar
    let after := c.skip (name.length + 1)
    if after.peek ≠ '!' then failDuring activity start (.expected "'!'" after.peek) after.mark
    else .ok (.ofList ('!' :: name ++ ['!']), after.next)

/-- Whether a second exclamation mark stands in a tag, so that it begins with a handle. -/
def hasHandle (c : Cursor) : Bool := (c.next.run (!endsWord ·)).contains '!'

/-- Reads a tag, whose exclamation mark is next. -/
def readTag (c : Cursor) : Except Fault (Lexeme × Cursor) := do
  let start := c.mark
  let (lexeme, c) ←
    if c.ahead 1 = '<' then do
      let (name, c) ← address .tag .tagAddress start (c.skip 2)
      if c.peek ≠ '>' then
        failDuring .tagAddress start (.expected "'>'" c.peek) c.mark
      else pure (Lexeme.tag none name, c.next)
    else if isGap (c.ahead 1) then pure (Lexeme.tag none "!", c.next)
    else do
      let (handle, c) ← if hasHandle c then tagHandle .tag start c else pure ("!", c.next)
      let (rest, c) ← address .tag .tagAddress start c
      pure (Lexeme.tag (some handle) rest, c)
  if endsWord c.peek then return (lexeme, c)
  else failDuring .tag start (.expected "' '" c.peek) c.mark

/-! ## Directives -/

/-- Stops because something else than `wanted` is next. -/
def wrongDirective {α : Type} (start : Mark) (wanted : String) (c : Cursor) : Except Fault α :=
  failDuring .directive start (.expected wanted c.peek) c.mark

/-- Reads a number of a version. -/
def versionNumber (start : Mark) (c : Cursor) : Except Fault (Nat × Cursor) :=
  let digits := c.run Char.isDigit
  if digits.isEmpty then wrongDirective start "a digit" c
  else if Text.maxDigits < digits.length then .error (.value (.longInteger digits.length))
  else .ok ((Text.readDigits 10 digits false 0).getD 0, c.skip digits.length)

/-- Reads a version. -/
def version (start : Mark) (c : Cursor) : Except Fault (Directive × Cursor) := do
  let (major, c) ← versionNumber start (c.skipWhile (· = ' '))
  if c.peek ≠ '.' then wrongDirective start "a digit or '.'" c
  else
    let (_, c) ← versionNumber start c.next
    if endsWord c.peek then return (.version major, c)
    else wrongDirective start "a digit or ' '" c

/-- Reads a handle and what it stands for. -/
def handleMeaning (start : Mark) (c : Cursor) : Except Fault (Directive × Cursor) := do
  let (handle, c) ← tagHandle .directive start (c.skipWhile (· = ' '))
  if c.peek ≠ ' ' then wrongDirective start "' '" c
  else
    let (stem, c) ← address .directive .directiveAddress start (c.skipWhile (· = ' '))
    if endsWord c.peek then return (.tagHandle handle stem, c)
    else wrongDirective start "' '" c

/-- Reads a directive, whose percent sign is next, with the rest of its line.  Also gives
the place where the directive itself ends. -/
def readDirective (c : Cursor) : Except Fault (Directive × Mark × Cursor) := do
  let start := c.mark
  let name := c.next.run isNameChar
  let after := c.skip (name.length + 1)
  if name.isEmpty || !endsWord after.peek then
    wrongDirective start "alphabetic or numeric character" after
  else
    let (d, stop, after) ←
      if name = "YAML".toList then do
        let (d, after) ← version start after
        pure (d, after.mark, after)
      else if name = "TAG".toList then do
        let (d, after) ← handleMeaning start after
        pure (d, after.mark, after)
      else pure (Directive.other, after.mark, after.skipWhile (!endsLine ·))
    return (d, stop, ← restOfLine .directive start after)

end OpenApiClient.Yaml
