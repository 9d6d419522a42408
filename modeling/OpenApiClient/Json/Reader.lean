/-
Reading JSON text.

The reader goes through the text once and stops at the first fault.  It knows the text
that is left and the position of its first character, and hands out a new number for
every object.  Of two calls in a row at least one reads a character before it calls another,
so a fuel of twice the length of the text and two more is never used up; the wrapper `read`
supplies it.

Two liberties go beyond the standard: `NaN`, `Infinity` and `-Infinity` are numbers, and
a name that stands twice in an object keeps its first place and its last value.
-/

import OpenApiClient.Json.Fault
import OpenApiClient.Text.CodePoint
import OpenApiClient.Value.Key

set_option autoImplicit false

namespace OpenApiClient.Json

/-! ## Where the reader stands -/

/-- The text that is left, the position of its start, the number of the next object, and how
many objects and lists are open. -/
structure Cursor where
  rest : List Char
  position : Nat
  next : Nat
  depth : Nat := 0

/-- Moves over `n` characters. -/
def Cursor.skip (c : Cursor) (n : Nat) : Cursor :=
  { c with rest := c.rest.drop n, position := c.position + n }

/-- Moves over blanks. -/
def Cursor.skipBlanks (c : Cursor) : Cursor :=
  let n := (c.rest.takeWhile fun ch => ch = ' ' ∨ ch = '\t' ∨ ch = '\n' ∨ ch = '\r').length
  c.skip n

/-- How deeply values may be nested. -/
def maxDepth : Nat := 980

/-- Stops with a fault at a position. -/
def fail {α : Type} (fault : Fault) (position : Nat) : Except FaultAt α :=
  .error ⟨fault, position⟩

/-- Moves into an object or a list, up to its first part. -/
def Cursor.enter (c : Cursor) : Except FaultAt Cursor :=
  if c.depth < maxDepth then .ok ({ c with depth := c.depth + 1 }.skip 1).skipBlanks
  else fail .tooDeep c.position

/-- Moves over the end of an object or a list. -/
def Cursor.leave (c : Cursor) : Cursor := { c with depth := c.depth - 1 }.skip 1

/-! ## Strings -/

/-- The value of a hexadecimal digit. -/
def hexDigit? (c : Char) : Option Nat :=
  if '0' ≤ c ∧ c ≤ '9' then some (c.toNat - '0'.toNat)
  else if 'a' ≤ c ∧ c ≤ 'f' then some (c.toNat - 'a'.toNat + 10)
  else if 'A' ≤ c ∧ c ≤ 'F' then some (c.toNat - 'A'.toNat + 10)
  else none

/-- The value of four hexadecimal digits at the start of a text. -/
def hex4? (s : List Char) : Option Nat :=
  match s with
  | a :: b :: c :: d :: _ => do
    return ((← hexDigit? a) * 16 + (← hexDigit? b)) * 256
      + ((← hexDigit? c) * 16 + (← hexDigit? d))
  | _ => none

/-- The character that a backslash and one character stand for. -/
def simpleEscape? (c : Char) : Option Char :=
  match c with
  | '"' => some '"'
  | '\\' => some '\\'
  | '/' => some '/'
  | 'b' => some '\x08'
  | 'f' => some '\x0c'
  | 'n' => some '\n'
  | 'r' => some '\r'
  | 't' => some '\t'
  | _ => none

/-- Whether a number is the first half of a surrogate pair. -/
def isHighSurrogate (n : Nat) : Bool := 0xD800 ≤ n && n ≤ 0xDBFF

/-- Whether a number is the second half of a surrogate pair. -/
def isLowSurrogate (n : Nat) : Bool := 0xDC00 ≤ n && n ≤ 0xDFFF

/-- Reads a Unicode escape whose four digits start at `s`, and says how many characters
it takes.  A digit has to follow the escape or the closing mark; `position` is that of
the letter before the digits. -/
def unicodeEscape (s : List Char) (position : Nat) : Except FaultAt (Char × Nat) :=
  if s.length ≤ 4 then fail .unicodeEscape position
  else match hex4? s with
    | none => fail .unicodeEscape position
    | some high =>
      match s.drop 4 with
      | '\\' :: 'u' :: r =>
        if isHighSurrogate high && 4 < r.length then
          match hex4? r with
          | none => fail .unicodeEscape (position + 6)
          | some low =>
            if isLowSurrogate low then
              .ok (Char.ofNat (0x10000 + (high - 0xD800) * 0x400 + (low - 0xDC00)), 10)
            else .ok (Text.charOf high, 4)
        else .ok (Text.charOf high, 4)
      | _ => .ok (Text.charOf high, 4)

/-- Reads a string after its opening mark, which stands at `start`. -/
def readString (start : Nat) : Nat → List Char → Nat → List Char →
    Except FaultAt (String × List Char × Nat)
  | 0, _, _, _ => fail .openString start
  | _, [], _, _ => fail .openString start
  | fuel + 1, c :: r, p, acc =>
    if c = '"' then .ok (.ofList acc.reverse, r, p + 1)
    else if c = '\\' then
      match r with
      | [] => fail .openString start
      | 'u' :: r' => do
        let (ch, n) ← unicodeEscape r' (p + 1)
        readString start fuel (r'.drop n) (p + 2 + n) (ch :: acc)
      | e :: r' =>
        match simpleEscape? e with
        | some ch => readString start fuel r' (p + 2) (ch :: acc)
        | none => fail .escape p
    else if c.toNat < 0x20 then fail .control p
    else readString start fuel r (p + 1) (c :: acc)

/-! ## Numbers -/

/-- The digits at the start of a text. -/
def leadingDigits (s : List Char) : List Char := s.takeWhile Char.isDigit

/-- The number that a run of digits is. -/
def digitsValue (s : List Char) : Nat := s.foldl (fun n c => n * 10 + (c.toNat - '0'.toNat)) 0

/-- The exponent at the start of a text: its mark, its sign and its digits, if all that
have to be there are there. -/
def exponent? (s : List Char) : Option (Int × Nat) :=
  match s with
  | e :: r =>
    if e = 'e' ∨ e = 'E' then
      let (sign, r', n) : Int × List Char × Nat := match r with
        | '-' :: r' => (-1, r', 2)
        | '+' :: r' => (1, r', 2)
        | _ => (1, r, 1)
      let digits := leadingDigits r'
      if digits.isEmpty then none else some (sign * digitsValue digits, n + digits.length)
    else none
  | [] => none

/-- Reads a number.  A point without a digit after it, and an exponent without digits, are
not part of it. -/
def readNumber (c : Cursor) : Except FaultAt (Value × Cursor) :=
  let (negative, body, signSize) := match c.rest with
    | '-' :: r => (true, r, 1)
    | r => (false, r, 0)
  let whole := match body with
    | '0' :: _ => ['0']
    | r => leadingDigits r
  if whole.isEmpty then fail .value c.position
  else
    let afterWhole := body.drop whole.length
    let fraction := match afterWhole with
      | '.' :: r => leadingDigits r
      | _ => []
    let afterFraction :=
      if fraction.isEmpty then afterWhole else afterWhole.drop (fraction.length + 1)
    let fractionSize := if fraction.isEmpty then 0 else fraction.length + 1
    let exponent := exponent? afterFraction
    let size := signSize + whole.length + fractionSize + (exponent.map (·.2)).getD 0
    if fraction.isEmpty && exponent.isNone then
      if Text.maxDigits < whole.length then fail (.longInteger whole.length) c.position
      else
        let n : Int := digitsValue whole
        .ok (.int (if negative then -n else n), c.skip size)
    else
      let e : Int := (exponent.map (·.1)).getD 0 - fraction.length
      let x := Number.ofDecimal (digitsValue (whole ++ fraction)) e
      .ok (.float (if negative then -x else x), c.skip size)

/-! ## Values -/

/-- The words that are values. -/
def words : List (List Char × Value) := [
  ("null".toList, .null), ("true".toList, .bool true), ("false".toList, .bool false),
  ("NaN".toList, .float (0.0 / 0.0)), ("Infinity".toList, .float (1.0 / 0.0)),
  ("-Infinity".toList, .float (-1.0 / 0.0))]

/-- Reads a word or a number. -/
def readPlain (c : Cursor) : Except FaultAt (Value × Cursor) :=
  match words.find? fun w => w.1.isPrefixOf c.rest with
  | some (w, v) => .ok (v, c.skip w.length)
  | none => readNumber c

mutual

/-- Reads a value. -/
def readValue : Nat → Cursor → Except FaultAt (Value × Cursor)
  | 0, c => fail .value c.position
  | fuel + 1, c =>
    match c.rest with
    | '"' :: r => do
      let (s, r', p) ← readString c.position (r.length + 1) r (c.position + 1) []
      return (.text s, { c with rest := r', position := p })
    | '\x7b' :: _ => do
      let c ← c.enter
      match c.rest with
      | '\x7d' :: _ =>
        let c := c.leave
        return (.object c.next [], { c with next := c.next + 1 })
      | _ =>
        let (ms, c) ← readMembers fuel c []
        return (.object c.next (Members.ofList ms.reverse), { c with next := c.next + 1 })
    | '[' :: _ => do
      let c ← c.enter
      match c.rest with
      | ']' :: _ => return (.list [], c.leave)
      | _ =>
        let (items, c) ← readItems fuel c []
        return (.list items.reverse, c)
    | _ => readPlain c

/-- Reads the members of an object up to its end; the members before are in `acc`, last
first. -/
def readMembers : Nat → Cursor → Members → Except FaultAt (Members × Cursor)
  | 0, c, _ => fail .name c.position
  | fuel + 1, c, acc =>
    match c.rest with
    | '"' :: r => do
      let (name, r', p) ← readString c.position (r.length + 1) r (c.position + 1) []
      let c := { c with rest := r', position := p }.skipBlanks
      match c.rest with
      | ':' :: _ =>
        let (v, c) ← readValue fuel (c.skip 1).skipBlanks
        let c := c.skipBlanks
        let acc := (.text name, v) :: acc
        match c.rest with
        | '\x7d' :: _ => return (acc, c.leave)
        | ',' :: _ => readMembers fuel (c.skip 1).skipBlanks acc
        | _ => fail .comma c.position
      | _ => fail .colon c.position
    | _ => fail .name c.position

/-- Reads the items of a list up to its end. -/
def readItems : Nat → Cursor → List Value → Except FaultAt (List Value × Cursor)
  | 0, c, _ => fail .value c.position
  | fuel + 1, c, acc => do
    let (v, c) ← readValue fuel c
    let c := c.skipBlanks
    let acc := v :: acc
    match c.rest with
    | ']' :: _ => return (acc, c.leave)
    | ',' :: _ => readItems fuel (c.skip 1).skipBlanks acc
    | _ => fail .comma c.position

end

/-- Reads a text that holds one value.  Objects get numbers from `next` on. -/
def readFrom (next : Nat) (text : List Char) : Except FaultAt (Value × Cursor) :=
  match text with
  | '\uFEFF' :: _ => fail .byteOrderMark 0
  | _ => do
    let (v, c) ← readValue (2 * text.length + 2) (Cursor.mk text 0 next 0).skipBlanks
    let c := c.skipBlanks
    match c.rest with
    | [] => return (v, c)
    | _ => fail .extra c.position

/-- Reads a text that holds one value. -/
def read (text : String) : Except FaultAt Value := (readFrom 0 text.toList).map (·.1)

end OpenApiClient.Json
