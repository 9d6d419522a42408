/-
Strings of a TOML text.

A string stands between quotes, one or three of a kind.  Single quotes take what is between
them as it is, double quotes have escapes.  The reader gets the whole text of a value and
checks three things in turn: that nothing follows the closing quote, that every escape is a
known one, and that escapes by number name characters.  Only then it resolves the escapes,
first those by number and then the others.
-/

import OpenApiClient.Text.CodePoint
import OpenApiClient.Text.Split
import OpenApiClient.Toml.Fault

set_option autoImplicit false

namespace OpenApiClient.Toml

/-- Stops with a flaw. -/
def flawed {α : Type} (f : Flaw) : Except Trouble α := .error (.flaw f)

/-- Stops with a halt. -/
def halted {α : Type} (h : Halt) : Except Trouble α := .error (.halt h)

/-! ## The closing quote -/

/-- Whether an odd number of backslashes stands at the end of a text. -/
def endsInEscape (s : List Char) : Bool := (s.reverse.takeWhile (· = '\\')).length % 2 = 1

/-- Checks that nothing follows the closing quote.  The pieces are what stands between the
quotes; `count` says how many of three closing quotes have been met. -/
def checkEnd (isTriple : Bool) : List (List Char) → Bool → Nat → Except Trouble Unit
  | [], _, _ => .ok ()
  | [] :: r, isClosed, count =>
    if isTriple then checkEnd isTriple r isClosed (count + 1) else checkEnd isTriple r true count
  | p :: r, isClosed, count =>
    if endsInEscape p then checkEnd isTriple r isClosed count
    else if isClosed then flawed .afterString
    else if !isTriple || 1 < count then checkEnd isTriple r true count
    else checkEnd isTriple r isClosed 0

/-- Checks that nothing follows the closing quote of a string that starts with `quote`. -/
def checkClosing (quote : Char) (s : List Char) : Except Trouble Unit :=
  match Text.splitOn quote (s.drop 1) with
  | [] :: [] :: r => checkEnd true r false 0
  | pieces => checkEnd false pieces false 0

/-! ## Escapes -/

/-- The character that a backslash and one character stand for. -/
def escaped? (c : Char) : Option Char :=
  match c with
  | '0' => some '\x00'
  | 'b' => some '\x08'
  | 'f' => some '\x0c'
  | 'n' => some '\n'
  | 'r' => some '\r'
  | 't' => some '\t'
  | '"' => some '"'
  | _ => none

/-- Checks what stands after each backslash; the pieces are what stands between the
backslashes. -/
def checkEscapes : List (List Char) → Bool → Except Trouble Unit
  | [], _ => .ok ()
  | [] :: r, isAfter => checkEscapes r !isAfter
  | (c :: _) :: r, isAfter =>
    if (escaped? c).isNone && c ≠ 'u' && c ≠ 'U' && !isAfter then flawed .escape
    else checkEscapes r false

/-- The character that hexadecimal digits name. -/
def numberedChar (digits : List Char) : Except Trouble Char :=
  if digits.any (!Text.isHexDigit ·) then flawed (.unicodeEscape digits)
  else match digits with
    | [] => halted .pastEnd
    | ['d'] => halted .pastEnd
    | _ =>
      let n := Text.hexValue digits
      if digits.head? = some 'd' && ((digits.drop 1).take 1).any ('7' < ·) then
        flawed (.surrogate digits)
      else if 0x80000000 ≤ n then halted .hugeCharacter
      else if Text.codePointEnd ≤ n then flawed .characterRange
      else .ok (Text.charOf n)

/-- Resolves escapes by number.  Each piece follows one `mark`, which is no escape if
`isPlain` holds. -/
def resolveNumbered (mark : List Char) (size : Nat) :
    List (List Char) → Bool → Except Trouble (List Char)
  | [], _ => .ok []
  | p :: r, true => do return mark ++ p ++ (← resolveNumbered mark size r (endsInEscape p))
  | p :: r, false => do
    let c ← numberedChar ((p.take size).map Char.toLower)
    return c :: p.drop size ++ (← resolveNumbered mark size r false)

/-- Resolves the escapes by number that start with `mark`. -/
def resolveMark (mark : List Char) (size : Nat) (s : List Char) : Except Trouble (List Char) :=
  match Text.splitWord mark s with
  | [] => .ok []
  | p :: r => do return p ++ (← resolveNumbered mark size r (endsInEscape p))

/-- Resolves all other escapes. -/
def unescape : List Char → Except Trouble (List Char)
  | [] => .ok []
  | ['\\'] => .ok ['\\']
  | '\\' :: c :: r =>
    match escaped? c with
    | some d => do return d :: (← unescape r)
    | none =>
      if c = '\\' then do return '\\' :: (← unescape r)
      else if c = 'u' || c = 'U' then do return '\\' :: c :: (← unescape r)
      else flawed .escape
  | c :: r => do return c :: (← unescape r)

/-! ## Strings -/

/-- A text without its first and its last character. -/
def inner (s : List Char) : List Char := (s.drop 1).dropLast

/-- A text without its quotes, one or three at each end. -/
def withoutQuotes (quote : Char) (s : List Char) : List Char :=
  match s with
  | _ :: b :: c :: _ => inner (if b = quote && c = b then inner (inner s) else s)
  | _ => inner s

/-- The text that a string stands for. -/
def readString (quote : Char) (s : List Char) : Except Trouble String := do
  checkClosing quote s
  if quote = '"' then
    checkEscapes ((Text.splitOn '\\' s).drop 1) false
    let s ← resolveMark ['\\', 'u'] 4 s
    let s ← resolveMark ['\\', 'U'] 8 s
    return .ofList (withoutQuotes quote (← unescape s))
  else return .ofList (withoutQuotes quote s)

end OpenApiClient.Toml
