/-
Escapes of a search pattern.

After a backslash most letters and digits mean something of their own: a class, a character
by its number or its name, a place, a group.  Any other character stands for itself.
-/

import OpenApiClient.Pattern.Basic
import OpenApiClient.Pattern.Fault
import OpenApiClient.Pattern.Token
import OpenApiClient.Text.CharName

set_option autoImplicit false

namespace OpenApiClient.Pattern

/-- The flags in force. -/
structure Flags where
  eitherCase : Bool := false
  lineFeeds : Bool := false
  everyLine : Bool := false
  spaced : Bool := false
  ascii : Bool := false
  /-- The characters of all scripts are asked for, as they are taken anyway. -/
  everyScript : Bool := false
  /-- Nothing may be repeated. -/
  isTemplate : Bool := false
  deriving DecidableEq, Repr

/-- How the flags take the cases of letters. -/
def Flags.casing (flags : Flags) : Casing :=
  if !flags.eitherCase then .exact else if flags.ascii then .ascii else .all

/-! ## Characters -/

/-- The value of digits in a base. -/
def digitsIn (base : Nat) (cs : List Char) : Nat :=
  cs.foldl (fun n c => n * base + (Text.digitIn? base c).getD 0) 0

/-- Whether a character is an octal digit. -/
def isOctal (c : Char) : Bool := '0' ≤ c && c ≤ '7'

/-- The class that a letter after a backslash stands for. -/
def classOf? (flags : Flags) (c : Char) : Option CharSet :=
  match c with
  | 'd' => some (.digit false flags.ascii)
  | 'D' => some (.digit true flags.ascii)
  | 's' => some (.blank false flags.ascii)
  | 'S' => some (.blank true flags.ascii)
  | 'w' => some (.word false flags.ascii)
  | 'W' => some (.word true flags.ascii)
  | _ => none

/-- The character that a letter after a backslash stands for. -/
def controlOf? (c : Char) : Option Char :=
  match c with
  | 'a' => some '\x07'
  | 'f' => some '\x0c'
  | 'n' => some '\n'
  | 'r' => some '\r'
  | 't' => some '\t'
  | 'v' => some '\x0b'
  | '\\' => some '\\'
  | _ => none

/-- The number of hexadecimal digits after an escape letter. -/
def hexWidth? (c : Char) : Option Nat :=
  match c with
  | 'x' => some 2
  | 'u' => some 4
  | 'U' => some 8
  | _ => none

/-- The greatest number of a character that an octal escape gives. -/
def maxOctal : Nat := 0o377

/-- A character given by its name, after the letter. -/
def namedChar (r : List Token) : Except Fault (Char × List Token) :=
  match r with
  | .char '\x7b' :: r =>
    match untilChar '\x7d' r with
    | some (name, r') =>
      match Text.namedChar? name with
      | some n => .ok (Text.charOf n, r')
      | none => .error .unknownName
    | none => .error .unknownName
  | _ => .error .badEscape

/-- A character given by its number or its name after the escape letter `c`, if that letter
announces one. -/
def numberedChar (c : Char) (r : List Token) : Except Fault (Option (Char × List Token)) :=
  match hexWidth? c with
  | some n =>
    let (digits, r') := takeAtMost Text.isHexDigit n r
    let value := digitsIn 16 digits
    if digits.length = n ∧ value < Text.codePointEnd then .ok (some (Text.charOf value, r'))
    else .error .badEscape
  | none => if c = 'N' then some <$> namedChar r else .ok none

/-- A part of a class after a backslash. -/
def classEscape (flags : Flags) (c : Char) (r : List Token) :
    Except Fault (CharSet × List Token) := do
  if c = 'b' then return (.single '\x08', r)
  if let some d := controlOf? c then return (.single d, r)
  if let some s := classOf? flags c then return (s, r)
  if let some (d, r') := ← numberedChar c r then return (.single d, r')
  if isOctal c then
    let (more, r') := takeAtMost isOctal 2 r
    let value := digitsIn 8 (c :: more)
    if maxOctal < value then throw .badEscape
    return (.single (Text.charOf value), r')
  if c.isAlphanum then throw .badEscape
  return (.single c, r)

/-! ## Items -/

/-- What an escape outside of a class stands for. -/
inductive Escaped where
  | char (c : Char)
  | set (s : CharSet)
  | place (p : Pattern)
  | group (number : Nat)

/-- The place that a letter after a backslash stands for. -/
def placeOf? (flags : Flags) (c : Char) : Option Pattern :=
  match c with
  | 'A' => some (.start false)
  | 'Z' => some .textEnd
  | 'b' => some (.wordEdge false flags.ascii)
  | 'B' => some (.wordEdge true flags.ascii)
  | _ => none

/-- What digits after a backslash stand for: a character by its octal number, if there are
three octal digits, and else a group. -/
def digitEscape (c : Char) (r : List Token) : Except Fault (Escaped × List Token) :=
  let (more, r') := takeAtMost Char.isDigit 1 r
  let (third, r'') := takeAtMost isOctal 1 r'
  if isOctal c && !more.isEmpty && more.all isOctal && !third.isEmpty then
    let value := digitsIn 8 (c :: more ++ third)
    if maxOctal < value then .error .badEscape else .ok (.char (Text.charOf value), r'')
  else .ok (.group (digitsIn 10 (c :: more)), r')

/-- What an escape outside of a class stands for. -/
def readEscape (flags : Flags) (c : Char) (r : List Token) :
    Except Fault (Escaped × List Token) := do
  if let some p := placeOf? flags c then return (.place p, r)
  if let some s := classOf? flags c then return (.set s, r)
  if let some d := controlOf? c then return (.char d, r)
  if let some (d, r') := ← numberedChar c r then return (.char d, r')
  if c = '0' then
    let (more, r') := takeAtMost isOctal 2 r
    return (.char (Text.charOf (digitsIn 8 more)), r')
  if c.isDigit then return ← digitEscape c r
  if c.isAlpha then throw .badEscape
  return (.char c, r)

end OpenApiClient.Pattern
