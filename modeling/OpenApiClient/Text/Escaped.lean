/-
Text in which characters are given by escapes.

A byte stands for the character of its number, and a backslash begins an escape, which gives a
character by its number or by its name.  There is a plain form too, in which an escape is only
what gives a character by four or eight digits.  An escape that breaks off becomes the
replacement character.
-/

import OpenApiClient.Text.CharName
import OpenApiClient.Text.CodePoint
import OpenApiClient.Text.Utf8

set_option autoImplicit false

namespace OpenApiClient.Text

/-- What follows the letter of an escape by hexadecimal digits: the character, and the rest. -/
def hexEscape (count : Nat) (s : List Char) : Char × List Char :=
  let digits := (s.take count).takeWhile isHexDigit
  (if digits.length < count || codePointEnd ≤ hexValue digits then replacementChar
    else charOf (hexValue digits), s.drop digits.length)

/-- What follows the letter of an escape by name. -/
def nameEscape (s : List Char) : Char × List Char :=
  match s with
  | '{' :: r =>
    match splitFirst? '}' r with
    | none => (replacementChar, [])
    | some ([], _) => (replacementChar, r)
    | some (name, rest) => (((namedChar? name).map charOf).getD replacementChar, rest)
  | _ => (replacementChar, s)

/-- Whether a character is an octal digit. -/
def isOctalDigit (c : Char) : Bool := '0' ≤ c && c ≤ '7'

/-- The letters of escapes that stand for one character. -/
def escapeLetters : List (Char × Char) := [
  ('\\', '\\'), ('\'', '\''), ('"', '"'), ('b', '\x08'), ('f', '\x0c'), ('t', '\t'),
  ('n', '\n'), ('r', '\r'), ('v', '\x0b'), ('a', '\x07')]

/-- What an escape stands for, and the rest of the text; `s` begins after the backslash. -/
def escape (s : List Char) : List Char × List Char :=
  let one (p : Char × List Char) : List Char × List Char := ([p.1], p.2)
  match s with
  | [] => ([replacementChar], [])
  | '\n' :: r => ([], r)
  | 'x' :: r => one (hexEscape 2 r)
  | 'u' :: r => one (hexEscape 4 r)
  | 'U' :: r => one (hexEscape 8 r)
  | 'N' :: r => one (nameEscape r)
  | c :: r =>
    if isOctalDigit c then
      let digits := (s.take 3).takeWhile isOctalDigit
      ([charOf (digits.foldl (fun n d => n * 8 + (digitIn? 8 d).getD 0) 0)],
        s.drop digits.length)
    else match escapeLetters.lookup c with
      | some x => ([x], r)
      | none => (['\\', c], r)

/-- What an escape of the plain form stands for, and the rest of the text. -/
def plainEscape (s : List Char) : List Char × List Char :=
  let one (p : Char × List Char) : List Char × List Char := ([p.1], p.2)
  match s with
  | [] => (['\\'], [])
  | 'u' :: r => one (hexEscape 4 r)
  | 'U' :: r => one (hexEscape 8 r)
  | c :: r => (['\\', c], r)

/-- A text without its escapes; every step takes a character at least, so the length bounds
the steps. -/
def readEscapesFrom (escape : List Char → List Char × List Char) : Nat → List Char → List Char
  | 0, _ => []
  | _, [] => []
  | fuel + 1, '\\' :: r =>
    let (chars, rest) := escape r
    chars ++ readEscapesFrom escape fuel rest
  | fuel + 1, c :: r => c :: readEscapesFrom escape fuel r

/-- The text that bytes with escapes stand for. -/
def readEscaped (data : List UInt8) : List Char :=
  readEscapesFrom escape data.length (data.map fun b => .ofNat b.toNat)

/-- The text that bytes with escapes of the plain form stand for. -/
def readPlainEscaped (data : List UInt8) : List Char :=
  readEscapesFrom plainEscape data.length (data.map fun b => .ofNat b.toNat)

end OpenApiClient.Text
