/-
The tokens of a pattern's text.

A backslash and the character after it are one token, wherever they stand: inside a comment
or a name the character does not end it.  A backslash at the very end is a fault once it
is reached.
-/

import OpenApiClient.Text.CodePoint

set_option autoImplicit false

namespace OpenApiClient.Pattern

/-- A token. -/
inductive Token where
  | char (c : Char)
  | escape (c : Char)
  /-- A backslash with nothing after it. -/
  | loose
  deriving DecidableEq, Repr

/-- The tokens of a text. -/
def tokens : List Char → List Token
  | [] => []
  | ['\\'] => [.loose]
  | '\\' :: c :: r => .escape c :: tokens r
  | c :: r => .char c :: tokens r

/-- The characters of a token. -/
def Token.text : Token → List Char
  | .char c => [c]
  | .escape c => ['\\', c]
  | .loose => ['\\']

/-- Whether a token is a character of a kind. -/
def Token.isChar (isKind : Char → Bool) : Token → Bool
  | .char c => isKind c
  | _ => false

/-- The characters of a kind at the start, and the rest. -/
def takeChars (isKind : Char → Bool) : List Token → List Char × List Token
  | .char c :: r =>
    if isKind c then
      let (cs, r') := takeChars isKind r
      (c :: cs, r')
    else ([], .char c :: r)
  | r => ([], r)

/-- At most `n` characters of a kind at the start, and the rest. -/
def takeAtMost (isKind : Char → Bool) : Nat → List Token → List Char × List Token
  | n + 1, .char c :: r =>
    if isKind c then
      let (cs, r') := takeAtMost isKind n r
      (c :: cs, r')
    else ([], .char c :: r)
  | _, r => ([], r)

/-- The text up to a mark, and what follows the mark; none without the mark. -/
def untilChar (mark : Char) : List Token → Option (List Char × List Token)
  | [] => none
  | t :: r =>
    if t = .char mark then some ([], r)
    else (untilChar mark r).map fun p => (t.text ++ p.1, p.2)

end OpenApiClient.Pattern
