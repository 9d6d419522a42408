/-
Pointers into a document.

A pointer is a text of steps: names of members and positions in lists, between slashes.
Percent escapes are decoded first, then the two escapes that let a name hold a slash or a
tilde.  Slashes at the start carry no meaning.
-/

import OpenApiClient.Text.Percent
import OpenApiClient.Text.Split

set_option autoImplicit false

namespace OpenApiClient.Reference

/-- A text in which a tilde and `digit` stand for the character `c`. -/
def unescapeTilde (digit c : Char) : List Char → List Char
  | '~' :: d :: r =>
    if d = digit then c :: unescapeTilde digit c r else '~' :: unescapeTilde digit c (d :: r)
  | x :: r => x :: unescapeTilde digit c r
  | [] => []
termination_by s => s.length

/-- A step of a pointer: first `~1` is a slash, then `~0` is a tilde. -/
def unescapeStep (s : List Char) : List Char := unescapeTilde '0' '~' (unescapeTilde '1' '/' s)

/-- The steps of a pointer. -/
def pointerSteps (pointer : List Char) : List String :=
  if pointer.isEmpty then []
  else
    let body := (Text.Percent.unescape pointer).dropWhile (· = '/')
    (Text.splitOn '/' body).map fun s => .ofList (unescapeStep s)

end OpenApiClient.Reference
