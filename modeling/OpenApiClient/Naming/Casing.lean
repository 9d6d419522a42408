/-
The two spellings of an identifier.

Types and methods are spelled with a capital at the start of every word, parameters with
a small first letter.  A short word of capitals is an acronym and stays as it is.  An
identifier cannot start with a digit, so a name that does gets a line before it.
-/

import OpenApiClient.Naming.Words

set_option autoImplicit false

namespace OpenApiClient.Naming

/-- Whether a word is an acronym: at most four characters, with a capital and without a
small letter. -/
def isAcronym (w : List Char) : Bool :=
  w.any Char.isUpper && !w.any Char.isLower && w.length ≤ 4

/-- A word with a capital first letter and small others, unless it is an acronym. -/
def capitalize (w : List Char) : List Char :=
  if isAcronym w then w
  else match w with
    | [] => []
    | c :: r => c.toUpper :: r.map Char.toLower

/-- A name that starts with a digit, with a line before it; any other name as it is. -/
def guardDigit (s : List Char) : List Char :=
  match s with
  | [] => []
  | c :: _ => if c.isDigit then '_' :: s else s

/-- The spelling of types, methods and properties. -/
def pascal (s : List Char) : List Char := guardDigit ((words s).flatMap capitalize)

/-- How many capitals at the start of a name are one acronym: all of them if a digit or
nothing follows, and all but the last if a small letter follows, since the last one then
starts a word. -/
def acronymLength (s : List Char) : Nat :=
  let capitals := s.takeWhile Char.isUpper
  match s.drop capitals.length with
  | [] => capitals.length
  | c :: _ => if c.isDigit then capitals.length else capitals.length - 1

/-- The spelling of parameters. -/
def camel (s : List Char) : List Char :=
  match pascal s with
  | [] => []
  | '_' :: r => '_' :: r
  | c :: r =>
    let n := acronymLength (c :: r)
    if 1 < n then ((c :: r).take n).map Char.toLower ++ (c :: r).drop n else c.toLower :: r

/-! ## The same on strings -/

/-- The spelling of types, methods and properties. -/
def pascalCase (s : String) : String := .ofList (pascal s.toList)

/-- The spelling of parameters. -/
def camelCase (s : String) : String := .ofList (camel s.toList)

end OpenApiClient.Naming
