/-
Indentation of generated code.

A block of code is moved to the right as a whole.  Lines are what stands between line
feeds, and an empty line stays empty, so that no line of the output ends in blanks.
-/

import OpenApiClient.Text.Split

set_option autoImplicit false

namespace OpenApiClient.CSharp

/-- One level of indentation. -/
def indentUnit : List Char := [' ', ' ', ' ', ' ']

/-- The blanks of a number of levels. -/
def indentation : Nat → List Char
  | 0 => []
  | n + 1 => indentUnit ++ indentation n

/-- A line moved to the right; an empty line stays empty. -/
def indentLine (level : Nat) (line : List Char) : List Char :=
  if line.isEmpty then line else indentation level ++ line

/-- A block of code moved to the right by a number of levels. -/
def indentChars (level : Nat) (code : List Char) : List Char :=
  Text.joinWith ['\n'] ((Text.splitOn '\n' code).map (indentLine level))

/-- A block of code moved to the right by a number of levels. -/
def indent (level : Nat) (code : String) : String := .ofList (indentChars level code.toList)

end OpenApiClient.CSharp
