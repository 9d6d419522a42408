/-
Why a text is no JSON text, and where.

A fault names what was expected at a position, counted in characters from the start of
the text.  Its message adds the line and the column, which is what a person who has to
mend the document looks for.
-/

import OpenApiClient.Text.Digit
import OpenApiClient.Text.Position

set_option autoImplicit false

namespace OpenApiClient.Json

/-- What is wrong with a text. -/
inductive Fault where
  /-- The text starts with a byte order mark. -/
  | byteOrderMark
  /-- A value has to stand here. -/
  | value
  /-- The name of a member has to stand here. -/
  | name
  | colon
  | comma
  /-- The text goes on after its value. -/
  | extra
  /-- The string that starts here has no end. -/
  | openString
  /-- A control character stands inside a string. -/
  | control
  | escape
  | unicodeEscape
  /-- Values are nested too deeply. -/
  | tooDeep
  /-- An integer has more digits than are read. -/
  | longInteger (digits : Nat)
  deriving DecidableEq, Repr

/-- A fault and its position. -/
structure FaultAt where
  fault : Fault
  position : Nat
  deriving DecidableEq, Repr

/-- What a fault says. -/
def Fault.message : Fault → String
  | .byteOrderMark => "Unexpected UTF-8 BOM (decode using utf-8-sig)"
  | .value => "Expecting value"
  | .name => "Expecting property name enclosed in double quotes"
  | .colon => "Expecting ':' delimiter"
  | .comma => "Expecting ',' delimiter"
  | .extra => "Extra data"
  | .openString => "Unterminated string starting at"
  | .control => "Invalid control character at"
  | .escape => "Invalid \\escape"
  | .unicodeEscape => "Invalid \\uXXXX escape"
  | .tooDeep => "maximum recursion depth exceeded"
  | .longInteger digits => Text.longIntegerMessage digits

/-- The whole message of a fault in a text.  A fault about the size of a number, or of
the whole, has no position. -/
def FaultAt.message (text : List Char) (f : FaultAt) : String :=
  match f.fault with
  | .longInteger _ | .tooDeep => f.fault.message
  | _ =>
    let line := Text.lineAt text f.position
    let column := Text.columnAt text f.position
    s!"{f.fault.message}: line {line} column {column} (char {f.position})"

end OpenApiClient.Json
