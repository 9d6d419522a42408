/-
Reports of a check.

A report counts the faults of a check and lists them.  Each one takes three lines: where the
value stands, what is wrong with it and what it is, and where to read more about faults of its
kind.  A long literal is shown by its two ends, measured in bytes and cut between characters.
-/

import OpenApiClient.Validation.Checked

set_option autoImplicit false

namespace OpenApiClient.Validation

/-! ## Kinds of faults -/

/-- The name of a kind of fault. -/
def FaultKind.label : FaultKind → String
  | .missing => "missing"
  | .notText => "string_type"
  | .notUtf8 => "string_unicode"
  | .notBool => "bool_type"
  | .badBool => "bool_parsing"
  | .notInt => "int_type"
  | .badInt => "int_parsing"
  | .fractionalInt => "int_from_float"
  | .infiniteInt => "finite_number"
  | .longInt => "int_parsing_size"
  | .notList => "list_type"
  | .notTuple => "tuple_type"
  | .notObject => "model_type"
  | .notTable => "dict_type"
  | .notMember _ => "enum"

/-- Several words as alternatives. -/
def alternatives (words : List String) : String :=
  match words.map Text.quoted with
  | [] => ""
  | [w] => w
  | ws => ", ".intercalate ws.dropLast ++ " or " ++ ws.getLastD ""

/-- What a kind of fault says. -/
def FaultKind.message : FaultKind → String
  | .missing => "Field required"
  | .notText => "Input should be a valid string"
  | .notUtf8 => "Input should be a valid string, unable to parse raw data as a unicode string"
  | .notBool => "Input should be a valid boolean"
  | .badBool => "Input should be a valid boolean, unable to interpret input"
  | .notInt => "Input should be a valid integer"
  | .badInt => "Input should be a valid integer, unable to parse string as an integer"
  | .fractionalInt => "Input should be a valid integer, got a number with a fractional part"
  | .infiniteInt => "Input should be a finite number"
  | .longInt => "Unable to parse input string as an integer, exceeded maximum size"
  | .notList => "Input should be a valid list"
  | .notTuple => "Input should be a valid tuple"
  | .notObject | .notTable => "Input should be a valid dictionary"
  | .notMember members => "Input should be " ++ alternatives members

/-! ## Parts of a report -/

/-- A step of a path.  A name with a point in it is marked. -/
def Step.display : Step → String
  | .key name => if name.toList.contains '.' then "`" ++ name ++ "`" else name
  | .index i => toString i

/-- The characters at the start of a text that take at most `size` bytes. -/
def takeBytes : Nat → List Char → List Char
  | _, [] => []
  | size, c :: r => if c.utf8Size ≤ size then c :: takeBytes (size - c.utf8Size) r else []

/-- The most bytes of a literal that are shown. -/
def maxShown : Nat := 50

/-- A literal, or its two ends if it is long. -/
def shorten (s : String) : String :=
  if s.utf8ByteSize ≤ maxShown then s
  else
    let half := maxShown / 2
    .ofList (takeBytes half s.toList) ++ "..."
      ++ .ofList (takeBytes (half - 1) s.toList.reverse).reverse

/-- What a report shows of a value. -/
def Exhibit.display (e : Exhibit) : String :=
  let literal := e.literal.getD ("<unprintable " ++ e.kind ++ " object>")
  "input_value=" ++ shorten literal ++ ", input_type=" ++ e.kind

/-- The host of the pages about faults. -/
def helpHost : String := "errors.pydantic.dev"

/-- The edition of these pages. -/
def helpEdition : String := "2.14"

/-- The address of the page about a kind of fault. -/
def FaultKind.help (k : FaultKind) : String :=
  "https:" ++ "//" ++ "/".intercalate [helpHost, helpEdition, "v", k.label]

/-- The lines about one fault. -/
def Fault.lines (f : Fault) : List String :=
  [".".intercalate (f.path.map Step.display),
    "  " ++ f.kind.message ++ " [type=" ++ f.kind.label ++ ", " ++ f.input.display ++ "]",
    "    For further information visit " ++ f.kind.help]

/-- The report of the faults of a structure with a name. -/
def report (name : String) (first : Fault) (more : List Fault) : String :=
  let count := more.length + 1
  let plural := if count = 1 then "" else "s"
  let title := s!"{count} validation error{plural} for {name}"
  "\n".intercalate (title :: (first :: more).flatMap Fault.lines)

end OpenApiClient.Validation
