/-
Names that the generated language accepts.

A parameter may not be spelled like a reserved word; a sign before it takes the meaning
away.  The name of a schema becomes the name of a type: of a dotted name the last part
counts, and a part that is a type name already is kept as it was written.
-/

import OpenApiClient.Naming.Casing
import OpenApiClient.Text.Split

set_option autoImplicit false

namespace OpenApiClient.Naming

/-- The reserved words of the generated language. -/
def keywords : List String := [
  "abstract", "as", "base", "bool", "break", "byte", "case", "catch", "char", "checked",
  "class", "const", "continue", "decimal", "default", "delegate", "do", "double", "else",
  "enum", "event", "explicit", "extern", "false", "finally", "fixed", "float", "for",
  "foreach", "goto", "if", "implicit", "in", "int", "interface", "internal", "is", "lock",
  "long", "namespace", "new", "null", "object", "operator", "out", "override", "params",
  "private", "protected", "public", "readonly", "ref", "return", "sbyte", "sealed", "short",
  "sizeof", "stackalloc", "static", "string", "struct", "switch", "this", "throw", "true",
  "try", "typeof", "uint", "ulong", "unchecked", "unsafe", "ushort", "using", "virtual",
  "void", "volatile", "while"]

/-- A name that may stand as an identifier: a reserved word gets a sign before it. -/
def escapeKeyword (name : String) : String :=
  if keywords.contains name then "@" ++ name else name

/-- Whether a name is spelled like a type: a capital, then letters and digits. -/
def isTypeSpelling (s : List Char) : Bool :=
  match s with
  | [] => false
  | c :: r => c.isUpper && r.all isWordChar

/-- The type name of a schema name.  A name without a letter or digit gets a fixed
one. -/
def schemaTypeName (name : String) : String :=
  let part := Text.lastPiece '.' name.toList
  if isTypeSpelling part then .ofList part
  else match pascal part with
    | [] => "Model"
    | s => .ofList s

end OpenApiClient.Naming
