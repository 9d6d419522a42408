/-
Why no code can be generated.
-/

import OpenApiClient.Validation.Report
import OpenApiClient.Pattern.Reader
import OpenApiClient.Value.Parts

set_option autoImplicit false

namespace OpenApiClient.Generate

/-- Why no code can be generated. -/
inductive Fault where
  /-- A reference names no schema of the document. -/
  | schemaNotFound (ref : String)
  /-- A reference is none to a schema of the document. -/
  | unsupportedReference (ref : String)
  /-- A value of an integer enumeration is no integer. -/
  | notInteger (literal typeName : String)
  /-- A filter is no search pattern. -/
  | pattern (fault : Pattern.Fault)
  /-- A value of the wrong kind stands in a schema. -/
  | shape (fault : ShapeFault)
  /-- Fields of a declaration have values of the wrong kind. -/
  | fields (declaration : String) (first : Validation.Fault) (more : List Validation.Fault)
  /-- An integer that has to be written out is too long. -/
  | longInteger
  /-- References between schemas never come to an end. -/
  | endless
  deriving DecidableEq, Repr

/-- What a fault says, for those that have something to say about the document. -/
def Fault.message : Fault → String
  | .schemaNotFound ref => "Схема не найдена: " ++ ref
  | .unsupportedReference ref => "Неподдерживаемая ссылка на схему: " ++ ref
  | .notInteger literal typeName =>
    "Значение " ++ literal ++ " enum " ++ typeName ++ " не является целым"
  | .pattern f => f.message
  | .shape f => f.message
  | .fields declaration first more => Validation.report declaration first more
  | .longInteger => Scalar.unwritableMessage
  | .endless => "maximum recursion depth exceeded"

end OpenApiClient.Generate
