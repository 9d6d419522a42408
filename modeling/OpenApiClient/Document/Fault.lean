/-
Why a value is no API document.

Most faults of a document come from a value that does not fit its place.  There are two ways
to notice it: something is done with the value that cannot be done with a value of its kind,
which is a `Misuse`, or a finished part of the document has fields of the wrong kind, which
are reported together.
-/

import OpenApiClient.Reference.Fault
import OpenApiClient.Validation.Report
import OpenApiClient.Value.Parts

set_option autoImplicit false

namespace OpenApiClient.Document

/-! ## Misuse -/

/-- Something that is done with a value of a kind that does not allow it. -/
inductive Misuse where
  /-- Asking for what only objects have. -/
  | noMember (kind name : String)
  /-- Going through it part by part. -/
  | notIterable (kind : String)
  /-- Looking for something in it. -/
  | notContainer (kind : String)
  /-- Taking a part out of it by name. -/
  | notIndexed (kind : String)
  | textIndex
  | listIndex
  /-- Telling it apart from others, as keys are. -/
  | unhashable (kind : String)
  /-- Taking the item at this position for a pair. -/
  | notPair (position : Nat)
  deriving DecidableEq, Repr

/-- What is said about a misuse. -/
def Misuse.message : Misuse → String
  | .noMember kind name => s!"'{kind}' object has no attribute '{name}'"
  | .notIterable kind => s!"'{kind}' object is not iterable"
  | .notContainer kind => s!"argument of type '{kind}' is not iterable"
  | .notIndexed kind => s!"'{kind}' object is not subscriptable"
  | .textIndex => "string indices must be integers, not 'str'"
  | .listIndex => "list indices must be integers or slices, not str"
  | .unhashable kind => s!"unhashable type: '{kind}'"
  | .notPair position =>
    s!"cannot convert dictionary update sequence element #{position} to a sequence"

/-! ## Faults -/

/-- Why a value is no API document. -/
inductive Fault where
  | notObject
  | noPaths
  | pathsNotObject
  /-- A reference that had to be followed is broken. -/
  | reference (fault : Reference.Fault)
  /-- A value stands somewhere and does not allow what is done with it. -/
  | misused (misuse : Misuse)
  /-- Fields of a part of the document have values of the wrong kind. -/
  | fields (part : String) (first : Validation.Fault) (more : List Validation.Fault)
  /-- The named schemas are given as pairs, and the pair at this position is none. -/
  | badPair (position length : Nat)
  /-- A reference is no address. -/
  | address (fault : Reference.AddressFault)
  /-- An integer that has to be written out is too long. -/
  | longInteger
  /-- Going through the document never comes to an end. -/
  | endless
  deriving DecidableEq, Repr

/-- A fault of a reference as a fault of the document. -/
def Fault.ofReference : Reference.Fault → Fault
  | .endless => .endless
  | .address f => .address f
  | f => .reference f

/-- What a fault says in the words of this program. -/
def Fault.headline : Fault → String
  | .notObject => "Документ не является объектом"
  | .noPaths => "В документе нет раздела paths"
  | .pathsNotObject => "Раздел paths не является объектом"
  | .reference _ => "Не удалось разрешить ссылку: "
  | .misused _ | .fields _ _ _ => "Некорректная структура документа: "
  | .badPair _ _ | .address _ | .longInteger | .endless => ""

/-- What a fault says in the words from further down. -/
def Fault.detail : Fault → String
  | .notObject | .noPaths | .pathsNotObject => ""
  | .reference f => f.message
  | .misused m => m.message
  | .fields part first more => Validation.report part first more
  | .badPair position length => (ShapeFault.wrongLength position length).message
  | .address f => f.message
  | .longInteger => Scalar.unwritableMessage
  | .endless => "maximum recursion depth exceeded"

/-- What a fault says. -/
def Fault.message (f : Fault) : String := f.headline ++ f.detail

end OpenApiClient.Document
