/-
Types of the generated language, as far as schemas need them.

A type is built in, named, a collection of items or a dictionary with textual keys.  The
system's types are written with their namespaces; the imports may shorten them later, in
the finished text.  A question mark can follow a type once, at its very end.
-/

set_option autoImplicit false

namespace OpenApiClient.CSharp

/-- A type of the language or of its system library. -/
inductive Builtin where
  | object
  | string
  | bytes
  | bool
  | int
  | long
  | float
  | double
  | decimal
  | dateTimeOffset
  | timeSpan
  | guid
  deriving DecidableEq, Repr, Inhabited

namespace Builtin

/-- The text of a built-in type. -/
def render : Builtin → String
  | .object => "object"
  | .string => "string"
  | .bytes => "byte[]"
  | .bool => "bool"
  | .int => "int"
  | .long => "long"
  | .float => "float"
  | .double => "double"
  | .decimal => "decimal"
  | .dateTimeOffset => "System.DateTimeOffset"
  | .timeSpan => "System.TimeSpan"
  | .guid => "System.Guid"

/-- Whether the values of a built-in type cannot be absent unless the type says so. -/
def isValueType : Builtin → Bool
  | .object | .string | .bytes => false
  | _ => true

end Builtin

/-- A type. -/
inductive TypeRef where
  | builtin (b : Builtin)
  | named (name : String)
  | collection (item : TypeRef)
  | dictionary (value : TypeRef)
  deriving DecidableEq, Repr, Inhabited

/-- The interface that collections are typed as. -/
def collectionInterface : String := "System.Collections.Generic.ICollection"

/-- The interface that dictionaries are typed as. -/
def dictionaryInterface : String := "System.Collections.Generic.IDictionary"

/-- The class that a named collection is derived from. -/
def collectionClass : String := "System.Collections.ObjectModel.Collection"

/-- The text of a type. -/
def TypeRef.render : TypeRef → String
  | .builtin b => b.render
  | .named name => name
  | .collection item => collectionInterface ++ "<" ++ item.render ++ ">"
  | .dictionary value => dictionaryInterface ++ "<string, " ++ value.render ++ ">"

/-- A type where a value is declared: with a question mark if the value may be absent and
the type would not allow it otherwise. -/
structure TypeUse where
  type : TypeRef
  marked : Bool := false
  deriving DecidableEq, Repr, Inhabited

/-- The text of a type where a value is declared. -/
def TypeUse.render (t : TypeUse) : String := t.type.render ++ (if t.marked then "?" else "")

end OpenApiClient.CSharp
