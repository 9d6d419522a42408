/-
The operations that code is generated for, and their names.

Methods of HTTP without an attribute in the client library are left out.  Tags and path
patterns narrow the rest down; an empty list of either narrows nothing.  The name of an
operation is its identifier, or else made from the method and the parts of the path.
-/

import OpenApiClient.Document.Basic
import OpenApiClient.Naming.Casing
import OpenApiClient.Pattern.Reader
import OpenApiClient.Settings

set_option autoImplicit false

namespace OpenApiClient

/-! ## Names -/

/-- A text without the given characters at its two ends. -/
def stripEnds (cs : List Char) (s : List Char) : List Char :=
  ((s.dropWhile cs.contains).reverse.dropWhile cs.contains).reverse

namespace Operation

/-- The name of an operation that is made from its method and its path. -/
def pathName (o : Operation) : String :=
  let segments := (Text.splitOn '/' (stripEnds ['/'] o.path.toList)).filter (!·.isEmpty)
  Naming.pascalCase o.verb.name
    ++ String.join (segments.map fun s =>
      .ofList (Naming.pascal (stripEnds ['\x7b', '\x7d'] s)))

/-- The name of an operation: its identifier, if that has a letter or a digit. -/
def name (o : Operation) : String :=
  let named := Naming.pascalCase (o.operationId.getD "")
  if named = "" then o.pathName else named

end Operation

/-! ## Selection -/

/-- The attribute of a method of HTTP; some methods have none. -/
def Verb.attribute? : Verb → Option String
  | .get => some "Get"
  | .put => some "Put"
  | .post => some "Post"
  | .delete => some "Delete"
  | .options => some "Options"
  | .head => some "Head"
  | .patch => some "Patch"
  | .trace => none

/-- Whether an operation carries one of the wanted tags, if any tag is wanted. -/
def Operation.hasWantedTag (wanted : List String) (o : Operation) : Bool :=
  wanted.isEmpty || o.tags.any wanted.contains

/-- Whether one of some patterns occurs in the path of an operation, if there is one. -/
def Operation.hasWantedPath (patterns : List Pattern) (o : Operation) : Bool :=
  patterns.isEmpty || patterns.any (·.occursIn o.path)

/-- The operations of a document that code is generated for, in order. -/
def Document.selected (d : Document) (s : Settings) : Except Pattern.Fault (List Operation) := do
  let patterns ← Pattern.readAll s.includePathMatches
  return d.operations.filter fun o =>
    o.verb.attribute?.isSome && o.hasWantedTag s.includeTags && o.hasWantedPath patterns

end OpenApiClient
