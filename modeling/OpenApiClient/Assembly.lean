/-
The parts of a generated file, put together.

A file is the client block, an empty line, and the contracts.  The client block is the
header comment, the imports and the interface in its namespace.  Without contracts their
segment is empty but stays, so the line ends at the end of the file do not depend on it.
-/

import OpenApiClient.Settings

set_option autoImplicit false

namespace OpenApiClient.Assembly

/-- The name that the tool gives itself in what it generates. -/
def toolName : String := "Refitter"

/-- The version that the tool gives itself in what it generates. -/
def toolVersion : String := "0.3.0"

/-- The comment at the top of a generated file. -/
def header : String :=
  "// <auto-generated>\n"
    ++ "//     This code was generated by " ++ toolName ++ ".\n"
    ++ "// </auto-generated>\n"

/-- A body inside a namespace. -/
def namespaceBlock (name body : String) : String :=
  "namespace " ++ name ++ "\n\x7b\n" ++ body ++ "\n\x7d"

/-- The header, the imports and the interface in its namespace. -/
def clientBlock (s : Settings) (imports interfaceBody : String) : String :=
  (if s.addAutoGeneratedHeader then header ++ "\n" else "")
    ++ imports ++ "\n" ++ "\n" ++ namespaceBlock s.namespaceName interfaceBody ++ "\n"

/-- The whole file. -/
def assemble (s : Settings) (imports interfaceBody : String) (contracts : Option String) :
    String :=
  let trailing := if s.generateContracts then contracts.getD "" else ""
  clientBlock s imports interfaceBody ++ "\n" ++ "\n" ++ trailing ++ "\n"

end OpenApiClient.Assembly
