/-
The generated file.

Contracts come first, because they give names to schemas that the interface refers to; both
work with one ledger.  The contracts are then shortened by the imported namespaces, and the
parts are put together.
-/

import OpenApiClient.Generate.Interface
import OpenApiClient.Imports

set_option autoImplicit false

namespace OpenApiClient.Generate

/-- The contracts and the interface of a document, made with one ledger. -/
def parts (x : Context) : Schema.Build (List Contract × CSharp.InterfaceDecl) := do
  let cs ← contracts x
  return (cs, ← interfaceDecl x)

/-- The generated file for a document. -/
def client (s : Settings) (d : Document) : Except Fault String := do
  let x := Context.of s d
  let (cs, i) ← ((parts x).run.run {}).1
  let names ← (Imports.imported s).mapError .pattern
  let code := Imports.stripAll (renderContracts s cs) names
  return Assembly.assemble s (Imports.directives names) (renderInterface i) (some code)

end OpenApiClient.Generate
