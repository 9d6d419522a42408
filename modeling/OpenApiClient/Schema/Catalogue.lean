/-
The named schemas of a document, the names of their types, and what has been asked of
them so far.

The catalogue is fixed for a run.  The ledger grows: it lists the namespaces that the
generated code uses, in the order of first use, the schemas that have no name in the
document but need a type of their own, with the names given to them, and the types that have
been given out.  All lists grow at the end only, so a name once given stays, and the list of
types can be worked off while it still grows.  `Build` keeps the ledger also when something
fails.
-/

import OpenApiClient.CSharp.TypeRef
import OpenApiClient.Schema.Basic
import OpenApiClient.Generate.Fault
import OpenApiClient.Naming.Fresh
import OpenApiClient.Naming.Identifier

set_option autoImplicit false

namespace OpenApiClient.Schema

open Generate (Fault)

/-! ## The catalogue -/

/-- The named schemas, the names of their types, and how many objects they hold. -/
structure Catalogue where
  schemas : List (String × Value)
  typeNames : List (String × String)
  size : Nat

/-- The catalogue of some named schemas.  Types of equal names are numbered, in the order of
the schemas. -/
def Catalogue.ofSchemas (schemas : List (String × Value)) : Catalogue :=
  let names := schemas.map (·.1)
  let (types, _) := Naming.freshAll [] (names.map Naming.schemaTypeName)
  ⟨schemas, names.zip types, Value.countObjectsInItems (schemas.map (·.2))⟩

namespace Catalogue

/-- The name of the type of a schema name; a name that is not in the catalogue is only
respelled. -/
def typeName (c : Catalogue) (name : String) : String :=
  (c.typeNames.lookup name).getD (Naming.schemaTypeName name)

/-- The schema with a name. -/
def schema? (c : Catalogue) (name : String) : Option Value := c.schemas.lookup name

/-- The places in a document where named schemas stand. -/
def refStems : List String := ["#/components/schemas/", "#/definitions/"]

/-- The schema name that a reference is to, if it is one to a named schema. -/
def refTarget? (ref : String) : Option String :=
  refStems.findSome? fun stem => (Text.dropWord? stem.toList ref.toList).map .ofList

/-- The name of the type that a reference is to. -/
def refName (c : Catalogue) (ref : String) : Except Fault String :=
  match refTarget? ref with
  | none => .error (.unsupportedReference ref)
  | some name =>
    if (c.schema? name).isSome then .ok (c.typeName name) else .error (.schemaNotFound ref)

/-- The schema that a reference is to; one that leads nowhere gives the empty schema. -/
def refSchema (c : Catalogue) (ref : String) : Value :=
  ((refTarget? ref).bind c.schema?).getD (.object 0 [])

/-- The text of a reference. -/
def refText (v : Value) : Except Fault String :=
  match v with
  | .scalar (.text s) => .ok s
  | .scalar (.bytes _) => .error (.shape .wrongKind)
  | _ => .error (.shape .noMembers)

/-- Whether a schema, or the one that it refers to, is declared as an enumeration. -/
def isEnum (c : Catalogue) (v : Value) : Except Fault Bool :=
  match v.member? "$ref" with
  | some ref => return (c.refSchema (← refText ref)).isEnumSchema
  | none => .ok v.isEnumSchema

end Catalogue

/-! ## The ledger -/

/-- The namespaces used so far, the schemas that got a type of their own so far, with the
names of their types, and the types given out so far for schemas that were asked for. -/
structure Ledger where
  namespaces : List String := []
  inlined : List (String × Value) := []
  given : List CSharp.TypeUse := []
  deriving Inhabited

/-- A computation that may fail and that writes into the ledger. -/
abbrev Build := ExceptT Fault (StateM Ledger)

/-- Notes the namespace of a qualified name. -/
def Ledger.use (l : Ledger) (qualified : String) : Ledger :=
  let name := String.ofList (Text.beforeLast '.' qualified.toList)
  if l.namespaces.contains name then l else { l with namespaces := l.namespaces ++ [name] }

/-- Notes a type that is given out. -/
def Ledger.give (l : Ledger) (t : CSharp.TypeUse) : Ledger := { l with given := l.given ++ [t] }

/-- Notes the namespace of a qualified name, and gives the name back. -/
def useNamespace (qualified : String) : Build String := do
  modify (·.use qualified)
  return qualified

/-- The object number of a value that is an object. -/
def objectNumber? : Value → Option Nat
  | .object n _ => some n
  | _ => none

/-- The name that an object has been given already. -/
def Ledger.nameOf? (l : Ledger) (v : Value) : Option String :=
  (l.inlined.find? fun known => objectNumber? known.2 == objectNumber? v).map (·.1)

/-- The name that a type of an owner gets if it is free. -/
def wantedName (owner : String) : String :=
  if owner = "" then "Anonymous" else Naming.pascalCase owner

/-- The name of the type of a schema without a name: the one it has been given, or a new
one after its owner, different from those of all other types. -/
def inlineName (c : Catalogue) (owner : String) (v : Value) : Build String := do
  let l ← get
  match l.nameOf? v with
  | some name => return name
  | none =>
    let taken := c.typeNames.map (·.2) ++ l.inlined.map (·.1)
    let name := Naming.fresh taken (wantedName owner)
    set { l with inlined := l.inlined ++ [(name, v)] }
    return name

end OpenApiClient.Schema
