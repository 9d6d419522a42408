/-
The contracts: one type for every schema that needs one.

Named schemas come first, in the order of the document; lists of numbers are left out,
since they are written as the number type itself.  Then come the schemas that have no name
and got one on the way, first those of the operations, then those that are found while the
types before them are written.  The list of these grows while it is worked off, but an
object enters it once, so the number of objects in the document bounds the work.
-/

import OpenApiClient.CSharp.Declaration
import OpenApiClient.Assembly
import OpenApiClient.Document.Selection
import OpenApiClient.Schema.Resolve

set_option autoImplicit false

namespace OpenApiClient.Generate

open CSharp
open Schema (Catalogue Ledger Build useNamespace liftShape liftFault)

/-! ## What a run works with -/

/-- The settings, the document and the catalogue of its schemas. -/
structure Context where
  settings : Settings
  document : Document
  catalogue : Catalogue

/-- What a run works with. -/
def Context.of (s : Settings) (d : Document) : Context := ⟨s, d, Catalogue.ofSchemas d.schemas⟩

/-- The operations that code is generated for. -/
def Context.operations (x : Context) : Except Fault (List Operation) :=
  (x.document.selected x.settings).mapError .pattern

/-! ## Attributes -/

/-- The attribute that marks generated code. -/
def generatedCodeName : String := "System.CodeDom.Compiler.GeneratedCode"

/-- The arguments of the attribute that marks generated code. -/
def generatedCodeArguments : List String :=
  ["\"" ++ Assembly.toolName ++ "\"", "\"" ++ Assembly.toolVersion ++ "\""]

/-- The attribute that gives the wire name of a property. -/
def jsonNameAttribute : String := "System.Text.Json.Serialization.JsonPropertyName"

/-- The attribute that chooses how an enumeration is written on the wire. -/
def jsonConverterAttribute : String := "System.Text.Json.Serialization.JsonConverter"

/-- The converter that writes an enumeration as texts. -/
def textEnumConverter : String :=
  "typeof(System.Text.Json.Serialization.JsonStringEnumConverter)"

/-- The attribute that gives the wire text of a member of an enumeration. -/
def enumMemberAttribute : String := "System.Runtime.Serialization.EnumMember"

/-- An attribute of a qualified name. -/
def qualifiedAttribute (name : String) (arguments : List String) : Build Attribute := do
  return ⟨← useNamespace name, arguments⟩

/-- A text between quotation marks, as it is. -/
def plainLiteral (s : String) : String := "\"" ++ s ++ "\""

/-- A text as a verbatim literal, in which a quotation mark is written twice. -/
def verbatimLiteral (s : String) : String :=
  .ofList ('@' :: '"' :: s.toList.flatMap (fun c => if c = '"' then ['"', '"'] else [c]) ++ ['"'])

/-- The comment of a schema: its description, if comments are wanted. -/
def schemaDoc (x : Context) (schema : Value) : Build (Option DocComment) := do
  let description := schema.memberOrNull "description"
  if !x.settings.generateXmlDocComments || !description.isGiven then return none
  match Validation.Checked.within (.key "summary") (Validation.text description) with
  | .ok s => return some { summary := some s }
  | .faults f fs => throw (.fields "DocComment" f fs)
  | .stopped => throw (.shape .wrongKind)

/-! ## Enumerations -/

/-- The values that a schema lists. -/
def listedValues (schema : Value) : Except ShapeFault (List Value) :=
  match schema.member? "enum" with
  | some v => v.parts
  | none => .ok []

/-- A member for a textual value. -/
def textMember (taken : List String) (order : Nat) (v : Value) : Build EnumMember := do
  if !v.isWritable then throw .longInteger
  let wanted := Naming.pascalCase v.display
  let name := if wanted = "" then "Empty" else wanted
  let mark ← qualifiedAttribute enumMemberAttribute ["Value = " ++ verbatimLiteral v.display]
  return ⟨Naming.fresh taken name, v.display, order, [mark]⟩

/-- The name of a member for an integer. -/
def integerMemberName (n : Int) : String :=
  if n < 0 then "__" ++ toString n.natAbs else "_" ++ toString n

/-- A member for an integer value, with the value itself as its ordinal. -/
def integerMember (taken : List String) (typeName : String) (v : Value) :
    Except Fault EnumMember :=
  if !v.isWritable then .error .longInteger
  else match v with
  | .scalar (.int n) =>
    .ok ⟨Naming.fresh taken (integerMemberName n), v.display, n, []⟩
  | v => .error (.notInteger v.literal typeName)

/-- A member for a value that is not absent. -/
def enumMember (isText : Bool) (typeName : String) (taken : List String) (order : Nat)
    (v : Value) : Build EnumMember :=
  if isText then textMember taken order v else liftFault (integerMember taken typeName v)

/-- The members for the values of a list, the first of which stands at `order`.  An absent
value has no member but keeps its place. -/
def enumMembers (isText : Bool) (typeName : String) (taken : List String) (order : Nat) :
    List Value → Build (List EnumMember)
  | [] => return []
  | v :: vs => do
    if v.isNull then enumMembers isText typeName taken (order + 1) vs
    else
      let m ← enumMember isText typeName taken order v
      return m :: (← enumMembers isText typeName (taken ++ [m.name]) (order + 1) vs)

/-- The attribute of an enumeration that is written as texts. -/
def converterAttributes (isText : Bool) : Build (List Attribute) := do
  if isText then return [← qualifiedAttribute jsonConverterAttribute [textEnumConverter]]
  else return []

/-- The enumeration of a schema. -/
def enumDecl (x : Context) (typeName : String) (schema : Value) : Build EnumDecl := do
  let generated ← qualifiedAttribute generatedCodeName generatedCodeArguments
  let isText := schema.hasNoType || schema.hasType "string"
  let converter ← converterAttributes isText
  let values ← liftShape (listedValues schema)
  let members ← enumMembers isText typeName [] 0 values
  return ⟨typeName, x.settings.accessibility.keyword, generated :: converter, members,
    ← schemaDoc x schema⟩

/-! ## Classes -/

/-- What a class is made from: its base types, its properties and which of them are
required. -/
structure ClassParts where
  bases : List String := []
  properties : Members := []
  required : List Scalar := []

/-- The key that an item of a list of keys is.  An entry of an ordered list is no key of an
object, but may stand there if its parts may. -/
def listedKey? : Value → Except ShapeFault (Option Scalar)
  | .scalar s => .ok (some s)
  | .pair (.scalar _) (.scalar _) => .ok none
  | _ => .error .wrongKind

/-- Keys that a schema requires. -/
def requiredKeys (v : Option Value) : Except ShapeFault (List Scalar) :=
  match v.filter (·.isGiven) with
  | none => .ok []
  | some v => do return (← (← v.parts).mapM listedKey?).filterMap id

/-- Adds the properties of a schema, and the keys that it requires. -/
def ClassParts.add (parts : ClassParts) (schema : Value) : Except ShapeFault ClassParts := do
  if !schema.isObject then throw .noMembers
  let properties ← Value.membersOrNone (schema.member? "properties")
  let required ← requiredKeys (schema.member? "required")
  return { parts with
    properties := Members.update parts.properties properties
    required := parts.required ++ required }

/-- Whether a part of a composition refers to a schema, and the reference itself. -/
def partReference (part : Value) : Except ShapeFault (Option Value) :=
  match part with
  | .object _ ms => .ok (Members.getText? ms "$ref")
  | .list items => if items.any fun v => v.text? == some "$ref" then .error .wrongKind else .ok none
  | .set ms => if ms.any fun k => k.isText "$ref" then .error .wrongKind else .ok none
  | .pair k v =>
    if [k, v].any fun w => w.text? == some "$ref" then .error .wrongKind else .ok none
  | .scalar (.text s) =>
    if Text.occurs "$ref".toList s.toList then .error .wrongKind else .ok none
  | _ => .error .wrongKind

/-- Adds one part of a composition: the first reference becomes the base type, if there is
none yet, and of all others the properties are taken over. -/
def addPart (c : Catalogue) (parts : ClassParts) (part : Value) : Except Fault ClassParts := do
  match ← (partReference part).mapError .shape with
  | some written =>
    let ref ← Catalogue.refText written
    if parts.bases.isEmpty then return { parts with bases := [← c.refName ref] }
    else (parts.add (c.refSchema ref)).mapError .shape
  | none => (parts.add part).mapError .shape

/-- The parts of a composition that may be left out. -/
def compositionParts (schema : Value) : Except ShapeFault (List Value) :=
  match (schema.member? "allOf").filter (·.isGiven) with
  | none => .ok []
  | some v => v.parts

/-- The base type of a schema that is an array: it is derived from a collection. -/
def arrayBases (x : Context) (typeName : String) (schema : Value) : Build (List String) := do
  if (schema.memberOrNull "type").text? == some "array" then
    let item ← Schema.resolve x.catalogue (schema.memberOrNull "items") (typeName ++ "Item") false
    let collection ← useNamespace collectionClass
    return [collection ++ "<" ++ item.render ++ ">"]
  else return []

/-- What the class of a schema is made from. -/
def classParts (x : Context) (typeName : String) (schema : Value) : Build ClassParts := do
  let own ← liftShape (ClassParts.add {} schema)
  let bases ← arrayBases x typeName schema
  let composed ← liftShape (compositionParts schema)
  liftFault (composed.foldlM (addPart x.catalogue) { own with bases })

/-- The words of a property's key as a name; only a text has words. -/
def keyName (key : Scalar) : Except ShapeFault String :=
  match key with
  | .text s => .ok (Naming.pascalCase s)
  | k => if k.isGiven then .error .wrongKind else .ok ""

/-- The wanted name of a property.  It may not be spelled like its class. -/
def propertyName (typeName wanted : String) : String :=
  let name := if wanted = "" then "Value" else wanted
  if name = typeName then name ++ "Property" else name

/-- The comment of a property; only an object has a description. -/
def propertyDoc (x : Context) (schema : Value) : Build (Option DocComment) :=
  if schema.isObject then schemaDoc x schema else pure none

/-- The property for a member of a schema. -/
def classProperty (x : Context) (typeName : String) (required : List Scalar)
    (taken : List String) (key : Scalar) (schema : Value) : Build Property := do
  let wanted ← liftShape (keyName key)
  let name := Naming.fresh taken (propertyName typeName wanted)
  let type ← Schema.resolve x.catalogue schema (typeName ++ wanted) (!required.any key.same)
  let mark ← qualifiedAttribute jsonNameAttribute [plainLiteral key.display]
  let doc ← propertyDoc x schema
  return { name := name, type := type.render, attributes := [mark], doc := doc }

/-- The properties for the members of a schema. -/
def classProperties (x : Context) (typeName : String) (required : List Scalar)
    (taken : List String) : Members → Build (List Property)
  | [] => return []
  | (key, schema) :: ms => do
    let p ← classProperty x typeName required taken key schema
    return p :: (← classProperties x typeName required (taken ++ [p.name]) ms)

/-- The class of a schema. -/
def classDecl (x : Context) (typeName : String) (schema : Value) : Build ClassDecl := do
  let parts ← classParts x typeName schema
  let properties ← classProperties x typeName parts.required [typeName] parts.properties
  let generated ← qualifiedAttribute generatedCodeName generatedCodeArguments
  return ⟨typeName, x.settings.accessibility.keyword, parts.bases, [generated], properties,
    ← schemaDoc x schema⟩

/-! ## All contracts -/

/-- A declared type. -/
inductive Contract where
  | classDecl (c : ClassDecl)
  | enumDecl (e : EnumDecl)
  deriving Repr, Inhabited

/-- The name of a declared type. -/
def Contract.name : Contract → String
  | .classDecl c => c.name
  | .enumDecl e => e.name

/-- The text of a declared type. -/
def Contract.render : Contract → String
  | .classDecl c => c.render
  | .enumDecl e => e.render

/-- The type that is declared for a schema. -/
def contract (x : Context) (typeName : String) (schema : Value) : Build Contract := do
  if schema.isEnumSchema then return .enumDecl (← enumDecl x typeName schema)
  else return .classDecl (← classDecl x typeName schema)

/-- The types of the named schemas. -/
def namedContracts (x : Context) : List (String × Value) → Build (List Contract)
  | [] => return []
  | (name, schema) :: rest => do
    if schema.isDeclared then
      let c ← contract x (x.catalogue.typeName name) schema
      return c :: (← namedContracts x rest)
    else namedContracts x rest

/-- The schemas of an operation, each with the owner that a type of its own is named after. -/
def ownedSchemas (o : Operation) : List (String × Value) :=
  o.parameters.map (fun p => (o.name ++ Naming.pascalCase p.name, p.schema))
    ++ o.requestBody.toList.map (fun v => (o.name ++ "Body", v))
    ++ o.response.toList.map (fun v => (o.name ++ "Response", v))

/-- Resolves schemas, so that those without a name get one. -/
def register (x : Context) : List (String × Value) → Build Unit
  | [] => return ()
  | (owner, v) :: rest => do
    let _ ← Schema.resolve x.catalogue v owner false
    register x rest

/-- The types of the schemas that got a name on the way, from the one at `index` on. -/
def inlineContracts (x : Context) : Nat → Nat → Build (List Contract)
  | 0, _ => return []
  | fuel + 1, index => do
    match (← get).inlined[index]? with
    | none => return []
    | some (name, schema) =>
      let c ← contract x name schema
      return c :: (← inlineContracts x fuel (index + 1))

/-- A bound for the number of types without a name of their own. -/
def Context.objects (x : Context) : Nat :=
  x.catalogue.size
    + Value.countObjectsInItems ((x.document.operations.flatMap ownedSchemas).map (·.2))

/-- All types of a document. -/
def contracts (x : Context) : Build (List Contract) := do
  let named ← namedContracts x x.document.schemas
  let operations ← liftFault x.operations
  register x (operations.flatMap ownedSchemas)
  return named ++ (← inlineContracts x (x.objects + 1) 0)

/-- The text of some types, in their namespace. -/
def renderContracts (s : Settings) (cs : List Contract) : String :=
  Assembly.namespaceBlock s.namespaceName
    (indent 1 ("\n\n".intercalate (cs.map Contract.render)))

end OpenApiClient.Generate
