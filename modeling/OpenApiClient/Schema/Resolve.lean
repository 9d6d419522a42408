/-
The type of a schema.

A schema is resolved to a type by going down from it: through a composition with one part,
into the items of an array, into the values of a dictionary, and through a reference to a
list of numbers, which has no type of its own.  Objects with properties and enumerations
end the way down: they are entered into the ledger under a name made from their owner.

Only references can lead back to where the way has been.  Each step goes from one object to
another, so a way with more steps than there are objects has come back and has no end;
`typeOf` starts with that number as fuel.
-/

import OpenApiClient.Schema.Catalogue
import OpenApiClient.CSharp.TypeRef

set_option autoImplicit false

namespace OpenApiClient.Schema

open Generate (Fault)
open CSharp (Builtin TypeRef TypeUse)

/-! ## Compositions -/

/-- What a composition leads to. -/
inductive Composite where
  /-- There is none. -/
  | absent
  /-- It has one part. -/
  | single (part : Value)
  /-- It has several. -/
  | several

/-- The only part of a value with one part. -/
def onlyPart (v : Value) : Except ShapeFault Value :=
  match v with
  | .object _ ms =>
    match Members.get? ms (.int 0) with
    | some w => .ok w
    | none => .error .noSuchKey
  | .set _ => .error .wrongKind
  | v => do
    match ← v.parts with
    | w :: _ => return w
    | [] => throw .wrongKind

/-- What the composition under a key leads to. -/
def compositeUnder (v : Value) (key : String) : Except ShapeFault Composite := do
  let parts := v.memberOrNull key
  if !parts.isGiven then return .absent
  if (← parts.parts).length = 1 then return .single (← onlyPart parts)
  return .several

/-- The keys of compositions, in the order in which they count. -/
def compositeKeys : List String := ["allOf", "oneOf", "anyOf"]

/-- What the first composition of a schema leads to. -/
def composite (v : Value) : List String → Except ShapeFault Composite
  | [] => .ok .absent
  | key :: keys => do
    match ← compositeUnder v key with
    | .absent => composite v keys
    | c => return c

/-! ## Plain types -/

/-- The type of a textual schema of a format, with the namespace that it needs. -/
def textType (format : Option String) : Builtin :=
  match format with
  | some "date-time" | some "date" => .dateTimeOffset
  | some "time" => .timeSpan
  | some "uuid" => .guid
  | some "binary" | some "byte" => .bytes
  | _ => .string

/-- The type of a number of a format.  A format that is no scalar cannot be looked up. -/
def numberType (format : Value) : Except ShapeFault Builtin :=
  match format with
  | .scalar (.text "float") => .ok .float
  | .scalar (.text "decimal") => .ok .decimal
  | .scalar _ | .pair (.scalar _) (.scalar _) => .ok .double
  | _ => .error .wrongKind

/-- Turns a fault of shape into one of generation. -/
def liftShape {α : Type} (x : Except ShapeFault α) : Build α :=
  match x with
  | .ok a => pure a
  | .error f => throw (.shape f)

/-- Lifts a result that does not touch the ledger. -/
def liftFault {α : Type} (x : Except Fault α) : Build α :=
  match x with
  | .ok a => pure a
  | .error f => throw f

/-! ## Forms -/

/-- What the type of a schema is, looked at one step down. -/
inductive Form where
  /-- A built-in type. -/
  | builtin (b : Builtin)
  /-- The type of a named schema. -/
  | named (name : String)
  /-- The type of another schema. -/
  | sameAs (v : Value)
  /-- A type of its own. -/
  | own
  /-- A collection of items. -/
  | collection (item : Value)
  /-- A dictionary of values. -/
  | dictionary (value : Value)

/-- The form of a reference: the type of its target, but a list of numbers has none. -/
def referenceForm (c : Catalogue) (written : Value) : Except Fault Form := do
  let ref ← Catalogue.refText written
  let target := c.refSchema ref
  if !target.isObject then throw (.shape .noMembers)
  if target.isDeclared then return .named (← c.refName ref) else return .sameAs target

/-- The form of an object of a schema: a type of its own if it has properties, and a dictionary
if it says what else it holds. -/
def objectForm (v : Value) : Form :=
  if (v.memberOrNull "properties").isGiven then .own
  else
    let additional := v.memberOrNull "additionalProperties"
    if additional.isObject then .dictionary additional else .builtin .object

/-- The form of a schema that is no reference and no composition. -/
def plainForm (v : Value) : Except ShapeFault Form :=
  if v.isEnumSchema then .ok .own
  else if v.hasType "integer" then
    .ok (.builtin (if v.format? == some "int64" then .long else .int))
  else if v.hasType "number" then (numberType (v.memberOrNull "format")).map .builtin
  else if v.hasType "boolean" then .ok (.builtin .bool)
  else if v.hasType "string" then .ok (.builtin (textType v.format?))
  else if v.hasType "array" then .ok (.collection (v.memberOrNull "items"))
  else if v.hasType "object" || (v.member? "properties").isSome then .ok (objectForm v)
  else .ok (.builtin .object)

/-- The form of a schema. -/
def form (c : Catalogue) (v : Value) : Except Fault Form :=
  match v with
  | .object _ (_ :: _) =>
    match v.member? "$ref" with
    | some written => referenceForm c written
    | none => do
      match ← (composite v compositeKeys).mapError .shape with
      | .single part => return .sameAs part
      | .several => return .builtin .object
      | .absent => (plainForm v).mapError .shape
  | _ => .ok (.builtin .object)

/-! ## Resolution -/

/-- A built-in type; one of the system notes its namespace. -/
def useBuiltin (b : Builtin) : Build TypeRef := do
  if [Builtin.dateTimeOffset, .timeSpan, .guid].contains b then
    let _ ← useNamespace b.render
  return .builtin b

/-- The type of a schema of an owner, found in at most `fuel` steps. -/
def typeWith (c : Catalogue) (owner : String) : Nat → Value → Build TypeRef
  | 0, _ => throw .endless
  | fuel + 1, v => do
    match ← liftFault (form c v) with
    | .builtin b => useBuiltin b
    | .named name => return .named name
    | .sameAs w => typeWith c owner fuel w
    | .own => return .named (← inlineName c owner v)
    | .collection item =>
      let item ← typeWith c owner fuel item
      let _ ← useNamespace CSharp.collectionInterface
      return .collection item
    | .dictionary value =>
      let _ ← useNamespace CSharp.dictionaryInterface
      return .dictionary (← typeWith c owner fuel value)

/-- The type of a schema of an owner. -/
def typeOf (c : Catalogue) (owner : String) (v : Value) : Build TypeRef :=
  typeWith c owner (c.size + v.countObjects + 2) v

/-- The texts of the types whose values cannot be absent unless the type says so. -/
def valueTypes : List String :=
  ([.bool, .int, .long, .float, .double, .decimal, .dateTimeOffset, .timeSpan, .guid]
    : List Builtin).map Builtin.render

/-- Whether a schema says that its values may be absent. -/
def isNullable (v : Value) : Bool := v.isObject && (v.memberOrNull "nullable").isGiven

/-- Whether a type gets a question mark: the value may be absent, and the type of the schema
would not allow it otherwise. -/
def isMarked (c : Catalogue) (v : Value) (nullable : Bool) (type : TypeRef) : Except Fault Bool :=
  if nullable || isNullable v then
    if valueTypes.contains type.render then .ok true else c.isEnum v
  else .ok false

/-- The type of a schema where a value of it is declared.  If the value may be absent, a
type that would not allow it gets a question mark. -/
def resolve (c : Catalogue) (v : Value) (owner : String) (nullable : Bool) : Build TypeUse := do
  let type ← typeOf c owner v
  let use : TypeUse := ⟨type, ← liftFault (isMarked c v nullable type)⟩
  modify (·.give use)
  return use

end OpenApiClient.Schema
