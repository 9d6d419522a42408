/-
Reading an API document.

A document of either generation is read into one form.  Path items, parameters, bodies
and responses may be references and are seen through them; the schemas inside keep their
references, because the name of the target becomes the name of a type.  A parameter or a
body in the older form says in its own members what the newer form says in a schema.

Every place is looked at once and in a fixed order, so of several faults the first one is
reported.  Only the fields of a finished part are checked together, and all their faults are
reported.  At the end the schemas of operations get numbers of their own: they are copies,
made for each operation anew.
-/

import OpenApiClient.Document.Basic
import OpenApiClient.Document.Place
import OpenApiClient.Value.Depth
import OpenApiClient.Value.Number

set_option autoImplicit false

namespace OpenApiClient.Document

open Reference (Node Library)
open Validation (Checked)

/-! ## Bodies and responses -/

/-- The media types of JSON, the preferred one first. -/
def jsonMediaTypes : List String := ["application/json", "text/json", "application/*+json"]

/-- The first of some types that a content has, with what it says about it. -/
def preferredMedia (content : Node) : List String → Reading (Option Node)
  | [] => return none
  | type :: types => do
    match ← partNamed? content type with
    | some media => return some media
    | none => preferredMedia content types

/-- The schema of the first media type that has one. -/
def firstSchema : List (Scalar × Node) → Reading (Option Node)
  | [] => return none
  | (_, media) :: ms => do
    match ← partNamed? media "schema" with
    | some n => return present? (some n)
    | none => firstSchema ms

/-- The schema of a content: that of the preferred JSON type if the content has a JSON
type, also if it has no schema, and otherwise that of the first type with a schema. -/
def contentSchema (content : Option Node) : Reading (Option Node) := do
  match content with
  | none => return none
  | some n =>
    if !(← isGiven n) then return none
    match ← preferredMedia n jsonMediaTypes with
    | some media => return present? (find? (← membersFor "get" media) "schema")
    | none => firstSchema (← membersFor "values" n)

/-- The schema of the first response of success that has one; the responses are looked
through in the order of their codes as texts. -/
def successSchema : List (Scalar × Node) → Reading (Option Value)
  | [] => return none
  | (code, response) :: rs => do
    if !code.display.startsWith "2" then successSchema rs
    else
      let ms ← membersFor "get" response
      let schema ← contentSchema (find? ms "content")
      match schema.or (present? (find? ms "schema")) with
      | some n => return some n.value.trimReferences
      | none => successSchema rs

/-- The schema of the response that a client gets on success. -/
def responseSchema (responses : Option Node) : Reading (Option Value) := do
  let ms ← membersOfOptional "keys" responses
  if ms.any fun m => !m.1.isWritable then throw .longInteger
  successSchema (ms.mergeSort fun a b => a.1.display ≤ b.1.display)

/-! ## Parameters -/

/-- One half of what tells two parameters apart: a scalar, and whether it stands there
itself and not through a reference. -/
structure KeyPart where
  scalar : Scalar
  direct : Bool

/-- The half of a key that a member gives. -/
def KeyPart.ofNode (n : Option Node) : Reading KeyPart := do
  match n with
  | none => return ⟨.null, true⟩
  | some n =>
    let found ← settle n
    match found.value with
    | .scalar s => return ⟨s, !n.isReference⟩
    | v => misused (.unhashable v.fullKind)

/-- The text of a half, which has to stand there itself. -/
def KeyPart.text (k : KeyPart) : Checked String :=
  if k.direct then Validation.text (.scalar k.scalar)
  else referenceFault (Validation.Exhibit.ofValue (.scalar k.scalar)).literal

/-- A parameter as it is written: its name, its location and its members. -/
structure RawParameter where
  name : KeyPart
  location : KeyPart
  members : List (Scalar × Node)

/-- Whether two parameters are one and the same: equal names in equal locations. -/
def RawParameter.same (p q : RawParameter) : Bool :=
  p.name.scalar.same q.name.scalar && p.location.scalar.same q.location.scalar

/-- Adds a parameter.  One that is there already keeps its place and its name, and gets the
members of the new one. -/
def addParameter : List RawParameter → RawParameter → List RawParameter
  | [], p => [p]
  | q :: qs, p =>
    if q.same p then { q with members := p.members } :: qs else q :: addParameter qs p

/-- Reads a parameter as it is written. -/
def rawParameter (n : Node) : Reading RawParameter := do
  let ms ← membersFor "get" n
  let name := find? ms "name"
  let location := find? ms "in"
  return ⟨← KeyPart.ofNode name, ← KeyPart.ofNode location, ms⟩

/-- Adds parameters one after the other. -/
def addParameters (acc : List RawParameter) : List Node → Reading (List RawParameter)
  | [] => return acc
  | n :: ns => do addParameters (addParameter acc (← rawParameter n)) ns

/-- The members that say the type of a parameter where it has no schema. -/
def typeMembers : List String := ["type", "format", "items", "enum"]

/-- The schema of a parameter, given as one or by its own members. -/
def parameterSchema (ms : List (Scalar × Node)) : Value :=
  match present? (find? ms "schema") with
  | some n => n.value.trimReferences
  | none =>
    .object 0 (typeMembers.filterMap fun key =>
      (find? ms key).map fun n => (.text key, n.value.trimReferences))

/-- A parameter whose fields are checked together. -/
def RawParameter.checked (p : RawParameter) (required : Bool)
    (description : Checked (Option String)) : Checked Parameter :=
  (fun name location description schema => { name, location, required, description, schema })
    <$> Checked.within (.key "name") p.name.text
    <*> Checked.within (.key "location") p.location.text
    <*> Checked.within (.key "description") description
    <*> Checked.within (.key "schema_") (Validation.table (parameterSchema p.members))

/-- Reads a parameter that is neither a body nor a form field. -/
def readParameter (p : RawParameter) : Reading Parameter := do
  let required ← isGivenOr (p.location.scalar.isText "path") (find? p.members "required")
  let description ← optionalText (find? p.members "description")
  finished "OperationParameter" (p.checked required description)

/-- Reads merged parameters: the parameters proper, and the schema of the last body among
them.  Form fields are left out. -/
def readMerged (body : Value) : List RawParameter → Reading (List Parameter × Value)
  | [] => return ([], body)
  | p :: ps => do
    if p.location.scalar.isText "body" then
      let schema := match find? p.members "schema" with
        | some n => n.value.trimReferences
        | none => .object 0 []
      readMerged schema ps
    else if p.location.scalar.isText "formData" then readMerged body ps
    else
      let parameter ← readParameter p
      let (rest, body') ← readMerged body ps
      return (parameter :: rest, body')

/-- The parameters of an operation and its body: those of its path first, those of the
operation itself in their place. -/
def readParameters (pathLevel operationLevel : Option Node) :
    Reading (List Parameter × Value) := do
  let fromPath ← partsOfOptional pathLevel
  let own ← partsOfOptional operationLevel
  let merged ← addParameters [] (fromPath ++ own)
  readMerged .null merged

/-! ## Operations -/

/-- The schema of a body that an operation itself gives, in place of the one among its
parameters. -/
def bodySchema (fromParameters : Value) (body : Option Node) : Reading Value := do
  match body with
  | none => return fromParameters
  | some n =>
    if !(← isGiven n) then return fromParameters
    match ← contentSchema (find? (← membersFor "get" n) "content") with
    | some s => return s.value.trimReferences
    | none => return .null

/-- The fields of an operation that are texts, each of them checked. -/
structure OperationTexts where
  operationId : Checked (Option String)
  summary : Checked (Option String)
  description : Checked (Option String)
  tags : List (Checked String)

/-- An operation whose fields are checked together. -/
def OperationTexts.checked (texts : OperationTexts) (verb : Verb) (path : Scalar)
    (parameters : List Parameter) (deprecated : Bool) (body : Value) (response : Option Value) :
    Checked Operation :=
  (fun path operationId summary description tags requestBody response =>
      { verb, path, operationId, summary, description, deprecated, tags, parameters,
        requestBody, response })
    <$> Checked.within (.key "path") (Validation.text (.scalar path))
    <*> Checked.within (.key "operation_id") texts.operationId
    <*> Checked.within (.key "summary") texts.summary
    <*> Checked.within (.key "description") texts.description
    <*> Checked.within (.key "tags") (numbered 0 texts.tags)
    <*> Checked.within (.key "request_body") (Validation.optional Validation.table body)
    <*> Checked.within (.key "response")
      (Validation.optional Validation.table (response.getD .null))

/-- Reads one operation of a path. -/
def readOperation (verb : Verb) (path : Scalar) (pathLevel : Option Node) (spec : Node) :
    Reading Operation := do
  let ms ← membersFor "get" spec
  let (parameters, bodyParameter) ← readParameters pathLevel (find? ms "parameters")
  let body ← bodySchema bodyParameter (find? ms "requestBody")
  let deprecated ← isGivenOr false (find? ms "deprecated")
  let tagNodes ← partsOfOptional (find? ms "tags")
  let response ← responseSchema (find? ms "responses")
  let operationId ← optionalText (find? ms "operationId")
  let summary ← optionalText (find? ms "summary")
  let description ← optionalText (find? ms "description")
  let tags ← tagNodes.mapM text
  let texts : OperationTexts := { operationId, summary, description, tags }
  finished "Operation" (texts.checked verb path parameters deprecated body response)

/-- Reads the operations of a path, given all its members. -/
def readPathItem (path : Scalar) (pathLevel : Option Node) :
    List (Scalar × Node) → Reading (List Operation)
  | [] => return []
  | (key, spec) :: ms => do
    match key with
    | .text name =>
      match Verb.ofName? name with
      | some verb => do
        let operation ← readOperation verb path pathLevel spec
        return operation :: (← readPathItem path pathLevel ms)
      | none => readPathItem path pathLevel ms
    | _ => readPathItem path pathLevel ms

/-- Reads the operations of all paths. -/
def readPaths : List (Scalar × Node) → Reading (List Operation)
  | [] => return []
  | (path, item) :: paths => do
    let ms ← membersFor "get" item
    let operations ← readPathItem path (find? ms "parameters") ms
    return operations ++ (← readPaths paths)

/-- Reads the operations of a document. -/
def readOperations : Reading (List Operation) := do
  let root := (← get).rootNode 0
  match find? (← membersFor "get" root) "paths" with
  | some n => readPaths (← membersFor "items" n)
  | none => return []

/-! ## Named schemas and the head of a document -/

/-- The members of a value that has to be an object. -/
def objectMembers (v : Value) : Except Fault Members :=
  match v with
  | .object _ ms => .ok ms
  | v => .error (.misused (.noMember v.fullKind "get"))

/-- The table of named schemas as it is written, in the place of either generation; an empty
one if there is none. -/
def rawSchemas (raw : Value) : Except Fault Value := do
  let components ← match raw.member? "components" with
    | none => pure []
    | some v => objectMembers v
  let given (v : Option Value) : Option Value := v.filter (·.isGiven)
  let written := (given (Members.getText? components "schemas")).or
    (given (raw.member? "definitions"))
  return written.getD (.object 0 [])

/-- A pair of a table that is given as pairs; it is the one at `position`. -/
def schemaPair (position : Nat) (v : Value) : Except Fault (Scalar × Value) :=
  match v.parts? with
  | none => .error (.misused (.notPair position))
  | some [.scalar k, w] => .ok (k, w)
  | some [k, _] => .error (.misused (.unhashable k.fullKind))
  | some vs => .error (.badPair position vs.length)

/-- The members of a table of schemas, which may be given as pairs. -/
def tableMembers (v : Value) : Except Fault Members :=
  match v with
  | .object _ ms => .ok ms
  | v =>
    match v.parts? with
    | some vs => do return Members.ofList (← vs.zipIdx.mapM fun (w, i) => schemaPair i w)
    | none => .error (.misused (.notIterable v.fullKind))

/-- A value as a text, if it can be written out. -/
def displayed (v : Value) : Except Fault String :=
  if v.isWritable then .ok v.display else .error .longInteger

/-- The version of the format that a document is written in. -/
def formatVersion (raw : Value) : Except Fault String :=
  match ["openapi", "swagger"].findSome? fun key => (raw.member? key).filter (·.isGiven) with
  | some v => displayed v
  | none => .ok "3.0.0"

/-- The head of a document; it may be left out. -/
def readInfo (raw : Value) : Except Fault Members :=
  match (raw.member? "info").filter (·.isGiven) with
  | none => .ok []
  | some v => objectMembers v

/-- Reads a document with the given operations. -/
def readHead (raw : Value) (operations : List Operation) : Except Fault Document := do
  let written ← rawSchemas raw
  let openApiVersion ← formatVersion raw
  let info ← readInfo raw
  let version ← match Members.getText? info "version" with
    | some v => displayed v
    | none => pure ""
  let table ← tableMembers written
  let description := (Members.getText? info "description").getD .null
  check "Document" (
    (fun title description schemas =>
        { openApiVersion, title, version, description, operations, schemas := schemas.1,
          distinct := schemas.2 })
      <$> Checked.within (.key "title")
        (Validation.text ((Members.getText? info "title").getD (.text "")))
      <*> Checked.within (.key "description") (Validation.optional Validation.text description)
      <*> Checked.within (.key "schemas") (Validation.distinctEntries Validation.table table))

/-! ## Numbers -/

/-- New numbers for a schema that may be absent. -/
def renumberOptional (next : Nat) : Option Value → Option Value × Nat
  | none => (none, next)
  | some v =>
    let (v', next') := v.renumber next
    (some v', next')

/-- New numbers for the schemas of parameters. -/
def renumberParameters (next : Nat) : List Parameter → List Parameter × Nat
  | [] => ([], next)
  | p :: ps =>
    let (schema, next') := p.schema.renumber next
    let (ps', next'') := renumberParameters next' ps
    ({ p with schema := schema } :: ps', next'')

/-- New numbers for the schemas of operations. -/
def renumberOperations (next : Nat) : List Operation → List Operation × Nat
  | [] => ([], next)
  | o :: os =>
    let (parameters, next) := renumberParameters next o.parameters
    let (body, next) := renumberOptional next o.requestBody
    let (response, next) := renumberOptional next o.response
    let (os', next') := renumberOperations next os
    ({ o with parameters := parameters, requestBody := body, response := response } :: os', next')

/-- New numbers for named schemas.  Only the schemas themselves are copies; what stands
inside them keeps its numbers. -/
def renumberSchemas (next : Nat) : List (String × Value) → List (String × Value)
  | [] => []
  | (name, .object _ ms) :: rest => (name, .object next ms) :: renumberSchemas (next + 1) rest
  | s :: rest => s :: renumberSchemas next rest

/-- New numbers leave the names as they are. -/
theorem renumberSchemas_names (next : Nat) (schemas : List (String × Value)) :
    (renumberSchemas next schemas).map (·.1) = schemas.map (·.1) := by
  induction schemas generalizing next with
  | nil => rfl
  | cons s rest ih =>
    obtain ⟨name, v⟩ := s
    cases v <;> simp only [renumberSchemas, List.map_cons, ih]

/-! ## Documents -/

/-- Reads the parts of a document in which paths are an object. -/
def readParts (files : Source.Files) (raw : Value) : Except Fault Document := do
  if raw.holdsLoop || raw.isTooDeep then throw .endless
  let (operations, _) ← readOperations.run (Library.ofValue files raw.spreadBytes)
  let d ← readHead raw operations
  let (operations, next) := renumberOperations raw.nextNumber d.operations
  return { d with
    operations := operations, schemas := renumberSchemas next d.schemas
    distinct := by rw [renumberSchemas_names]; exact d.distinct }

/-- Reads a document, which can refer to files. -/
def read (files : Source.Files) (raw : Value) : Except Fault Document := do
  match raw with
  | .object _ ms =>
    match Members.getText? ms "paths" with
    | none => throw .noPaths
    | some (.object _ _) => readParts files raw
    | some _ => throw .pathsNotObject
  | _ => throw .notObject

end OpenApiClient.Document
