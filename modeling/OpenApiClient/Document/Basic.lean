/-
The part of an API document that client code is generated from.

A document is a list of operations and a table of named schemas.  Schemas stay values:
what a schema means is settled where types are made from it, and a schema may say anything
else besides.
-/

import OpenApiClient.Value.Basic

set_option autoImplicit false

namespace OpenApiClient

/-- The methods of HTTP that a document can describe. -/
inductive Verb where
  | get
  | put
  | post
  | delete
  | options
  | head
  | patch
  | trace
  deriving DecidableEq, Repr, Inhabited

/-- The name of a method in a document. -/
def Verb.name : Verb → String
  | .get => "get"
  | .put => "put"
  | .post => "post"
  | .delete => "delete"
  | .options => "options"
  | .head => "head"
  | .patch => "patch"
  | .trace => "trace"

/-- All methods, in the order in which the standard lists them. -/
def Verb.all : List Verb :=
  [.get, .put, .post, .delete, .options, .head, .patch, .trace]

/-- The method with a name. -/
def Verb.ofName? (name : String) : Option Verb := Verb.all.find? fun v => v.name == name

/-- A parameter of an operation. -/
structure Parameter where
  name : String
  location : String
  required : Bool := false
  description : Option String := none
  schema : Value
  deriving Repr, Inhabited

/-- One operation: a method on a path. -/
structure Operation where
  verb : Verb
  path : String
  operationId : Option String := none
  summary : Option String := none
  description : Option String := none
  deprecated : Bool := false
  tags : List String := []
  parameters : List Parameter := []
  requestBody : Option Value := none
  response : Option Value := none
  deriving Repr, Inhabited

/-- A document.  No two of its named schemas have the same name. -/
structure Document where
  openApiVersion : String := "3.0.0"
  title : String := ""
  version : String := ""
  description : Option String := none
  operations : List Operation := []
  schemas : List (String × Value) := []
  distinct : (schemas.map (·.1)).Nodup := by decide
  deriving Repr

instance : Inhabited Document := ⟨{}⟩

end OpenApiClient
