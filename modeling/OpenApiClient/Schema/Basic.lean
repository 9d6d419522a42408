/-
What a schema says.

A schema is a value, and these are the questions that are asked of one: its type, its
format, whether it lists the values of an enumeration, and how many objects it holds.  In
the newer form `type` can be a list, in which `null` is no type.
-/

import OpenApiClient.Value.Parts

set_option autoImplicit false

namespace OpenApiClient.Value

/-- A member of a schema; none if it is not there. -/
def memberOrNull (v : Value) (key : String) : Value := (v.member? key).getD .null

/-- The type that a schema states: of a list, the first that is not `null`. -/
def schemaType (v : Value) : Value :=
  match v.memberOrNull "type" with
  | .list types => (types.find? fun t => t.text? != some "null").getD .null
  | t => t

/-- Whether a schema states the type with this name. -/
def hasType (v : Value) (name : String) : Bool := v.schemaType.text? == some name

/-- Whether a schema states no type. -/
def hasNoType (v : Value) : Bool := v.schemaType.isNull

/-- The format that a schema states, if it is a text. -/
def format? (v : Value) : Option String := (v.memberOrNull "format").text?

/-- Whether a schema lists values. -/
def listsValues (v : Value) : Bool := v.isObject && (v.memberOrNull "enum").isGiven

/-- Whether a schema is declared as an enumeration: it lists values, and they are texts or
integers by its type, or it has no type. -/
def isEnumSchema (v : Value) : Bool :=
  v.listsValues && (v.hasNoType || v.hasType "string" || v.hasType "integer")

/-- Whether a named schema is declared.  A list of numbers is not. -/
def isDeclared (v : Value) : Bool := !v.listsValues || v.isEnumSchema

mutual

/-- How many objects a value holds, itself included. -/
def countObjects : Value → Nat
  | .object _ ms => countObjectsInMembers ms + 1
  | .list items => countObjectsInItems items
  | .pair k v => countObjects k + countObjects v
  | _ => 0

/-- How many objects some items hold. -/
def countObjectsInItems : List Value → Nat
  | [] => 0
  | v :: vs => countObjects v + countObjectsInItems vs

/-- How many objects some members hold. -/
def countObjectsInMembers : List (Scalar × Value) → Nat
  | [] => 0
  | (_, v) :: ms => countObjects v + countObjectsInMembers ms

end

end OpenApiClient.Value
