/-
Reading YAML text.

A text is cut into tokens, the tokens make nodes, and the nodes make values.  Only the last
step knows what tags mean.  Mappings first take over what they are to take over; then the
whole node is looked over for a fault, and a value is made only of a node without one.

The number of a mapping becomes the number of the object made from it, so an object that
is reached through an alias is the one that was anchored.
-/

import OpenApiClient.Value.Key
import OpenApiClient.Value.SetOrder
import OpenApiClient.Yaml.Composition
import OpenApiClient.Yaml.Rounds
import OpenApiClient.Yaml.Tokens

set_option autoImplicit false

namespace OpenApiClient.Yaml

/-! ## Values of nodes -/

/-- The scalar that a value is where only scalars stand. -/
def asScalar : Value → Scalar
  | .scalar s => s
  | _ => .null

/-- The value of a node whose tag is one of scalars, which has no fault. -/
def plainValue (tag : Tag) (n : Node) : Value := (scalarValue tag n).toOption.getD .null

mutual

/-- The value of a node without a fault. -/
def build : Node → Value
  | .again number _ _ => .again number
  | .unmergeable _ _ _ _ => .null
  | .scalar m tag text => plainValue tag (.scalar m tag text)
  | .sequence _ _ tag items =>
    .list (if tag.isPairList then buildEntries items else buildItems items)
  | .mapping number m tag pairs =>
    match tag with
    | .map => .object number (Members.ofList (buildPairs pairs))
    | .set => .set (SetOrder.arrange ((Members.ofList (buildPairs pairs)).map (·.1)))
    | tag => plainValue tag (.mapping number m tag pairs)

/-- The values of items. -/
def buildItems : List Node → List Value
  | [] => []
  | n :: ns => build n :: buildItems ns

/-- The values of items that are single pairs. -/
def buildEntries : List Node → List Value
  | [] => []
  | n :: ns => buildEntry n :: buildEntries ns

/-- The value of an item that is a single pair. -/
def buildEntry : Node → Value
  | .mapping _ _ _ [(k, v)] => .pair (build k) (build v)
  | _ => .null

/-- The members that pairs make. -/
def buildPairs : List (Node × Node) → Members
  | [] => []
  | (k, v) :: ps => (asScalar (build k), build v) :: buildPairs ps

end

/-- Reads a text.  It holds at most one document; without one it is the absent value. -/
def readText (text : List Char) : Except Fault Value := do
  match (text.zipIdx.find? fun c => !isAllowed c.1) with
  | some (c, position) => throw (.unprintable c position)
  | none =>
    match ← Node.ofTokens? (tokens text) with
    | none => return .null
    | some written =>
      let n := written.merged
      match n.fault? with
      | some f => throw f
      | none => return build n

end OpenApiClient.Yaml
