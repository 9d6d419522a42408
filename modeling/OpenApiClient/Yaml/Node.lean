/-
Nodes of a YAML document.

A node is a scalar, a sequence or a mapping, with its tag and the place where it begins.
Sequences and mappings carry numbers.  An alias to a finished node is that node, number and
all, so a value made from it is the same object; an alias inside the node that it names
stands as `again`.

The tag says how soon a node is looked at.  A scalar is looked at where it stands, and so
is a node whose tag nobody knows; a collection waits for its turn.
-/

import OpenApiClient.Yaml.Tag

set_option autoImplicit false

namespace OpenApiClient.Yaml

/-- A node. -/
inductive Node where
  | scalar (mark : Mark) (tag : Tag) (text : String)
  | sequence (number : Nat) (mark : Mark) (tag : Tag) (items : List Node)
  | mapping (number : Nat) (mark : Mark) (tag : Tag) (pairs : List (Node × Node))
  /-- An alias inside the node that it names, which begins at `mark`. -/
  | again (number : Nat) (mark : Mark) (isList : Bool)
  /-- A mapping that is to take over pairs from something that has none. -/
  | unmergeable (number : Nat) (mark : Mark) (tag : Tag) (fault : Fault)
  deriving Repr, Inhabited

namespace Node

/-- The place where a node begins. -/
def mark : Node → Mark
  | .scalar m _ _ => m
  | .sequence _ m _ _ => m
  | .mapping _ m _ _ => m
  | .again _ m _ => m
  | .unmergeable _ m _ _ => m

/-- The tag of a node, if it is known. -/
def tag? : Node → Option Tag
  | .scalar _ t _ => some t
  | .sequence _ _ t _ => some t
  | .mapping _ _ t _ => some t
  | .again _ _ _ => none
  | .unmergeable _ _ t _ => some t

/-- A node with another tag. -/
def withTag (tag : Tag) : Node → Node
  | .scalar m _ text => .scalar m tag text
  | .sequence n m _ items => .sequence n m tag items
  | .mapping n m _ pairs => .mapping n m tag pairs
  | .again n m isList => .again n m isList
  | .unmergeable n m _ f => .unmergeable n m tag f

/-- Whether a node waits for its turn. -/
def waits (n : Node) : Bool := (n.tag?.map Tag.isCollection).getD true

/-- The kind of a node as a message shows it. -/
def kind : Node → String
  | .scalar _ _ _ => "scalar"
  | .sequence _ _ _ _ => "sequence"
  | .mapping _ _ _ _ => "mapping"
  | .again _ _ isList => if isList then "sequence" else "mapping"
  | .unmergeable _ _ _ _ => "mapping"

end Node

end OpenApiClient.Yaml
