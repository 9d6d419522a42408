/-
The first fault of a node.

A node is looked at in rounds.  A scalar is looked at where it stands, and so is a node
whose tag nobody knows.  A collection waits for the next round, and then its own kind and
whatever it holds are looked at in the order in which they are written; the collections
that it holds wait for the round after that.  So a fault near the root comes before a fault
deep inside that is written first.

`later` lists the faults of every round to come.  Since the collections of one round stand
in the order in which they were met, the rounds of two neighbours are put side by side.
-/

import OpenApiClient.Yaml.Merge
import OpenApiClient.Yaml.Scalar

set_option autoImplicit false

namespace OpenApiClient.Yaml

/-! ## What a tag asks of a node -/

/-- The kind of node that a tag needs, as a message says it; none, if no value is known for
the tag. -/
def Tag.wanted? : Tag → Option String
  | .null | .bool | .int | .float | .binary | .timestamp | .text => some "a scalar node"
  | .list => some "a sequence node"
  | .map | .set => some "a mapping node"
  | .orderedMap | .pairs => some "a sequence"
  | .merge | .value | .other _ => none

/-- What is being read where a list of pairs is. -/
def Tag.activity : Tag → Activity
  | .orderedMap => .orderedMap
  | _ => .pairs

/-- Stops because a node does not fit its tag. -/
def wrongNode {α : Type} (tag : Tag) (n : Node) : Except Fault α :=
  match tag.wanted? with
  | none => failAt (.unknownTag tag.name) n.mark
  | some wanted =>
    if tag.isPairList then
      failDuring tag.activity n.mark (.expectedNode wanted n.kind) n.mark
    else failAt (.expectedNode wanted n.kind) n.mark

/-! ## Scalars -/

/-- The text of a node where a scalar has to stand: a mapping can name one as its value. -/
def scalarText (tag : Tag) : Node → Except Fault String
  | .scalar _ _ text => .ok text
  | .mapping number m own pairs => valueText (.mapping number m own pairs) pairs
  | n => wrongNode tag n
where
  /-- The text of the value proper among some pairs of a mapping. -/
  valueText (whole : Node) : List (Node × Node) → Except Fault String
    | [] => wrongNode tag whole
    | (k, v) :: ps => if k.tag? = some .value then scalarText tag v else valueText whole ps

/-- The value of a node whose tag is one of scalars. -/
def scalarValue (tag : Tag) (n : Node) : Except Fault Value := do
  if tag.wanted?.isNone then wrongNode tag n else
  let text ← scalarText tag n
  match n, tag with
  | .mapping _ _ _ _, .timestamp => throw (.value .timestampInside)
  | _, _ =>
    match scalarOf n.mark tag text with
    | some s => .scalar <$> s
    | none => wrongNode tag n

/-! ## Rounds -/

/-- The fault of something that has to be fine. -/
def faultOf {α : Type} : Except Fault α → List Fault
  | .ok _ => []
  | .error f => [f]

/-- The fault of a node that is looked at where it stands. -/
def atOnce (n : Node) : List Fault :=
  match n.tag? with
  | some tag => if tag.isCollection then [] else faultOf (scalarValue tag n)
  | none => []

/-- The faults of some rounds of one node, and of the same rounds of a node after it. -/
def sideBySide : List (List Fault) → List (List Fault) → List (List Fault)
  | [], bs => bs
  | as, [] => as
  | a :: as, b :: bs => (a ++ b) :: sideBySide as bs

/-- The faults of a pair of a mapping that begins at `m`, before anything in it has its turn.
A collection is no key. -/
def pairFaults (m : Mark) (k v : Node) : List Fault :=
  atOnce k ++
    (if k.waits then faultOf (failDuring (α := Unit) .mapping m .keyNotScalar k.mark) else [])
    ++ atOnce v

/-- The faults of an item that has to be a single pair, before anything in it has its
turn. -/
def entryFaults (activity : Activity) (m : Mark) (n : Node) : List Fault :=
  match n with
  | .mapping _ _ _ [(k, v)] => atOnce k ++ atOnce v
  | .mapping _ place _ pairs =>
    faultOf (failDuring (α := Unit) activity m (.severalItems pairs.length) place)
  | n =>
    faultOf
      (failDuring (α := Unit) activity m (.expectedNode "a mapping of length 1" n.kind) n.mark)

mutual

/-- The faults of a node in every round from its turn on. -/
def later (n : Node) : List (List Fault) :=
  match n with
  | .again _ _ _ => []
  | .unmergeable _ _ _ f => [[f]]
  | .scalar m tag text =>
    if tag.isCollection then [faultOf (wrongNode (α := Unit) tag (.scalar m tag text))] else []
  | .sequence number m tag items =>
    match tag with
    | .list => items.flatMap atOnce :: laterItems items
    | .orderedMap => items.flatMap (entryFaults .orderedMap m) :: laterEntries items
    | .pairs => items.flatMap (entryFaults .pairs m) :: laterEntries items
    | tag =>
      if tag.isCollection then
        [faultOf (wrongNode (α := Unit) tag (.sequence number m tag items))]
      else []
  | .mapping number m tag pairs =>
    if tag.takesOver then (pairs.flatMap fun p => pairFaults m p.1 p.2) :: laterPairs pairs
    else if tag.isCollection then
      [faultOf (wrongNode (α := Unit) tag (.mapping number m tag pairs))]
    else []

/-- The faults of items, from their turns on. -/
def laterItems : List Node → List (List Fault)
  | [] => []
  | n :: ns => sideBySide (later n) (laterItems ns)

/-- The faults of what is in items that are single pairs, from their turns on. -/
def laterEntries : List Node → List (List Fault)
  | [] => []
  | n :: ns => sideBySide (laterEntry n) (laterEntries ns)

/-- The faults of what is in an item that is a single pair. -/
def laterEntry : Node → List (List Fault)
  | .mapping _ _ _ pairs => laterPairs pairs
  | _ => []

/-- The faults of keys and values, from their turns on. -/
def laterPairs : List (Node × Node) → List (List Fault)
  | [] => []
  | (k, v) :: ps => sideBySide (later k) (sideBySide (later v) (laterPairs ps))

end

/-- The first fault of a node, if it has one. -/
def Node.fault? (n : Node) : Option Fault := (atOnce n ++ (later n).flatten).head?

end OpenApiClient.Yaml
