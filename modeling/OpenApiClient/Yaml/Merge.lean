/-
Merge keys.

A mapping can take over the pairs of other mappings with a merge key: they come before its
own pairs, so its own values win and a taken-over key keeps its first place.  Of several
mappings in a list the first wins, which is why their pairs are put down in reverse.

`Node.merged` carries all of this out, so that what comes after it meets no merge key in a
mapping.  A mapping that is to take over pairs from something else becomes a node that says
so, because the fault counts only when the turn of that mapping comes.  The items of a list
of pairs are no mappings of their own, and keep what is written in them.
-/

import OpenApiClient.Yaml.Node

set_option autoImplicit false

namespace OpenApiClient.Yaml.Node

/-- A fault of a mapping that begins at `m`: only mappings of one kind can be merged into
it, and `found` is something else. -/
def notMergeable {α : Type} (m : Mark) (wanted : String) (found : Node) : Except Fault α :=
  failDuring .mapping m (.expectedNode (wanted ++ " for merging") found.kind) found.mark

/-- What a mapping takes over from a mapping around it, of which it is a part: its own
pairs are there anyway, and every other one leads back into it. -/
def loop (number around : Nat) (m : Mark) : List (Node × Node) :=
  if number = around then [] else [(.scalar m .null "", .again around m false)]

/-- A key of a mapping, where the sign of a value proper is a text. -/
def asKey (k : Node) : Node := if k.tag? = some .value then k.withTag .text else k

mutual

/-- A node in which every mapping has taken over what it is to take over. -/
def merged : Node → Node
  | .mapping number m tag pairs =>
    if tag.takesOver then
      match takenAndOwn number m pairs with
      | .ok (taken, own) => .mapping number m tag (taken ++ own)
      | .error f => .unmergeable number m tag f
    else .mapping number m tag pairs
  | .sequence number m tag items =>
    .sequence number m tag (if tag.isPairList then mergedEntries items else mergedItems items)
  | n => n

/-- Items, each merged. -/
def mergedItems : List Node → List Node
  | [] => []
  | n :: ns => merged n :: mergedItems ns

/-- Items that are single pairs: what is in them is merged, they are not. -/
def mergedEntries : List Node → List Node
  | [] => []
  | n :: ns => mergedEntry n :: mergedEntries ns

/-- An item that is a single pair. -/
def mergedEntry : Node → Node
  | .mapping number m tag [(k, v)] => .mapping number m tag [(k, merged v)]
  | n => n

/-- The pairs that the mapping with a number that begins at `m` takes over, and its own. -/
def takenAndOwn (number : Nat) (m : Mark) : List (Node × Node) →
    Except Fault (List (Node × Node) × List (Node × Node))
  | [] => .ok ([], [])
  | (k, v) :: ps => do
    if k.tag? = some .merge then
      let first ← takenFrom number m v
      let (taken, own) ← takenAndOwn number m ps
      return (first ++ taken, own)
    else
      let (taken, own) ← takenAndOwn number m ps
      return (taken, (asKey k, merged v) :: own)

/-- The pairs that a mapping takes over from a node: from one mapping, or from several. -/
def takenFrom (number : Nat) (m : Mark) : Node → Except Fault (List (Node × Node))
  | .mapping n place _ pairs => do
    let (taken, own) ← takenAndOwn n place pairs
    return taken ++ own
  | .sequence _ _ _ items => takenFromItems number m items
  | .again n place _ => .ok (loop number n place)
  | n => notMergeable m "a mapping or list of mappings" n

/-- The pairs that a mapping takes over from several nodes, those of the last first. -/
def takenFromItems (number : Nat) (m : Mark) : List Node →
    Except Fault (List (Node × Node))
  | [] => .ok []
  | n :: ns => do
    let first ← takenFromItem number m n
    let others ← takenFromItems number m ns
    return others ++ first

/-- The pairs that a mapping takes over from one of several nodes. -/
def takenFromItem (number : Nat) (m : Mark) : Node → Except Fault (List (Node × Node))
  | .mapping n place _ pairs => do
    let (taken, own) ← takenAndOwn n place pairs
    return taken ++ own
  | .again n place false => .ok (loop number n place)
  | n => notMergeable m "a mapping" n

end

end OpenApiClient.Yaml.Node
