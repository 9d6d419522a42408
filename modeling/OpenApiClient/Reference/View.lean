/-
A document seen through its references.

An object with a textual member `$ref` is a reference, and the document is read as if its
target stood in its place.  References are followed only where something is looked at, so
a broken one does no harm elsewhere.  A `Node` is a value together with its place in the
document: the place tells a reference that points at itself from an equal one.

A reference can lead into another document.  The documents that have been read so far are
kept in a `Library`: an address in it is never asked for again, and since one document has
several addresses, what has been read before can decide whether a reference can be followed.
So following a reference is a computation with a state, `Following`.

A chain of references that comes back to where it started has no end, and neither has one
that is longer than `View.maxChain`.
-/

import OpenApiClient.Reference.Fault
import OpenApiClient.Value.Parts

set_option autoImplicit false

namespace OpenApiClient

/-! ## Values as references see them -/

namespace Value

/-- The text of a reference, if a value is one. -/
def reference? (v : Value) : Option String := (v.member? "$ref").bind text?

mutual

/-- The value with bytes as lists of numbers, and entries as lists of two. -/
def spreadBytes : Value → Value
  | .scalar (.bytes data) => .list (data.map fun b => .int b.toNat)
  | .scalar s => .scalar s
  | .list items => .list (spreadItems items)
  | .object n ms => .object n (spreadMembers ms)
  | .set ms => .set ms
  | .pair k v => .list [spreadBytes k, spreadBytes v]
  | .again n => .again n

/-- The items of a list, each with bytes as lists of numbers. -/
def spreadItems : List Value → List Value
  | [] => []
  | v :: vs => spreadBytes v :: spreadItems vs

/-- The members of an object, each with bytes as lists of numbers. -/
def spreadMembers : List (Scalar × Value) → List (Scalar × Value)
  | [] => []
  | (k, v) :: ms => (k, spreadBytes v) :: spreadMembers ms

end

mutual

/-- The value with every reference cut down to its one member; what else stood in a
reference is dropped. -/
def trimReferences : Value → Value
  | .object n ms =>
    match reference? (.object n ms) with
    | some ref => .object n [(.text "$ref", .text ref)]
    | none => .object n (trimMembers ms)
  | .list items => .list (trimItems items)
  | v => v

/-- The items of a list with every reference cut down. -/
def trimItems : List Value → List Value
  | [] => []
  | v :: vs => trimReferences v :: trimItems vs

/-- The members of an object with every reference cut down. -/
def trimMembers : List (Scalar × Value) → List (Scalar × Value)
  | [] => []
  | (k, v) :: ms => (k, trimReferences v) :: trimMembers ms

end

mutual

/-- Whether an alias inside the node that it names stands in a value. -/
def holdsLoop : Value → Bool
  | .again _ => true
  | .list items => itemsHoldLoop items
  | .object _ ms => membersHoldLoop ms
  | .pair k v => holdsLoop k || holdsLoop v
  | _ => false

/-- Whether such an alias stands in one of the items. -/
def itemsHoldLoop : List Value → Bool
  | [] => false
  | v :: vs => holdsLoop v || itemsHoldLoop vs

/-- Whether such an alias stands in one of the members. -/
def membersHoldLoop : List (Scalar × Value) → Bool
  | [] => false
  | (_, v) :: ms => holdsLoop v || membersHoldLoop ms

end

end Value

namespace Reference

/-! ## Nodes -/

/-- A value and its place: the number of its document in the library, and the positions from
the value up to the root. -/
structure Node where
  document : Nat
  place : List Nat
  value : Value
  deriving Inhabited

namespace Node

/-- Whether two nodes are at one place. -/
def isAt (n m : Node) : Bool := n.document = m.document && n.place = m.place

/-- The part of a node at a position. -/
def child (n : Node) (i : Nat) (v : Value) : Node := ⟨n.document, i :: n.place, v⟩

/-- The items of some values, as parts of a node. -/
def children (n : Node) (vs : List Value) : List Node :=
  (vs.zip (List.range vs.length)).map fun (v, i) => n.child i v

/-- Whether a node is a reference. -/
def isReference (n : Node) : Bool := n.value.reference?.isSome

/-- A part of a list by its position; a negative one counts from the end. -/
def nth? (n : Node) (vs : List Value) (step : String) : Option Node :=
  match Text.readInt 10 step.toList with
  | .error _ => none
  | .ok i =>
    let j := if i < 0 then i + vs.length else i
    if j < 0 then none else (vs[j.toNat]?).map (n.child j.toNat)

/-- The part of a node that one step of a pointer leads to: a member of an object, an item
of a list, or a character of a text. -/
def step? (n : Node) (step : String) : Option Node :=
  match n.value with
  | .object _ ms =>
    ms.findIdx? (fun m => m.1.isText step) |>.bind fun i =>
      (ms[i]?).map fun m => n.child i m.2
  | .list items => n.nth? items step
  | .scalar (.text s) => n.nth? (s.toList.map fun c => .text (.singleton c)) step
  | _ => none

end Node

/-! ## Libraries -/

/-- A document that has been read: the address that references in it are relative to, the
form that its addresses have in common, and its value. -/
structure Shelved where
  base : List Char
  address : List Char
  root : Value

/-- The documents that have been read so far, and the files that others can be read from. -/
structure Library where
  files : Source.Files
  documents : List Shelved

/-- The library that holds one document, to which the empty address leads. -/
def Library.ofValue (files : Source.Files) (v : Value) : Library := ⟨files, [Shelved.mk [] [] v]⟩

/-- The root of a document. -/
def Library.rootNode (l : Library) (document : Nat) : Node :=
  ⟨document, [], ((l.documents[document]?).map (·.root)).getD .null⟩

/-- A computation that follows references. -/
abbrev Following := StateT Library (Except Fault)

/-- The number of the document at an address; if it has not been read yet, it is read. -/
def documentAt (ref : String) (address : List Char) : Following Nat := do
  let l ← get
  let normal ← liftExcept ((Address.normal address).mapError .address)
  match l.documents.findIdx? fun d => d.address = normal with
  | some i => return i
  | none =>
    let v ← liftExcept ((retrieve l.files address).mapError (.unavailable ref))
    set { l with documents := l.documents ++ [Shelved.mk address normal v] }
    return l.documents.length
where
  /-- A result that does not touch the library. -/
  liftExcept {α : Type} (r : Except Fault α) : Following α := StateT.lift r

/-! ## Following references -/

namespace View

/-- What a reference in a document says: the whole address that it means, the address of the
document, and the pointer into it. -/
def target (base : List Char) (ref : String) :
    Except AddressFault (List Char × List Char × List Char) := do
  let full ← Address.join base ref.toList
  let (address, pointer) ← Address.splitFragment full
  return (full, address, pointer)

/-- Goes the steps of a pointer, seen from the reference `self`.  A reference on the way is
followed by `settle`, but a reference that meets itself is taken as it is written. -/
def walk (settle : Node → Following Node) (self : Node) (dangling : Fault) :
    Node → List String → Following Node
  | n, [] => return n
  | n, step :: steps => do
    let here ← if n.isAt self then pure n else settle n
    match here.step? step with
    | some next => walk settle self dangling next steps
    | none => throw dangling

/-- How many references can stand in a chain. -/
def maxChain : Nat := 480

/-- What stands in the place of a node, if chains of references may be `fuel` long. -/
def settleWith : Nat → Node → Following Node
  | 0, n => if n.isReference then throw .endless else return n
  | fuel + 1, n => do
    match n.value.reference? with
    | none => return n
    | some ref =>
      let base := (((← get).documents[n.document]?).map (·.base)).getD []
      match target base ref with
      | .error f => throw (.address f)
      | .ok (full, address, pointer) =>
        let full := String.ofList full
        let document ← documentAt full address
        let dangling := Fault.dangling full (.ofList pointer)
        let root := (← get).rootNode document
        let found ← walk (settleWith fuel) n dangling root (pointerSteps pointer)
        if found.isReference && found.isAt n then throw (.toItself full)
        settleWith fuel found

/-- What stands in the place of a node. -/
def settle (n : Node) : Following Node := settleWith maxChain n

end View

end Reference

end OpenApiClient
