/-
Looking at the places of a document.

A place is looked at through references, and what is asked of it decides which values fit:
only an object has members, most values have parts, and in several kinds of values something
can be looked for.  A value that does not fit ends the reading.

What a finished part of the document says in its fields is checked at once.  A field is taken
as it stands there: a reference is no text, even if it leads to one.
-/

import OpenApiClient.Document.Fault
import OpenApiClient.Reference.View

set_option autoImplicit false

namespace OpenApiClient.Document

open Reference (Node Library)
open Validation (Checked Exhibit)

/-- A part of reading a document, which may follow references. -/
abbrev Reading := StateT Library (Except Fault)

/-- Ends with a value that does not allow what is done with it. -/
def misused {α : Type} (m : Misuse) : Reading α := throw (.misused m)

/-! ## Looking at nodes -/

/-- The node that stands in the place of a node. -/
def settle (n : Node) : Reading Node := fun l =>
  ((Reference.View.settle n).run l).mapError Fault.ofReference

/-- The members of an object, as parts of a node. -/
def memberNodes (n : Node) (ms : Members) : List (Scalar × Node) :=
  (ms.map (·.1)).zip (n.children (ms.map (·.2)))

/-- The members of a node that has to be an object, because it is asked for `name`. -/
def membersFor (name : String) (n : Node) : Reading (List (Scalar × Node)) := do
  let n ← settle n
  match n.value with
  | .object _ ms => return memberNodes n ms
  | v => misused (.noMember v.fullKind name)

/-- The members of a node that may be left out. -/
def membersOfOptional (name : String) (n : Option Node) : Reading (List (Scalar × Node)) :=
  match n with
  | some n => membersFor name n
  | none => return []

/-- A member of some members. -/
def find? (ms : List (Scalar × Node)) (key : String) : Option Node :=
  (ms.find? fun m => m.1.isText key).map (·.2)

/-- The parts of a node that has parts. -/
def partsOf (n : Node) : Reading (List Node) := do
  let n ← settle n
  match n.value.parts? with
  | some vs => return n.children vs
  | none => misused (.notIterable n.value.fullKind)

/-- The parts of a node that may be left out. -/
def partsOfOptional (n : Option Node) : Reading (List Node) :=
  match n with
  | some n => partsOf n
  | none => return []

/-- Whether a node counts as given. -/
def isGiven (n : Node) : Reading Bool := do return (← settle n).value.isGiven

/-- Whether a node that may be left out counts as given. -/
def isGivenOr (default : Bool) (n : Option Node) : Reading Bool :=
  match n with
  | some n => isGiven n
  | none => return default

/-- A node, unless it is absent; a reference is never absent. -/
def present? (n : Option Node) : Option Node := n.filter fun n => !n.value.isNull

@[simp] theorem present?_none : present? none = none := rfl

theorem present?_some (n : Node) :
    present? (some n) = if n.value.isNull then none else some n := by
  rw [present?, Option.filter_some]
  cases n.value.isNull <;> rfl

/-- Whether a text stands among some nodes. -/
def holdsText (name : String) : List Node → Reading Bool
  | [] => return false
  | n :: ns => do
    if (← settle n).value.text? == some name then return true else holdsText name ns

/-- The part of a node with a name, after a look whether there is one.  In a list or in a text
something can be found, but it has no name there. -/
def partNamed? (n : Node) (name : String) : Reading (Option Node) := do
  let n ← settle n
  match n.value with
  | .object _ ms => return find? (memberNodes n ms) name
  | .list items =>
    if ← holdsText name (n.children items) then misused .listIndex else return none
  | .set ms =>
    if ms.any fun k => k.isText name then misused (.notIndexed n.value.fullKind) else return none
  | .scalar (.text s) =>
    if Text.occurs name.toList s.toList then misused .textIndex else return none
  | v => misused (.notContainer v.fullKind)

/-! ## What a report shows of a node -/

/-- The name of the kind of a reference. -/
def referenceKind : String := "JsonRef"

/-- A reference that stands where a text has to stand; `literal` is that of its target. -/
def referenceFault {α : Type} (literal : Option String) : Checked α :=
  .faults ⟨[], .notText, ⟨literal, referenceKind⟩⟩ []

/-- How deeply the values can be nested that a report shows. -/
def maxShownDepth : Nat := 200

/-- What is shown of several nodes, if all of them can be shown. -/
def eachShown (shown : Node → Reading (Option String)) : List Node → Reading (Option (List String))
  | [] => return some []
  | n :: ns => do
    match ← shown n with
    | none => return none
    | some s => return (← eachShown shown ns).map (s :: ·)

/-- The node that stands in the place of a node, if there is one. -/
def settled? (n : Node) : Reading (Option Node) := fun l =>
  match (settle n).run l with
  | .ok (m, l) => .ok (some m, l)
  | .error _ => .ok (none, l)

/-- The value of a node with the targets of references in their place, as far as all of them
can be followed; `around` are the nodes that it is a part of. -/
def literalOf : Nat → List Node → Node → Reading (Option String)
  | 0, _, _ => return none
  | fuel + 1, around, n => do
    match ← settled? n with
    | none => return none
    | some n =>
      let isAround := around.any n.isAt
      match n.value with
      | .object _ ms =>
        if isAround then return some "\x7b...\x7d"
        else
          let values ← eachShown (literalOf fuel (n :: around)) (n.children (ms.map (·.2)))
          return values.map fun vs => "\x7b" ++ ", ".intercalate
            ((ms.zip vs).map fun (m, v) => m.1.literal ++ ": " ++ v) ++ "\x7d"
      | .list items =>
        if isAround then return some "[...]"
        else
          let values ← eachShown (literalOf fuel (n :: around)) (n.children items)
          return values.map fun vs => "[" ++ ", ".intercalate vs ++ "]"
      | v => return (Exhibit.ofValue v).literal

/-- What a report shows of a node. -/
def exhibit (n : Node) : Reading Exhibit := do
  return ⟨← literalOf maxShownDepth [] n, if n.isReference then referenceKind else n.value.kind⟩

/-! ## Fields -/

/-- A text. -/
def text (n : Node) : Reading (Checked String) := do
  if n.isReference then return referenceFault (← literalOf maxShownDepth [] n)
  match Validation.text n.value with
  | .faults x xs =>
    let input ← exhibit n
    return .faults { x with input } xs
  | c => return c

/-- A text that may be absent. -/
def optionalText (n : Option Node) : Reading (Checked (Option String)) :=
  match n with
  | none => return .ok none
  | some n => if n.value.isNull then return .ok none else return some <$> (← text n)

/-- Several fields as one list, numbered from `i` on. -/
def numbered {α : Type} : Nat → List (Checked α) → Checked (List α)
  | _, [] => .ok []
  | i, c :: cs => List.cons <$> Checked.within (.index i) c <*> numbered (i + 1) cs

/-- The checked fields of a part of the document with a name. -/
def check {α : Type} (part : String) (c : Checked α) : Except Fault α :=
  match c with
  | .ok a => .ok a
  | .faults x xs => .error (.fields part x xs)
  | .stopped => .error (.misused (.notIterable ""))

/-- The checked fields of a part of the document, while it is read. -/
def finished {α : Type} (part : String) (c : Checked α) : Reading α := StateT.lift (check part c)

end OpenApiClient.Document
