/-
Going through a value.

Some places of a document are gone through part by part without a look at what kind of
value stands there: a text then has its characters as parts, and an object its keys.  An
object can also be given as a list of pairs.  What cannot be gone through, or has a pair
that is none, is a `ShapeFault`.
-/

import OpenApiClient.Value.Key
import OpenApiClient.Value.Display

set_option autoImplicit false

namespace OpenApiClient

/-- Why a value cannot be used in the way that its place asks for. -/
inductive ShapeFault where
  /-- The operation is not defined for this kind of value. -/
  | wrongKind
  /-- Only an object has members. -/
  | noMembers
  /-- An object lacks a member that has to be there. -/
  | noSuchKey
  /-- The pair at this position has not exactly two parts. -/
  | wrongLength (position length : Nat)
  deriving DecidableEq, Repr

/-- What a fault says, where the program says it. -/
def ShapeFault.message : ShapeFault → String
  | .wrongKind => "the value has the wrong kind"
  | .noMembers => "the value has no members"
  | .noSuchKey => "the value lacks a member"
  | .wrongLength position length =>
    s!"dictionary update sequence element #{position} has length {length}; 2 is required"

namespace Value

/-- The parts of a value that has parts. -/
def parts? : Value → Option (List Value)
  | .list items => some items
  | .object _ ms => some (ms.map fun m => .scalar m.1)
  | .set ms => some (ms.map .scalar)
  | .scalar (.text s) => some (s.toList.map fun c => .text (.singleton c))
  | .scalar (.bytes data) => some (data.map fun b => .int b.toNat)
  | .scalar _ => none
  | .pair k v => some [k, v]
  | .again _ => none

theorem exists_scalar_of_mem_map {α : Type} {f : α → Scalar} {xs : List α} {w : Value}
    (h : w ∈ xs.map fun x => .scalar (f x)) : ∃ s, w = .scalar s := by
  obtain ⟨x, -, rfl⟩ := List.mem_map.1 h
  exact ⟨f x, rfl⟩

/-- The parts of a value are the items of a list, the two halves of a pair, or scalars. -/
theorem parts?_cases {v : Value} {vs : List Value} (h : v.parts? = some vs) :
    v = .list vs ∨ (∃ k w, v = .pair k w ∧ vs = [k, w])
      ∨ (∀ items, v ≠ .list items) ∧ (∀ k w, v ≠ .pair k w)
        ∧ ∀ w ∈ vs, ∃ s, w = .scalar s := by
  cases v with
  | list items =>
    cases h
    exact .inl rfl
  | pair k w =>
    cases h
    exact .inr (.inl ⟨k, w, rfl, rfl⟩)
  | object k ms =>
    cases h
    exact .inr (.inr ⟨nofun, nofun, fun _ => exists_scalar_of_mem_map⟩)
  | set ms =>
    cases h
    exact .inr (.inr ⟨nofun, nofun, fun _ => exists_scalar_of_mem_map (f := id)⟩)
  | again k => cases h
  | scalar s =>
    cases s with
    | text s =>
      cases h
      exact .inr (.inr ⟨nofun, nofun, fun _ => exists_scalar_of_mem_map⟩)
    | bytes data =>
      cases h
      exact .inr (.inr ⟨nofun, nofun, fun _ => exists_scalar_of_mem_map⟩)
    | _ => cases h

/-- The parts of a value; one that has none is at fault. -/
def parts (v : Value) : Except ShapeFault (List Value) :=
  match v.parts? with
  | some vs => .ok vs
  | none => .error .wrongKind

/-- The scalar that a value is; only scalars can be keys. -/
def asKey : Value → Except ShapeFault Scalar
  | .scalar s => .ok s
  | _ => .error .wrongKind

/-- A value with exactly two parts, as a key and a value; it is the pair at `position`. -/
def asPair (position : Nat) (v : Value) : Except ShapeFault (Scalar × Value) := do
  match ← v.parts with
  | [k, w] => return (← k.asKey, w)
  | vs => throw (.wrongLength position vs.length)

/-- Several values as pairs, the first of them at `position`. -/
def asPairs (position : Nat) : List Value → Except ShapeFault (List (Scalar × Value))
  | [] => .ok []
  | v :: vs => do return (← asPair position v) :: (← asPairs (position + 1) vs)

/-- The members of an object, which may be given as a sequence of pairs. -/
def asMembers (v : Value) : Except ShapeFault Members := do
  match v with
  | .object _ ms => return ms
  | _ => return Members.ofList (← asPairs 0 (← v.parts))

/-- The members of an object that may be left out. -/
def membersOrNone (v : Option Value) : Except ShapeFault Members :=
  match v with
  | none => .ok []
  | some v => if v.isGiven then v.asMembers else .ok []

end Value

end OpenApiClient
