/-
How deeply a value is nested.

A document is gone through part by part, and each part inside of another one takes its share
of a store that has an end.  So a document may be nested only so deeply, and a deeper one is
treated like one without an end.
-/

import OpenApiClient.Value.Basic

set_option autoImplicit false

namespace OpenApiClient.Value

/-! ## Depths -/

mutual

/-- How deeply a value is nested. -/
def depth : Value → Nat
  | .object _ ms => depthOfMembers ms + 1
  | .list items => depthOfItems items + 1
  | _ => 0

/-- How deeply the items of a list are nested. -/
def depthOfItems : List Value → Nat
  | [] => 0
  | v :: vs => max (depth v) (depthOfItems vs)

/-- How deeply the members of an object are nested. -/
def depthOfMembers : List (Scalar × Value) → Nat
  | [] => 0
  | (_, v) :: ms => max (depth v) (depthOfMembers ms)

end

/-- An item is nested no more deeply than the items together. -/
theorem depth_le_depthOfItems {v : Value} {items : List Value} (h : v ∈ items) :
    v.depth ≤ depthOfItems items := by
  induction items with
  | nil => simp at h
  | cons w ws ih =>
    rw [depthOfItems]
    rcases List.mem_cons.1 h with rfl | h
    · exact Nat.le_max_left _ _
    · exact Nat.le_trans (ih h) (Nat.le_max_right _ _)

/-- An item is nested less deeply than its list. -/
theorem depth_lt_of_mem {v : Value} {items : List Value} (h : v ∈ items) :
    v.depth < (Value.list items).depth := by
  rw [depth]
  exact Nat.lt_succ_of_le (depth_le_depthOfItems h)

/-- A member is nested no more deeply than the members together. -/
theorem depth_le_depthOfMembers {m : Scalar × Value} {ms : List (Scalar × Value)} (h : m ∈ ms) :
    m.2.depth ≤ depthOfMembers ms := by
  induction ms with
  | nil => simp at h
  | cons w ws ih =>
    rw [depthOfMembers]
    rcases List.mem_cons.1 h with rfl | h
    · exact Nat.le_max_left _ _
    · exact Nat.le_trans (ih h) (Nat.le_max_right _ _)

/-! ## The limit -/

/-- How deeply a document may be nested. -/
def maxDepth : Nat := 485

/-- Whether a value is nested too deeply to be gone through. -/
def isTooDeep (v : Value) : Bool := maxDepth < v.depth

end OpenApiClient.Value
