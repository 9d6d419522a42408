/-
Numbers of objects.

A copy of an object is another object.  `renumber` gives every object of a value a number
of its own, counted on from a given one, and `nextNumber` is a number that no object of a
value has.
-/

import OpenApiClient.Value.Basic

set_option autoImplicit false

namespace OpenApiClient.Value

mutual

/-- The value with new numbers for its objects, and the next number. -/
def renumber (next : Nat) : Value → Value × Nat
  | .object _ ms =>
    let (ms', next') := renumberMembers (next + 1) ms
    (.object next ms', next')
  | .list items =>
    let (items', next') := renumberItems next items
    (.list items', next')
  | .pair k v =>
    let (k', next') := renumber next k
    let (v', next'') := renumber next' v
    (.pair k' v', next'')
  | v => (v, next)

/-- The items of a list with new numbers. -/
def renumberItems (next : Nat) : List Value → List Value × Nat
  | [] => ([], next)
  | v :: vs =>
    let (v', next') := renumber next v
    let (vs', next'') := renumberItems next' vs
    (v' :: vs', next'')

/-- The members of an object with new numbers. -/
def renumberMembers (next : Nat) : List (Scalar × Value) → List (Scalar × Value) × Nat
  | [] => ([], next)
  | (k, v) :: ms =>
    let (v', next') := renumber next v
    let (ms', next'') := renumberMembers next' ms
    ((k, v') :: ms', next'')

end

mutual

/-- A number above those of all objects of a value. -/
def nextNumber : Value → Nat
  | .object n ms => max (n + 1) (nextOfMembers ms)
  | .list items => nextOfItems items
  | .pair k v => max (nextNumber k) (nextNumber v)
  | _ => 0

/-- A number above those of all objects of some items. -/
def nextOfItems : List Value → Nat
  | [] => 0
  | v :: vs => max (nextNumber v) (nextOfItems vs)

/-- A number above those of all objects of some members. -/
def nextOfMembers : List (Scalar × Value) → Nat
  | [] => 0
  | (_, v) :: ms => max (nextNumber v) (nextOfMembers ms)

end

end OpenApiClient.Value
