/-
The order of a set of numbers.

The members of a set are shown in the order of the places that they take in a table.  The
place of a number is its residue by a prime, cut to the size of the table; when that place
is taken, the places after it are tried, and then others that follow from the residue.  A
table has more than twice as many places as members, and never less than eight, so small
natural numbers stand in their order and others do not.

Only numbers have places of their own.  A set that holds anything else keeps the order in
which it was written.
-/

import OpenApiClient.Value.Basic
import OpenApiClient.Number.Shortest

set_option autoImplicit false

namespace OpenApiClient.SetOrder

/-! ## Residues -/

/-- The prime by which residues are taken: one less than a power of two, so that the residues
of the powers of two repeat. -/
def modulus : Nat := 2305843009213693951

/-- The binary digits of the prime. -/
def width : Nat := 61

/-- The number of all words, as many as there are residues with a sign. -/
def words : Nat := 18446744073709551616

/-- A residue with a sign as a word.  Minus one is left out. -/
def word (isNegative : Bool) (residue : Nat) : Nat :=
  if isNegative && residue ≠ 0 then words - (if residue = 1 then 2 else residue) else residue

/-- The word of an integer. -/
def ofInt (n : Int) : Nat := word (n < 0) (n.natAbs % modulus)

/-- The word of a floating-point number; none, if it is no number. -/
def ofFloat? (x : Float) : Option Nat :=
  if x.isNaN then none
  else if x.isInf then some (word (x < 0.0) 314159)
  else
    let b := Number.Binary.ofFloat x
    let shift := (b.exponent.emod width).toNat
    some (word (x < 0.0) (b.mantissa * Number.twoTo shift % modulus))

/-- The word of a scalar that is a number. -/
def ofScalar? : Scalar → Option Nat
  | .bool b => some (if b then 1 else 0)
  | .int n => some (ofInt n)
  | .float x => ofFloat? x
  | _ => none

/-! ## Places -/

/-- The places of a table: a scalar, or none where nothing stands. -/
abbrev Table := Array (Option Scalar)

/-- How many places after one are tried before others. -/
def neighbours : Nat := 9

/-- The first free place from `i` on among `count` places. -/
def freeFrom (t : Table) (i : Nat) : Nat → Option Nat
  | 0 => none
  | count + 1 => if (t.getD i none).isNone then some i else freeFrom t (i + 1) count

/-- A free place for a word, after at most `fuel` other places with what is left of the
word. -/
def place (t : Table) (fuel i rest : Nat) : Nat :=
  let near := if i + neighbours < t.size then neighbours + 1 else 1
  match freeFrom t i near, fuel with
  | some free, _ => free
  | none, 0 => i
  | none, fuel + 1 => place t fuel ((i * 5 + 1 + rest / 32) % t.size) (rest / 32)

/-- Puts a scalar with a word into a table.  After a word is used up every place is reached,
so that a free one is found. -/
def put (t : Table) (member : Scalar × Nat) : Table :=
  t.set! (place t (t.size + 16) (member.2 % t.size) member.2) (some member.1)

/-- The size of a table for some members. -/
def tableSize (count : Nat) : Nat := if count < 5 then 8 else Number.twoTo ((count * 2).log2 + 1)

/-- The members of a set in their order. -/
def arrange (members : List Scalar) : List Scalar :=
  match members.mapM fun s => (ofScalar? s).map fun w => (s, w) with
  | none => members
  | some ms =>
    let empty : Table := Array.replicate (tableSize ms.length) none
    (ms.foldl put empty).toList.filterMap fun s => s

end OpenApiClient.SetOrder
