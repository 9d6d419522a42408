/-
Equal keys, and objects as maps.

A key stands at most once in an object.  Two keys are the same if they are equal as
numbers or as texts: `1`, `1.0` and `true` are one key, and so are all values that are no
number.  When a key is written a second time its value is replaced and its place is kept,
which is what `Members.insert` does.
-/

import OpenApiClient.Value.Basic
import OpenApiClient.Number.Shortest

set_option autoImplicit false

namespace OpenApiClient

/-! ## Equality of scalars -/

/-- Days since the first day of the year 1, in the calendar that is now in use. -/
def Date.days (d : Date) : Int :=
  let y : Int := d.year - 1
  let leap := d.year % 4 = 0 ∧ (d.year % 100 ≠ 0 ∨ d.year % 400 = 0)
  let before := [0, 31, 59, 90, 120, 151, 181, 212, 243, 273, 304, 334].getD (d.month - 1) 0
  y * 365 + y / 4 - y / 100 + y / 400 + before + (if leap ∧ 2 < d.month then 1 else 0) + d.day

/-- Microseconds since the first day of the year 1, in universal time if the offset is
known. -/
def Moment.micros (m : Moment) : Int :=
  let minutes := (m.date.days * 24 + m.time.hour) * 60 + m.time.minute - m.offset.getD 0
  (minutes * 60 + m.time.second) * 1000000 + m.time.micro

namespace Scalar

/-- The integer that a scalar equals, if it equals one. -/
def asInt? : Scalar → Option Int
  | .bool b => some (if b then 1 else 0)
  | .int n => some n
  | .float x => Number.toInt? x
  | _ => none

/-- Whether two scalars are the same key. -/
def same (a b : Scalar) : Bool :=
  match a.asInt?, b.asInt? with
  | some m, some n => m == n
  | some _, none => false
  | none, some _ => false
  | none, none =>
    match a, b with
    | .null, .null => true
    | .float x, .float y => x == y || (x.isNaN && y.isNaN)
    | .text s, .text t => s == t
    | .bytes x, .bytes y => x == y
    | .date x, .date y => x == y
    | .moment x, .moment y => x.offset.isSome == y.offset.isSome && x.micros == y.micros
    | .time x, .time y => x == y
    | _, _ => false

/-- Whether a scalar is the given text. -/
def isText (a : Scalar) (s : String) : Bool :=
  match a with
  | .text t => t == s
  | _ => false

theorem eq_text_of_isText {a : Scalar} {s : String} (h : a.isText s = true) : a = .text s := by
  unfold isText at h
  split at h
  · rw [eq_of_beq h]
  · cases h

/-- Of two scalars that are the same key both are a text, or none is. -/
theorem isText_eq_of_same {a b : Scalar} (h : a.same b = true) (s : String) :
    a.isText s = b.isText s := by
  -- what counts as a number is no text
  have hint : ∀ {c : Scalar} {n : Int}, c.asInt? = some n → c.isText s = false := by
    intro c n hc
    cases c with
    | text t => cases hc
    | _ => rfl
  unfold same at h
  split at h
  · rename_i ha hb
    rw [hint ha, hint hb]
  · cases h
  · cases h
  · split at h
    · rfl
    · rfl
    · rw [eq_of_beq h]
    · rfl
    · rfl
    · rfl
    · rfl
    · cases h

end Scalar

/-! ## Objects as maps -/

namespace Members

/-- The value of a key. -/
def get? (ms : Members) (key : Scalar) : Option Value :=
  (ms.find? fun m => m.1.same key).map (·.2)

/-- The value of a textual key. -/
def getText? (ms : Members) (key : String) : Option Value :=
  (ms.find? fun m => m.1.isText key).map (·.2)

/-- Whether a key stands in an object. -/
def contains (ms : Members) (key : Scalar) : Bool := ms.any fun m => m.1.same key

/-- Gives a key a value.  A key that stands already keeps its place, and its first
spelling. -/
def insert : Members → Scalar → Value → Members
  | [], k, v => [(k, v)]
  | (k', v') :: ms, k, v => if k'.same k then (k', v) :: ms else (k', v') :: insert ms k v

/-- The object with the given keys and values, later ones replacing earlier ones. -/
def ofList (pairs : List (Scalar × Value)) : Members :=
  pairs.foldl (fun ms (k, v) => insert ms k v) []

/-- Adds all members of another object. -/
def update (ms extra : Members) : Members := extra.foldl (fun ms (k, v) => insert ms k v) ms

end Members

/-- The value of a textual key of a value, if it is an object and has that key. -/
def Value.member? (v : Value) (key : String) : Option Value :=
  match v with
  | .object _ ms => Members.getText? ms key
  | _ => none

end OpenApiClient
