/-
The tree of values that a document is read into.

JSON, YAML and TOML texts are all read into one type, `Value`, because everything after
the reader works on documents of any of the three.  Two things about it are not obvious.

Objects keep their members in the order in which they were written, since that order
decides the order of the generated declarations.  And every object carries a number:
two objects written at two places are two objects even if they have equal members, while
an object that YAML reaches twice through an alias is one.  Generated types are named per
object, so the difference shows in the output; `Value.object` makes it part of the data
instead of leaving it to the memory of a machine.

A value is finite.  An alias inside the very node that it names stands as `again`, which
no reader of documents can enter.
-/

set_option autoImplicit false

namespace OpenApiClient

/-! ## Dates -/

/-- A day of the calendar. -/
structure Date where
  year : Nat
  month : Nat
  day : Nat
  deriving DecidableEq, Repr, Inhabited

/-- A time of a day, to the microsecond. -/
structure ClockTime where
  hour : Nat
  minute : Nat
  second : Nat
  micro : Nat
  deriving DecidableEq, Repr, Inhabited

/-- A day and a time, with the distance from universal time in minutes if it is known. -/
structure Moment where
  date : Date
  time : ClockTime
  offset : Option Int
  deriving DecidableEq, Repr, Inhabited

/-! ## Values -/

/-- A value without parts.  Only these can be keys of an object. -/
inductive Scalar where
  | null
  | bool (b : Bool)
  | int (n : Int)
  | float (x : Float)
  | text (s : String)
  | bytes (data : List UInt8)
  | date (d : Date)
  | moment (m : Moment)
  | time (t : ClockTime)
  deriving Repr, Inhabited

/-- A value of a document. -/
inductive Value where
  | scalar (s : Scalar)
  | list (items : List Value)
  /-- An object: its number, and its members in the order in which they were written. -/
  | object (number : Nat) (members : List (Scalar × Value))
  | set (members : List Scalar)
  /-- An entry of an ordered list of entries: a key and its value. -/
  | pair (key value : Value)
  /-- An alias inside the object or list that it names. -/
  | again (number : Nat)
  deriving Repr, Inhabited

/-- The members of an object, in order. -/
abbrev Members := List (Scalar × Value)

namespace Value

/-- The absent value. -/
abbrev null : Value := .scalar .null

/-- A text. -/
abbrev text (s : String) : Value := .scalar (.text s)

/-- A truth value. -/
abbrev bool (b : Bool) : Value := .scalar (.bool b)

/-- An integer. -/
abbrev int (n : Int) : Value := .scalar (.int n)

/-- A floating-point number. -/
abbrev float (x : Float) : Value := .scalar (.float x)

/-- Whether a value is the absent one. -/
def isNull : Value → Bool
  | .scalar .null => true
  | _ => false

theorem eq_null_of_isNull {v : Value} (h : v.isNull = true) : v = .null := by
  unfold isNull at h
  split at h
  · rfl
  · cases h

/-- The text of a value that is one. -/
def text? : Value → Option String
  | .scalar (.text s) => some s
  | _ => none

/-- The members of a value that is an object. -/
def members? : Value → Option Members
  | .object _ ms => some ms
  | _ => none

/-- Whether a value is an object. -/
def isObject : Value → Bool
  | .object _ _ => true
  | _ => false

end Value

end OpenApiClient
