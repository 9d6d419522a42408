/-
Kinds of values, as messages name them.

A message about a value that does not fit names the kind of the value.  Dates have two names:
a short one, and one that says where they belong.

A value is written into a message by its literal, and an integer that is too long has none.
-/

import OpenApiClient.Text.Digit
import OpenApiClient.Value.Basic

set_option autoImplicit false

namespace OpenApiClient

namespace Scalar

/-- The name of the kind of a scalar. -/
def kind : Scalar → String
  | .null => "NoneType"
  | .bool _ => "bool"
  | .int _ => "int"
  | .float _ => "float"
  | .text _ => "str"
  | .bytes _ => "bytes"
  | .date _ => "date"
  | .moment _ => "datetime"
  | .time _ => "time"

/-- The name of the kind of a scalar, with where it belongs. -/
def fullKind : Scalar → String
  | .date d => "datetime." ++ kind (.date d)
  | .moment m => "datetime." ++ kind (.moment m)
  | .time t => "datetime." ++ kind (.time t)
  | s => s.kind

/-- The least integer with more digits than are written. -/
def writtenEnd : Nat := Nat.pow 10 Text.maxDigits

/-- The minutes of a day. -/
def minutesOfDay : Nat := 24 * 60

/-- Whether a scalar can be written out: an integer may not be too long, and a moment not be a
day or more away from universal time. -/
def isWritable : Scalar → Bool
  | .int n => n.natAbs < writtenEnd
  | .moment m => m.offset.all fun minutes => minutes.natAbs < minutesOfDay
  | _ => true

/-- What is said about an integer that cannot be written out. -/
def unwritableMessage : String :=
  s!"Exceeds the limit ({Text.maxDigits} digits) for integer string conversion; "
    ++ "use sys.set_int_max_str_digits() to increase the limit"

end Scalar

namespace Value

/-- The name of the kind of a value. -/
def kind : Value → String
  | .scalar s => s.kind
  | .list _ => "list"
  | .object _ _ => "dict"
  | .set _ => "set"
  | .pair _ _ => "tuple"
  | .again _ => "dict"

/-- The name of the kind of a value, with where it belongs. -/
def fullKind : Value → String
  | .scalar s => s.fullKind
  | v => v.kind

mutual

/-- Whether a value can be written out. -/
def isWritable : Value → Bool
  | .scalar s => s.isWritable
  | .list items => areWritable items
  | .object _ ms => membersAreWritable ms
  | .set ms => ms.all Scalar.isWritable
  | .pair k v => isWritable k && isWritable v
  | .again _ => true

/-- Whether all items of a list can be written out. -/
def areWritable : List Value → Bool
  | [] => true
  | v :: vs => isWritable v && areWritable vs

/-- Whether all members of an object can be written out. -/
def membersAreWritable : List (Scalar × Value) → Bool
  | [] => true
  | (k, v) :: ms => k.isWritable && isWritable v && membersAreWritable ms

end

end Value

end OpenApiClient
