/-
Why a text is no search pattern.
-/

import OpenApiClient.Text.Digit

set_option autoImplicit false

namespace OpenApiClient.Pattern

/-- Why a text is no pattern. -/
inductive Fault where
  | unexpectedEnd
  | openClass
  | badRange
  | badEscape
  | unknownName
  | nothingToRepeat
  | multipleRepeat
  | leastAboveMost
  | openGroup
  | unbalanced
  | unknownExtension
  | badGroupName
  | unknownGroup
  | referenceToOpenGroup
  /-- A look back refers to a group that is part of it. -/
  | referenceIntoLookBehind
  | lateFlags
  | badFlags
  | openComment
  | tooManyBranches
  | lookBehindWidth
  /-- A repetition number is out of all bounds. -/
  | numberTooLarge
  /-- A repetition number has this many digits, which is more than are read. -/
  | longNumber (digits : Nat)
  /-- The whole pattern is to take the characters of ASCII alone, and those of all scripts. -/
  | flagsClash
  deriving DecidableEq, Repr

/-- Whether a fault is one of a wrong value, and not of the way in which a pattern is
written. -/
def Fault.isWrongValue : Fault → Bool
  | .longNumber _ | .flagsClash => true
  | _ => false

/-- What a fault of a wrong value says. -/
def Fault.message : Fault → String
  | .longNumber digits => Text.longIntegerMessage digits
  | .flagsClash => "ASCII and UNICODE flags are incompatible"
  | _ => "the text is no search pattern"

end OpenApiClient.Pattern
