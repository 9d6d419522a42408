/-
Why a reference cannot be followed.
-/

import OpenApiClient.Reference.Retrieval

set_option autoImplicit false

namespace OpenApiClient.Reference

/-- Why a reference cannot be followed. -/
inductive Fault where
  /-- Its pointer leads nowhere. -/
  | dangling (ref pointer : String)
  /-- Its pointer leads to itself. -/
  | toItself (ref : String)
  /-- The document that it points into cannot be had. -/
  | unavailable (ref : String) (cause : RetrievalFault)
  /-- It is no address. -/
  | address (fault : AddressFault)
  /-- Following it never comes to an end. -/
  | endless
  deriving DecidableEq, Repr

/-- What is said about a reference. -/
def Fault.about (ref what : String) : String := "Error while resolving `" ++ ref ++ "`: " ++ what

/-- What a fault says. -/
def Fault.message : Fault → String
  | .dangling ref pointer =>
    about ref ("Unresolvable JSON pointer: " ++ Text.quoted pointer)
  | .toItself ref => about ref "Reference refers directly to itself."
  | .unavailable ref cause => about ref cause.message
  | .address f => f.message
  | .endless => "maximum recursion depth exceeded"

end OpenApiClient.Reference
