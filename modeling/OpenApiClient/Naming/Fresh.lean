/-
Names that are not taken yet.

Two schemas, properties or parameters may come out with the same spelling.  The first one
keeps it and each further one gets the least number from two on that makes it free.  The
search is bounded: among as many numbers as there are taken names, and one more, at least
one gives a name that is free, since different numbers give different names.
-/

set_option autoImplicit false

namespace OpenApiClient.Naming

/-- A name with a number behind it. -/
def numbered (name : String) (k : Nat) : String := name ++ toString k

/-- The name itself if it is free, and otherwise the first free one among its numbered
forms, from two on. -/
def fresh (taken : List String) (name : String) : String :=
  if taken.contains name then
    (((List.range (taken.length + 1)).map fun i => numbered name (i + 2)).find?
      fun n => !taken.contains n).getD name
  else name

/-- Fresh names for several names in turn, each taken for the ones after it; also the
names that are taken at the end, the new ones last. -/
def freshAll (taken : List String) : List String → List String × List String
  | [] => ([], taken)
  | n :: ns =>
    let f := fresh taken n
    let (fs, final) := freshAll (taken ++ [f]) ns
    (f :: fs, final)

end OpenApiClient.Naming
