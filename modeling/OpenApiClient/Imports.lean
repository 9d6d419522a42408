/-
Imported namespaces, and the names that they shorten.

The generated file imports the namespaces that its code needs, and those that the user
adds; patterns take some of them out again.  Inside the contracts a type of an imported
namespace is written without the namespace.  That is done on the finished text, one
namespace after the other, so an earlier one can take away a part of a later one: the
order of the list is part of the result.
-/

import OpenApiClient.Settings
import OpenApiClient.Pattern.Reader

set_option autoImplicit false

namespace OpenApiClient.Imports

/-- The namespaces that every generated file needs. -/
def defaults : List String :=
  ["Refit", "System.Collections.Generic", "System.Text.Json.Serialization",
    "System.Threading.Tasks"]

/-- The namespaces before exclusion: the defaults, the one of cancellation tokens if they
are used, and those that the user adds. -/
def wanted (s : Settings) : List String :=
  defaults ++ (if s.useCancellationTokens then ["System.Threading"] else [])
    ++ s.additionalNamespaces

/-- The names without repetitions; the first of equal names keeps its place. -/
def distinct (names : List String) : List String :=
  names.foldl (fun ns n => if ns.contains n then ns else ns ++ [n]) []

/-- The imported namespaces: the wanted ones that are not empty, each once, without those
in which an exclusion pattern occurs. -/
def imported (s : Settings) : Except Pattern.Fault (List String) := do
  let names := distinct ((wanted s).filter (· ≠ ""))
  let patterns ← Pattern.readAll s.excludeNamespaces
  return names.filter fun n => !patterns.any (·.occursIn n)

/-- The directives that import some namespaces, one a line. -/
def directives (names : List String) : String :=
  "\n".intercalate (names.map fun n => "using " ++ n ++ ";")

/-- The code without a namespace before the names in it.  Every occurrence is taken out,
wherever it stands. -/
def strip (code namespaceName : String) : String := Text.eraseAll (namespaceName ++ ".") code

/-- The code without several namespaces, taken out one after the other. -/
def stripAll (code : String) (names : List String) : String := names.foldl strip code

/-- The code after each namespace is taken out. -/
def stripSteps (code : String) : List String → List String
  | [] => []
  | n :: ns => strip code n :: stripSteps (strip code n) ns

end OpenApiClient.Imports
