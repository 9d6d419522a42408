/-
Where a document is.

A location is a path or an address.  Its first characters tell whether it is fetched, and
its last ones in which format it is written; both are looked at as they are, so case
counts, and an address that goes on after its extension is taken for JSON.
-/

set_option autoImplicit false

namespace OpenApiClient.Source

/-- Whether a location is fetched over HTTP. -/
def isRemote (location : String) : Bool :=
  location.startsWith "http://" || location.startsWith "https://"

/-- Whether a location names a YAML document. -/
def isYaml (location : String) : Bool :=
  location.endsWith "yaml" || location.endsWith "yml"

/-- How a document is got and read. -/
inductive Kind where
  | remoteYaml
  | remoteJson
  | localYaml
  | localJson
  deriving DecidableEq, Repr

/-- The kind of a location. -/
def Kind.ofLocation (location : String) : Kind :=
  match isRemote location, isYaml location with
  | true, true => .remoteYaml
  | true, false => .remoteJson
  | false, true => .localYaml
  | false, false => .localJson

/-- The name of a kind. -/
def Kind.label : Kind → String
  | .remoteYaml => "remote-yaml"
  | .remoteJson => "remote-json"
  | .localYaml => "local-yaml"
  | .localJson => "local-json"

end OpenApiClient.Source
