/-
The configuration of the program.

A configuration has a value for every key, and does not say what kind of value: it comes from
a file that people write, and is checked only when settings are made from it.  So all that a
configuration does is to decide where each value comes from.  A file stands above the default
values, and what is given on the command line stands above the file; `Configuration.merge`
takes a value over unless it says nothing, that is, unless it is absent or an empty list.
-/

import OpenApiClient.Settings
import OpenApiClient.Source.Files
import OpenApiClient.Toml.Reader
import OpenApiClient.Toml.Writer
import OpenApiClient.Validation.Report

set_option autoImplicit false

namespace OpenApiClient

/-! ## Keys -/

/-- What can be configured. -/
inductive ConfigKey where
  | openApiPath
  | namespaceName
  | outputPath
  | useOpenApiTitle
  | interfaceName
  | generateContracts
  | generateXmlDocComments
  | addAutoGeneratedHeader
  | returnApiResponse
  | generateOperationHeaders
  | accessibility
  | useCancellationTokens
  | useIsoDateFormat
  | additionalNamespaces
  | excludeNamespaces
  | includeTags
  | includePathMatches
  deriving DecidableEq, Repr

namespace ConfigKey

/-- All keys, in the order in which a file has them. -/
def all : List ConfigKey := [
  .openApiPath, .namespaceName, .outputPath, .useOpenApiTitle, .interfaceName,
  .generateContracts, .generateXmlDocComments, .addAutoGeneratedHeader, .returnApiResponse,
  .generateOperationHeaders, .accessibility, .useCancellationTokens, .useIsoDateFormat,
  .additionalNamespaces, .excludeNamespaces, .includeTags, .includePathMatches]

/-- The name of a key in a file. -/
def name : ConfigKey → String
  | .openApiPath => "openapi_path"
  | .namespaceName => "namespace"
  | .outputPath => "output_path"
  | .useOpenApiTitle => "use_openapi_title"
  | .interfaceName => "interface_name"
  | .generateContracts => "generate_contracts"
  | .generateXmlDocComments => "generate_xml_doc_code_comments"
  | .addAutoGeneratedHeader => "add_auto_generated_header"
  | .returnApiResponse => "return_iapi_response"
  | .generateOperationHeaders => "generate_operation_headers"
  | .accessibility => "type_accessibility"
  | .useCancellationTokens => "use_cancellation_tokens"
  | .useIsoDateFormat => "use_iso_date_format"
  | .additionalNamespaces => "additional_namespaces"
  | .excludeNamespaces => "exclude_namespaces"
  | .includeTags => "include_tags"
  | .includePathMatches => "include_path_matches"

/-- The value of a key that nobody has configured. -/
def default : ConfigKey → Value
  | .openApiPath => .null
  | .namespaceName => .text "GeneratedCode"
  | .outputPath => .text "Output.cs"
  | .interfaceName => .text "ApiClient"
  | .accessibility => .text Accessibility.everyone.keyword
  | .useOpenApiTitle | .generateContracts | .generateXmlDocComments | .addAutoGeneratedHeader
  | .generateOperationHeaders => .bool true
  | .returnApiResponse | .useCancellationTokens | .useIsoDateFormat => .bool false
  | .additionalNamespaces | .excludeNamespaces | .includeTags | .includePathMatches => .list []

end ConfigKey

/-! ## Configurations -/

/-- A configuration: a value for every key. -/
structure Configuration where
  value : ConfigKey → Value

/-- Values for some keys; the others are absent. -/
abbrev Overrides := ConfigKey → Value

namespace Configuration

/-- What is configured if nothing is. -/
def default : Configuration := ⟨ConfigKey.default⟩

/-- The configuration that the members of an object name.  Other members are left out. -/
def ofMembers (ms : Members) : Configuration :=
  ⟨fun k => (Members.getText? ms k.name).getD k.default⟩

/-- The configuration that the members of an object name, if they name nothing else. -/
def ofMembers? (ms : Members) : Option Configuration :=
  if ms.all fun m => ConfigKey.all.any fun k => m.1.isText k.name then some (ofMembers ms)
  else none

/-- The members of a configuration, in order. -/
def members (c : Configuration) : Members :=
  ConfigKey.all.map fun k => (.text k.name, c.value k)

/-- Whether a value says nothing in place of another one. -/
def saysNothing : Value → Bool
  | .scalar .null => true
  | .list [] => true
  | _ => false

/-- Takes over values that say something. -/
def merge (c : Configuration) (o : Overrides) : Configuration :=
  ⟨fun k => if saysNothing (o k) then c.value k else o k⟩

/-! ## Settings from a configuration -/

/-- Why a configuration gives no settings. -/
inductive SettingsFault where
  /-- It does not say where the document is. -/
  | noPath
  | fields (part : String) (first : Validation.Fault) (more : List Validation.Fault)
  /-- A value that should be a list has no items. -/
  | noItems
  deriving DecidableEq, Repr

/-- What a fault says. -/
def SettingsFault.message : SettingsFault → String
  | .noPath => "Путь к OpenAPI спецификации не указан в конфигурации"
  | .fields part first more => Validation.report part first more
  | .noItems => "the value has no items"

/-- The value with a name, or an item of the list with a name. -/
def valueAt? (c : Configuration) : List Validation.Step → Option Value
  | [.key name] => Members.getText? c.members name
  | [.key name, .index i] =>
    match Members.getText? c.members name with
    | some (.list items) => items[i.toNat]?
    | _ => none
  | _ => none

/-- A fault as a report about a configuration shows it: a table that is written as a value has
a kind of its own. -/
def reported (c : Configuration) (f : Validation.Fault) : Validation.Fault :=
  match c.valueAt? f.path with
  | some (.object n _) =>
    if n = Toml.inlineNumber then { f with input := { f.input with kind := Toml.inlineKind } }
    else f
  | _ => f

/-- The checked fields of a part of the settings with a name, or their faults. -/
def settle {α : Type} (c : Configuration) (part : String) :
    Validation.Checked α → Except SettingsFault α
  | .ok a => .ok a
  | .faults f fs => .error (.fields part (c.reported f) (fs.map c.reported))
  | .stopped => .error .noItems

/-- The settings that a configuration gives.  How the interface is named is checked before
everything else. -/
def settings (c : Configuration) : Except SettingsFault Settings := do
  if !(c.value .openApiPath).isGiven then throw .noPath
  else
    let naming ← c.settle "NamingSettings" (NamingSettings.check c.members)
    c.settle "GenerationSettings" (Settings.checkWith (pure naming) c.members)

/-! ## Files -/

/-- The name of the file that holds a configuration. -/
def fileName : String := "refitter.toml"

/-- Why a file holds no configuration. -/
inductive LoadFault where
  | file (fault : Source.FileFault)
  | notUtf8 (fault : Text.Utf8Fault)
  | toml (fault : Toml.Fault) (text : List Char)
  deriving Repr

/-- A path below a directory. -/
def inDirectory (directory name : String) : String :=
  if directory.endsWith "/" then directory ++ name else directory ++ "/" ++ name

/-- The path of the configuration: the one in the directory that is searched, if it is
there. -/
def choosePath (files : Source.Files) (path : String) (searched : Option String) : String :=
  match searched with
  | none => path
  | some directory =>
    let inside := inDirectory directory fileName
    if files.hasDirectory directory && files.has inside then inside else path

/-- Reads a configuration from a file that is there. -/
def read (files : Source.Files) (path : String) : Except LoadFault Configuration := do
  let bytes ← (files.read path).mapError .file
  let text ← (Text.decode bytes).mapError .notUtf8
  let text := Text.normalizeLineEnds text
  return ofMembers (← (Toml.read text).mapError fun f => .toml f text)

/-- Reads the configuration from a file, if it is there. -/
def load? (files : Source.Files) (path : String) : Except LoadFault (Option Configuration) :=
  if files.has path then (read files path).map some else .ok none

/-- Why a configuration cannot be saved. -/
inductive SaveFault where
  | file (fault : Source.FileFault)
  /-- A value of it cannot be written. -/
  | unwritable (halt : Toml.Halt)
  deriving DecidableEq, Repr

/-- The text of a configuration; absent values are left out. -/
def text (c : Configuration) : Except Toml.Halt String :=
  Toml.write (c.members.filter fun m => !m.2.isNull)

/-- Writes a configuration to a file, and gives back the files after that.  The file is made
before the text, so that one that cannot be made into text leaves an empty file behind. -/
def save (c : Configuration) (files : Source.Files) (path : String) :
    Except SaveFault Unit × Source.Files :=
  match files.write path [] with
  | .error f => (.error (.file f), files)
  | .ok opened =>
    match c.text with
    | .error h => (.error (.unwritable h), opened)
    | .ok text =>
      let (written, files) := opened.writeText path text
      (written.mapError .file, files)

end Configuration

end OpenApiClient
