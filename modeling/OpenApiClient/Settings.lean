/-
The settings of one generation run.

Settings are plain data: where the document is, how names are made, which segments the
output has, which operations are taken, and which namespaces are imported.  They are
read from an object by checks of its fields, so that all faults of an object are
reported at once and in the order of the fields.
-/

import OpenApiClient.Validation.Checked

set_option autoImplicit false

namespace OpenApiClient

/-- Who may use the generated types: everyone, or the code of the same assembly. -/
inductive Accessibility where
  | everyone
  | assembly
  deriving DecidableEq, Repr, Inhabited

/-- The keyword of an accessibility. -/
def Accessibility.keyword : Accessibility → String
  | .everyone => "public"
  | .assembly => "internal"

/-- All accessibilities. -/
def Accessibility.all : List Accessibility := [.everyone, .assembly]

/-- How the interface is named. -/
structure NamingSettings where
  useOpenApiTitle : Bool := true
  interfaceName : String := "ApiClient"
  deriving DecidableEq, Repr, Inhabited

/-- The settings of one generation run. -/
structure Settings where
  openApiPath : String
  namespaceName : String := "GeneratedCode"
  naming : NamingSettings := {}
  generateContracts : Bool := true
  generateXmlDocComments : Bool := true
  addAutoGeneratedHeader : Bool := true
  returnApiResponse : Bool := false
  generateOperationHeaders : Bool := true
  accessibility : Accessibility := .everyone
  useCancellationTokens : Bool := false
  useIsoDateFormat : Bool := false
  additionalNamespaces : List String := []
  excludeNamespaces : List String := []
  includeTags : List String := []
  includePathMatches : List String := []
  deriving DecidableEq, Repr, Inhabited

open Validation in
/-- An accessibility is given by its keyword. -/
def Accessibility.check (v : Value) : Checked Accessibility :=
  match v with
  | .scalar (.text "public") => .ok .everyone
  | .scalar (.text "internal") => .ok .assembly
  | v => if hasHalf v then .fault .notUtf8 v else .fault (.notMember (all.map keyword)) v

open Validation in
/-- Reads naming settings from the members of an object. -/
def NamingSettings.check (ms : Members) : Checked NamingSettings :=
  NamingSettings.mk
    <$> withDefault ms "use_openapi_title" true bool
    <*> withDefault ms "interface_name" "ApiClient" text

open Validation in
/-- Reads settings from the members of an object; the naming settings are read by
`naming`. -/
def Settings.checkWith (naming : Checked NamingSettings) (ms : Members) : Checked Settings :=
  Settings.mk
    <$> required ms "openapi_path" text
    <*> withDefault ms "namespace" "GeneratedCode" text
    <*> naming
    <*> withDefault ms "generate_contracts" true bool
    <*> withDefault ms "generate_xml_doc_code_comments" true bool
    <*> withDefault ms "add_auto_generated_header" true bool
    <*> withDefault ms "return_iapi_response" false bool
    <*> withDefault ms "generate_operation_headers" true bool
    <*> withDefault ms "type_accessibility" .everyone Accessibility.check
    <*> withDefault ms "use_cancellation_tokens" false bool
    <*> withDefault ms "use_iso_date_format" false bool
    <*> withDefault ms "additional_namespaces" [] texts
    <*> withDefault ms "exclude_namespaces" [] texts
    <*> withDefault ms "include_tags" [] texts
    <*> withDefault ms "include_path_matches" [] texts

open Validation in
/-- Reads settings from the members of an object. -/
def Settings.check (ms : Members) : Checked Settings :=
  Settings.checkWith (withDefault ms "naming" {} (object NamingSettings.check)) ms

end OpenApiClient
