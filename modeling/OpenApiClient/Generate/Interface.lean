/-
The interface: one method for every operation.

A method has the parameters of its operation in the order path, query, header, then the
body; those that may be left out come after all others, and a cancellation token comes
last.  Names that are spelled alike are numbered, per method for parameters and per
interface for methods.  A parameter whose name had to be changed says its wire name in an
attribute.
-/

import OpenApiClient.Generate.Contracts

set_option autoImplicit false

namespace OpenApiClient.Generate

open CSharp
open Schema (Catalogue Ledger Build liftFault)

/-! ## The name of the interface -/

/-- A name with the letter of interfaces before it, unless it stands there already. -/
def withInterfaceLetter (name : String) : String :=
  match name.toList with
  | 'I' :: c :: _ => if c.isUpper then name else "I" ++ name
  | _ => "I" ++ name

/-- The name of the interface: the title of the document, or the one that is set. -/
def interfaceName (x : Context) : String :=
  let title := Naming.pascalCase x.document.title
  if x.settings.naming.useOpenApiTitle && title ≠ "" then "I" ++ title
  else
    let set := Naming.pascalCase x.settings.naming.interfaceName
    withInterfaceLetter (if set = "" then "ApiClient" else set)

/-! ## Parameters -/

/-- Where parameters of a method are sent. -/
inductive Channel where
  | path
  | query
  | header
  deriving DecidableEq, Repr

/-- The channel with a name; parameters of others have no place in a method. -/
def Channel.ofName? : String → Option Channel
  | "path" => some .path
  | "query" => some .query
  | "header" => some .header
  | _ => none

/-- The parameters of a channel, in order. -/
def parametersOf (o : Operation) (channel : Channel) : List Parameter :=
  o.parameters.filter fun p => Channel.ofName? p.location == some channel

/-- The parameters of a method before they are split into required and optional ones, each
with its channel.  Headers can be switched off. -/
def orderedParameters (x : Context) (o : Operation) : List (Channel × Parameter) :=
  let headers := if x.settings.generateOperationHeaders then parametersOf o .header else []
  (parametersOf o .path).map (.path, ·) ++ (parametersOf o .query).map (.query, ·)
    ++ headers.map (.header, ·)

/-- The format in which a day is sent. -/
def isoDateFormat : String := "\"yyyy-MM-dd\""

/-- The attribute that says where a parameter is sent. -/
def channelAttributes (x : Context) (channel : Channel) (p : Parameter) : List Attribute :=
  match channel with
  | .path => []
  | .query =>
    if x.settings.useIsoDateFormat && p.schema.format? == some "date" then
      [⟨"Query", ["Format = " ++ isoDateFormat]⟩]
    else [⟨"Query", []⟩]
  | .header => [⟨"Header", [plainLiteral p.name]⟩]

/-- The attribute that says the wire name of a parameter, if it is not its own name.  A
header says it already. -/
def aliasAttributes (channel : Channel) (name : String) (p : Parameter) : List Attribute :=
  if channel ≠ .header ∧ name ≠ p.name then [⟨"AliasAs", [plainLiteral p.name]⟩] else []

/-- Whether a parameter may be left out. -/
def isOptional (channel : Channel) (p : Parameter) : Bool := !p.required && channel ≠ .path

/-- The name of a parameter, free among the taken ones. -/
def parameterName (taken : List String) (p : Parameter) : String :=
  let wanted := Naming.camelCase p.name
  Naming.fresh taken (if wanted = "" then "value" else wanted)

/-- The parameter of a method for one of an operation. -/
def methodParam (x : Context) (owner name : String) (channel : Channel) (p : Parameter) :
    Build MethodParam := do
  let type ← Schema.resolve x.catalogue p.schema (owner ++ Naming.pascalCase p.name)
    (isOptional channel p)
  return {
    name := Naming.escapeKeyword name
    type := type.render
    attributes := channelAttributes x channel p ++ aliasAttributes channel name p
    default := if isOptional channel p then some "default" else none }

/-- What the comment of a method says about a parameter, if its description says
anything. -/
def paramNote? (name : String) (p : Parameter) : Option ParamNote :=
  (p.description.filter (· ≠ "")).map fun text => ⟨name, text⟩

/-- The parameters of a method with what is said about them, and the names taken at the
end. -/
def methodParams (x : Context) (owner : String) (taken : List String) :
    List (Channel × Parameter) → Build (List (MethodParam × Option ParamNote) × List String)
  | [] => return ([], taken)
  | (channel, p) :: ps => do
    let name := parameterName taken p
    let m ← methodParam x owner name channel p
    let (ms, final) ← methodParams x owner (taken ++ [name]) ps
    return ((m, paramNote? name p) :: ms, final)

/-! ## Methods -/

/-- The result type of a method. -/
def resultType (x : Context) (o : Operation) : Build String := do
  match o.response with
  | none => return if x.settings.returnApiResponse then "Task<IApiResponse>" else "Task"
  | some response =>
    let type ← Schema.resolve x.catalogue response (o.name ++ "Response") false
    return if x.settings.returnApiResponse then "Task<IApiResponse<" ++ type.render ++ ">>"
      else "Task<" ++ type.render ++ ">"

/-- The parameter of the body, with its name. -/
def bodyParam (x : Context) (taken : List String) (o : Operation) : Build (List MethodParam) := do
  match o.requestBody with
  | none => return []
  | some body =>
    let type ← Schema.resolve x.catalogue body (o.name ++ "Body") false
    return [{
      name := Naming.fresh taken "body", type := type.render, attributes := [⟨"Body", []⟩] }]

/-- The parameter of the cancellation token. -/
def tokenParam (x : Context) (taken : List String) : List MethodParam :=
  if x.settings.useCancellationTokens then
    [{ name := Naming.fresh taken "cancellationToken", type := "CancellationToken",
       default := some "default" }]
  else []

/-- The comment of a method: its summary or else its description. -/
def methodDoc (x : Context) (o : Operation) (notes : List ParamNote) : Option DocComment :=
  if x.settings.generateXmlDocComments then
    let summary := match o.summary.filter (· ≠ "") with
      | some s => some s
      | none => o.description
    let doc : DocComment :=
      ⟨summary, notes, o.response.map fun _ => "The deserialized response body."⟩
    if doc.isEmpty then none else some doc
  else none

/-- The attributes of a method: whether it is out of use, and its method of HTTP with its
path. -/
def methodAttributes (o : Operation) : List Attribute :=
  (if o.deprecated then [⟨"System.Obsolete", []⟩] else [])
    ++ [⟨o.verb.attribute?.getD "", [plainLiteral o.path]⟩]

/-- The method for an operation. -/
def method (x : Context) (name : String) (o : Operation) : Build MethodSig := do
  let (params, taken) ← methodParams x o.name [] (orderedParameters x o)
  let body ← bodyParam x taken o
  let taken := taken ++ body.map (·.name)
  let plain := params.map (·.1)
  let required := plain.filter (·.default.isNone)
  let optional := plain.filter (·.default.isSome)
  let doc := methodDoc x o (params.filterMap (·.2))
  return ⟨name, ← resultType x o, required ++ body ++ optional ++ tokenParam x taken,
    methodAttributes o, doc⟩

/-- The methods for some operations. -/
def methods (x : Context) (taken : List String) : List Operation → Build (List MethodSig)
  | [] => return []
  | o :: os => do
    let name := Naming.fresh taken o.name
    let m ← method x name o
    return m :: (← methods x (taken ++ [name]) os)

/-! ## The interface -/

/-- The comment of the interface: the description of the document. -/
def interfaceDoc (x : Context) : Option DocComment :=
  match x.document.description.filter (· ≠ "") with
  | some s => if x.settings.generateXmlDocComments then some { summary := some s } else none
  | none => none

/-- The interface of a document. -/
def interfaceDecl (x : Context) : Build InterfaceDecl := do
  let operations ← liftFault x.operations
  let ms ← methods x [] operations
  return ⟨interfaceName x, x.settings.accessibility.keyword,
    [⟨generatedCodeName, generatedCodeArguments⟩], ms, interfaceDoc x⟩

/-- The text of an interface, as it stands in its namespace. -/
def renderInterface (i : InterfaceDecl) : String := indent 1 i.render

end OpenApiClient.Generate
