/-
What is looked at while types and methods are written.

A run knows all settings and the whole document, but most of it is looked at in one place only:
the switches when the file is put together, the filters when the operations are chosen, the
operations when they are gone through.  What writes a single type or a single method looks at
the catalogue of the schemas and at six of the settings, and two runs that have these in common
write the same.  Of the catalogue it is enough that all questions have the same answers, of which
there are four kinds.

`AnswersLike` names the four and `Context.WritesLike` the six.  A function that begins to look at
more breaks its own equation below, and no other.
-/
import OpenApiClient.Generate.Client

set_option autoImplicit false

namespace OpenApiClient.Generate

open CSharp
open Schema

/-- Two catalogues give the same answers to all that is asked of them while types and methods are
written. -/
structure AnswersLike (c c' : Catalogue) : Prop where
  types : resolve c = resolve c'
  parts : addPart c = addPart c'
  names : c.typeName = c'.typeName
  size : c.size = c'.size

theorem AnswersLike.refl (c : Catalogue) : AnswersLike c c := ⟨rfl, rfl, rfl, rfl⟩

/-- Two runs have in common what is looked at while types and methods are written. -/
structure Context.WritesLike (x y : Context) : Prop where
  catalogue : AnswersLike x.catalogue y.catalogue
  accessibility : x.settings.accessibility = y.settings.accessibility
  comments : x.settings.generateXmlDocComments = y.settings.generateXmlDocComments
  responses : x.settings.returnApiResponse = y.settings.returnApiResponse
  headers : x.settings.generateOperationHeaders = y.settings.generateOperationHeaders
  tokens : x.settings.useCancellationTokens = y.settings.useCancellationTokens
  days : x.settings.useIsoDateFormat = y.settings.useIsoDateFormat

namespace Context.WritesLike

variable {x y : Context}

/-! ## Types -/

theorem schemaDoc_eq (h : x.WritesLike y) : schemaDoc x = schemaDoc y := by
  funext schema
  unfold schemaDoc
  rw [h.comments]

theorem propertyDoc_eq (h : x.WritesLike y) : propertyDoc x = propertyDoc y := by
  funext schema
  unfold propertyDoc
  rw [h.schemaDoc_eq]

theorem enumDecl_eq (h : x.WritesLike y) : enumDecl x = enumDecl y := by
  funext typeName schema
  unfold enumDecl
  rw [h.schemaDoc_eq, h.accessibility]

theorem classParts_eq (h : x.WritesLike y) : classParts x = classParts y := by
  funext typeName schema
  unfold classParts arrayBases
  rw [h.catalogue.types, h.catalogue.parts]

theorem classProperty_eq (h : x.WritesLike y) : classProperty x = classProperty y := by
  funext typeName required taken key schema
  unfold classProperty
  rw [h.catalogue.types, h.propertyDoc_eq]

theorem classProperties_eq (h : x.WritesLike y) (typeName : String) (required : List Scalar)
    (taken : List String) (ms : Members) :
    classProperties x typeName required taken ms
      = classProperties y typeName required taken ms := by
  induction ms generalizing taken with
  | nil => rfl
  | cons m ms ih =>
    rw [classProperties, classProperties, h.classProperty_eq]
    simp only [ih]

theorem classDecl_eq (h : x.WritesLike y) : classDecl x = classDecl y := by
  funext typeName schema
  unfold classDecl
  simp only [h.classParts_eq, h.classProperties_eq, h.schemaDoc_eq, h.accessibility]

theorem contract_eq (h : x.WritesLike y) : contract x = contract y := by
  funext typeName schema
  unfold contract
  rw [h.enumDecl_eq, h.classDecl_eq]

theorem namedContracts_eq (h : x.WritesLike y) (schemas : List (String × Value)) :
    namedContracts x schemas = namedContracts y schemas := by
  induction schemas with
  | nil => rfl
  | cons e rest ih => rw [namedContracts, namedContracts, h.contract_eq, h.catalogue.names, ih]

theorem register_eq (h : x.WritesLike y) (owned : List (String × Value)) :
    register x owned = register y owned := by
  induction owned with
  | nil => rfl
  | cons e rest ih => rw [register, register, h.catalogue.types, ih]

theorem inlineContracts_eq (h : x.WritesLike y) (fuel index : Nat) :
    inlineContracts x fuel index = inlineContracts y fuel index := by
  induction fuel generalizing index with
  | zero => rfl
  | succ fuel ih =>
    rw [inlineContracts, inlineContracts, h.contract_eq]
    simp only [ih]

/-! ## Methods -/

theorem methodParam_eq (h : x.WritesLike y) : methodParam x = methodParam y := by
  funext owner name channel p
  unfold methodParam channelAttributes
  rw [h.catalogue.types, h.days]

theorem methodParams_eq (h : x.WritesLike y) (owner : String) (taken : List String)
    (ps : List (Channel × Parameter)) :
    methodParams x owner taken ps = methodParams y owner taken ps := by
  induction ps generalizing taken with
  | nil => rfl
  | cons e ps ih =>
    rw [methodParams, methodParams, h.methodParam_eq]
    simp only [ih]

theorem method_eq (h : x.WritesLike y) : method x = method y := by
  funext name o
  unfold method orderedParameters bodyParam tokenParam methodDoc resultType
  simp only [h.methodParams_eq, h.catalogue.types, h.comments, h.responses, h.headers, h.tokens]

theorem methods_eq (h : x.WritesLike y) (taken : List String) (os : List Operation) :
    methods x taken os = methods y taken os := by
  induction os generalizing taken with
  | nil => rfl
  | cons o os ih =>
    rw [methods, methods, h.method_eq]
    simp only [ih]

/-! ## Whole passes -/

/-- The contracts of one document are the same if the same operations are chosen. -/
theorem contracts_eq (h : x.WritesLike y) (hdocument : x.document = y.document)
    (hoperations : x.operations = y.operations) : contracts x = contracts y := by
  unfold contracts Context.objects
  simp only [h.namedContracts_eq, h.register_eq, h.inlineContracts_eq, h.catalogue.size, hdocument,
    hoperations]

/-- The interface is the same if the same operations are chosen, and it has the same name and
the same comment. -/
theorem interfaceDecl_eq (h : x.WritesLike y) (hoperations : x.operations = y.operations)
    (hname : interfaceName x = interfaceName y) (hdoc : interfaceDoc x = interfaceDoc y) :
    interfaceDecl x = interfaceDecl y := by
  unfold interfaceDecl
  simp only [h.methods_eq, h.accessibility, hoperations, hname, hdoc]

end Context.WritesLike

end OpenApiClient.Generate
