/-
Code for documents that say the same.

Two documents are twins if they are equal up to twins among their schemas.  Contracts and
interface are gone through once more, this time for both documents at once: from ledgers of twins
every step gives the same declaration and leads to ledgers of twins.  So the same file is
generated for both, or none.
-/
import OpenApiClient.Generate.Client
import OpenApiClient.Proofs.Emission
import OpenApiClient.Proofs.TwinTypes

set_option autoImplicit false

namespace OpenApiClient

open Value (Twin TwinMembers)
open Schema (TwinNamed Matching)

/-! ## Documents -/

/-- Parameters of which the schemas are twins, and everything else is equal. -/
structure Parameter.Twins (ν : Nat → Nat → Prop) (p p' : Parameter) : Prop where
  name : p.name = p'.name
  location : p.location = p'.location
  required : p.required = p'.required
  description : p.description = p'.description
  schema : Twin ν .schema p.schema p'.schema

/-- Operations of which the schemas are twins, and everything else is equal. -/
structure Operation.Twins (ν : Nat → Nat → Prop) (o o' : Operation) : Prop where
  verb : o.verb = o'.verb
  path : o.path = o'.path
  operationId : o.operationId = o'.operationId
  summary : o.summary = o'.summary
  description : o.description = o'.description
  deprecated : o.deprecated = o'.deprecated
  tags : o.tags = o'.tags
  parameters : List.Forall₂ (Parameter.Twins ν) o.parameters o'.parameters
  requestBody : Option.Rel (Twin ν .schema) o.requestBody o'.requestBody
  response : Option.Rel (Twin ν .schema) o.response o'.response

/-- Documents of which the schemas are twins.  The version of the format may differ, since the
code does not depend on it. -/
structure Document.Twins (ν : Nat → Nat → Prop) (d d' : Document) : Prop where
  title : d.title = d'.title
  description : d.description = d'.description
  operations : List.Forall₂ (Operation.Twins ν) d.operations d'.operations
  schemas : List.Forall₂ (TwinNamed ν) d.schemas d'.schemas

namespace Generate

open CSharp
open Schema

/-- What runs for twins work with. -/
structure Context.Twins (ν : Nat → Nat → Prop) (x x' : Context) : Prop where
  settings : x.settings = x'.settings
  document : x.document.Twins ν x'.document
  catalogue : x.catalogue.Twins ν x'.catalogue

section Contracts

variable {ν : Nat → Nat → Prop} {x x' : Context} {v w : Value}

/-! ## Enumerations -/

theorem schemaDoc_eq (hx : x.Twins ν x') (h : Twin ν .schema v w) :
    schemaDoc x v = schemaDoc x' w := by
  have hdescription : Twin ν .plain _ _ := h.memberOrNull "description"
  unfold schemaDoc
  simp only [hx.settings, hdescription.isGiven_eq (by decide), hdescription.text_eq]

theorem integerMember_eq (taken : List String) (typeName : String) (h : Twin ν .plain v w) :
    integerMember taken typeName v = integerMember taken typeName w := by
  unfold integerMember
  have hliteral := h.literal_eq
  rw [h.isWritable_eq]
  cases h with
  | scalar _ s => rfl
  | _ => simp only [hliteral]

theorem enumMembers_eq (isText : Bool) (typeName : String) (taken : List String) (order : Nat)
    {vs ws : List Value} (h : List.Forall₂ (Twin ν .plain) vs ws) :
    enumMembers isText typeName taken order vs = enumMembers isText typeName taken order ws := by
  induction h generalizing taken order with
  | nil => rfl
  | cons hv _ ih =>
    rw [enumMembers, enumMembers]
    simp only [hv.isNull_eq, enumMember, textMember, hv.isWritable_eq, hv.display_eq,
      integerMember_eq _ _ hv, ih]

theorem concur_listedValues (h : Twin ν .schema v w) :
    Concur (List.Forall₂ (Twin ν .plain)) (listedValues v) (listedValues w) := by
  have henum : Option.Rel (Twin ν .plain) _ _ := h.member? "enum"
  unfold listedValues
  generalize v.member? "enum" = x at henum ⊢
  generalize w.member? "enum" = y at henum ⊢
  cases henum with
  | some h => exact h.parts (by decide)
  | none => exact .ok .nil

theorem tally_enumDecl (hx : x.Twins ν x') (typeName : String) (h : Twin ν .schema v w) :
    BuildTally ν Eq (enumDecl x typeName v) (enumDecl x' typeName w) := by
  have hself {α : Type} {m : Build α} (hm : Asks x.catalogue (fun _ _ => False) m) :
      BuildTally ν Eq m m := tally_of_asks hm
  unfold enumDecl converterAttributes
  simp only [hx.settings, h.hasNoType_eq, h.hasType_eq, schemaDoc_eq hx h]
  refine (hself (asks_qualifiedAttribute _ _)).bind fun generated _ hgenerated => ?_
  refine BuildTally.bind (R := Eq) ?_ fun converter _ hconverter => ?_
  · split
    · exact (hself (asks_qualifiedAttribute _ _)).bind fun _ _ hmark =>
        BuildTally.pure (congrArg (fun a => [a]) hmark)
    · exact BuildTally.pure rfl
  refine (BuildTally.liftShape (concur_listedValues h)).bind fun vs ws hvs => ?_
  rw [enumMembers_eq _ _ _ _ hvs]
  refine (hself (asks_enumMembers _ _ _ _ ws)).bind fun members _ hmembers => ?_
  refine (tally_of_asks (asks_schemaDoc w)).bind fun doc _ hdoc => ?_
  rw [hgenerated, hconverter, hmembers, hdoc]
  exact BuildTally.pure rfl

/-! ## Classes -/

/-- What classes are made from, when they are made from twins. -/
structure ClassParts.Twins (ν : Nat → Nat → Prop) (parts parts' : ClassParts) : Prop where
  bases : parts.bases = parts'.bases
  properties : TwinMembers ν .table parts.properties parts'.properties
  required : parts.required = parts'.required

theorem listedKey?_eq (h : Twin ν .plain v w) : listedKey? v = listedKey? w := by
  cases h with
  | pair hk hv =>
    cases hk with
    | scalar _ k => cases hv <;> rfl
    | _ => rfl
  | _ => rfl

theorem concur_requiredKeys {x y : Option Value} (h : Option.Rel (Twin ν .plain) x y) :
    Concur Eq (requiredKeys x) (requiredKeys y) := by
  have hgiven := Value.rel_filter_isGiven (by decide) h
  unfold requiredKeys
  generalize x.filter _ = x at hgiven ⊢
  generalize y.filter _ = y at hgiven ⊢
  cases hgiven with
  | none => exact .ok rfl
  | some h =>
    refine (h.parts (by decide)).bind fun vs ws hvs => ?_
    refine (Concur.mapM hvs fun u u' hu => Concur.of_eq (listedKey?_eq hu)).bind
      fun ks ks' hks => .ok ?_
    rw [List.forall₂_eq_eq_eq] at hks
    rw [hks]

theorem concur_add {parts parts' : ClassParts} (hparts : parts.Twins ν parts')
    (h : Twin ν .schema v w) :
    Concur (ClassParts.Twins ν) (parts.add v) (parts'.add w) := by
  unfold ClassParts.add
  rw [h.isObject_eq]
  cases w.isObject with
  | false => exact .fault _ _
  | true =>
    refine (Value.rel_membersOrNone (h.member? "properties")).bind fun ms ns hms => ?_
    refine (concur_requiredKeys (h.member? "required")).bind fun ks ks' hks => .ok ?_
    exact ⟨hparts.bases, hparts.properties.update hms, by rw [hparts.required, hks]⟩

theorem concur_partReference (h : Twin ν .schema v w) :
    Concur (Option.Rel (Twin ν .reference)) (partReference v) (partReference w) := by
  -- in what is no object a reference may be found, but then it cannot be taken out
  have hunless {b b' : Bool} (hb : b = b') :
      Concur (Option.Rel (Twin ν .reference))
        (if b then .error .wrongKind else .ok none : Except ShapeFault _)
        (if b' then .error .wrongKind else .ok none : Except ShapeFault _) := by
    subst hb
    cases b with
    | true => exact .fault _ _
    | false => exact .ok .none
  cases h with
  | object _ h => exact .ok (h.getText? "$ref")
  | list h =>
    refine hunless ?_
    have hitems := h.forall₂
    clear h
    induction hitems with
    | nil => rfl
    | cons hv _ ih => rw [List.any_cons, List.any_cons, hv.text?_eq (by decide), ih]
  | pair hk hv =>
    refine hunless ?_
    simp only [List.any_cons, hk.text?_eq (by decide), hv.text?_eq (by decide)]
  | set _ ks => exact hunless rfl
  | scalar _ s =>
    cases s with
    | text s => exact hunless rfl
    | _ => exact .fault _ _
  | again _ n => exact .fault _ _

/-- A part of a composition adds the same to what classes are made from. -/
theorem concur_addPart (hν : Matching ν) (hx : x.Twins ν x') {parts parts' : ClassParts}
    (hparts : parts.Twins ν parts') (h : Twin ν .schema v w) :
    Concur (ClassParts.Twins ν) (addPart x.catalogue parts v) (addPart x'.catalogue parts' w) := by
  refine (concur_partReference h).mapError.bind fun a b hab => ?_
  cases hab with
  | none => exact (concur_add hparts h).mapError
  | some href =>
    refine (concur_refText href).bind fun s t hst => ?_
    rw [hparts.bases]
    cases parts'.bases.isEmpty with
    | true =>
      refine (hx.catalogue.refName hst).bind fun name name' hname => .ok ?_
      exact ⟨congrArg (fun n => [n]) hname, hparts.properties, hparts.required⟩
    | false => exact (concur_add hparts (hx.catalogue.refSchema hν hst)).mapError

theorem concur_compositionParts (h : Twin ν .schema v w) :
    Concur (List.Forall₂ (Twin ν .schema)) (compositionParts v) (compositionParts w) := by
  have hgiven : Option.Rel (Twin ν .parts) _ _ :=
    Value.rel_filter_isGiven (by decide) (h.member? "allOf")
  unfold compositionParts
  generalize (v.member? "allOf").filter _ = a at hgiven ⊢
  generalize (w.member? "allOf").filter _ = b at hgiven ⊢
  cases hgiven with
  | none => exact .ok .nil
  | some h => exact h.parts (by decide)

theorem tally_arrayBases (hν : Matching ν) (hx : x.Twins ν x') (typeName : String)
    (h : Twin ν .schema v w) :
    BuildTally ν Eq (arrayBases x typeName v) (arrayBases x' typeName w) := by
  have htype : Twin ν .plain _ _ := h.memberOrNull "type"
  unfold arrayBases
  rw [htype.text?_eq (by decide)]
  split
  · refine (tally_resolve hν hx.catalogue _ _ (h.memberOrNull "items")).bind
      fun item item' hitem => ?_
    refine (tally_useNamespace _).bind fun name name' hname => BuildTally.pure ?_
    rw [hitem, hname]
  · exact BuildTally.pure rfl

theorem tally_classParts (hν : Matching ν) (hx : x.Twins ν x') (typeName : String)
    (h : Twin ν .schema v w) :
    BuildTally ν (ClassParts.Twins ν) (classParts x typeName v) (classParts x' typeName w) := by
  have hempty : ClassParts.Twins ν {} {} := ⟨rfl, .nil _, rfl⟩
  refine (BuildTally.liftShape (concur_add hempty h)).bind fun own own' hown => ?_
  refine (tally_arrayBases hν hx typeName h).bind fun bases bases' hbases => ?_
  refine (BuildTally.liftShape (concur_compositionParts h)).bind fun ps ps' hps => ?_
  refine BuildTally.liftFault (Concur.foldlM hps ?_ fun _ _ _ _ hparts hp =>
    concur_addPart hν hx hparts hp)
  exact ⟨hbases, hown.properties, hown.required⟩

/-! ## Properties -/

theorem propertyDoc_eq (hx : x.Twins ν x') (h : Twin ν .schema v w) :
    propertyDoc x v = propertyDoc x' w := by
  unfold propertyDoc
  rw [h.isObject_eq, schemaDoc_eq hx h]

theorem tally_classProperty (hν : Matching ν) (hx : x.Twins ν x') (typeName : String)
    (required : List Scalar) (taken : List String) (key : Scalar) (h : Twin ν .schema v w) :
    BuildTally ν Eq (classProperty x typeName required taken key v)
      (classProperty x' typeName required taken key w) := by
  unfold classProperty
  refine (BuildTally.liftShape (.of_eq rfl)).bind fun wanted wanted' hwanted => ?_
  subst hwanted
  refine (tally_resolve hν hx.catalogue _ _ h).bind fun type type' htype => ?_
  refine (tally_of_asks (asks_qualifiedAttribute (x := x) _ _)).bind fun mark mark' hmark => ?_
  rw [← propertyDoc_eq hx h]
  refine (tally_of_asks (asks_propertyDoc v)).bind fun doc doc' hdoc => BuildTally.pure ?_
  rw [htype, hmark, hdoc]

theorem tally_classProperties (hν : Matching ν) (hx : x.Twins ν x') (typeName : String)
    (required : List Scalar) (taken : List String) {ms ns : Members}
    (h : TwinMembers ν .table ms ns) :
    BuildTally ν Eq (classProperties x typeName required taken ms)
      (classProperties x' typeName required taken ns) := by
  induction ms generalizing taken ns with
  | nil =>
    cases h
    exact BuildTally.pure rfl
  | cons m ms ih =>
    cases h with
    | cons hv h =>
      rw [classProperties, classProperties]
      refine (tally_classProperty hν hx typeName required taken _ hv).bind fun p p' hp => ?_
      subst hp
      refine (ih _ h).bind fun ps ps' hps => BuildTally.pure ?_
      rw [hps]

/-- Twins are declared by the same class. -/
theorem tally_classDecl (hν : Matching ν) (hx : x.Twins ν x') (typeName : String)
    (h : Twin ν .schema v w) :
    BuildTally ν Eq (classDecl x typeName v) (classDecl x' typeName w) := by
  unfold classDecl
  refine (tally_classParts hν hx typeName h).bind fun parts parts' hparts => ?_
  rw [← hparts.required]
  refine (tally_classProperties hν hx typeName _ _ hparts.properties).bind
    fun properties properties' hproperties => ?_
  refine (tally_of_asks (asks_qualifiedAttribute (x := x) _ _)).bind
    fun generated generated' hgenerated => ?_
  rw [← schemaDoc_eq hx h]
  refine (tally_of_asks (asks_schemaDoc v)).bind fun doc doc' hdoc => BuildTally.pure ?_
  rw [hx.settings, hparts.bases, hproperties, hgenerated, hdoc]

/-! ## All contracts -/

theorem tally_contract (hν : Matching ν) (hx : x.Twins ν x') (typeName : String)
    (h : Twin ν .schema v w) :
    BuildTally ν Eq (contract x typeName v) (contract x' typeName w) := by
  unfold contract
  rw [h.isEnumSchema_eq]
  split
  · exact (tally_enumDecl hx typeName h).bind fun e e' he => BuildTally.pure (congrArg _ he)
  · exact (tally_classDecl hν hx typeName h).bind fun d d' hd => BuildTally.pure (congrArg _ hd)

theorem tally_namedContracts (hν : Matching ν) (hx : x.Twins ν x')
    {es es' : List (String × Value)} (h : List.Forall₂ (TwinNamed ν) es es') :
    BuildTally ν Eq (namedContracts x es) (namedContracts x' es') := by
  induction h with
  | nil => exact BuildTally.pure rfl
  | @cons e e' es es' he _ ih =>
    obtain ⟨name, v⟩ := e
    obtain ⟨name', w⟩ := e'
    obtain ⟨rfl, hv⟩ : name = name' ∧ Twin ν .schema v w := he
    have htypeName : x.catalogue.typeName name = x'.catalogue.typeName name := by
      unfold Catalogue.typeName
      rw [hx.catalogue.typeNames]
    rw [namedContracts, namedContracts, hv.isDeclared_eq, htypeName]
    split
    · refine (tally_contract hν hx _ hv).bind fun c c' hc => ?_
      refine ih.bind fun cs cs' hcs => BuildTally.pure ?_
      rw [hc, hcs]
    · exact ih

theorem tally_register (hν : Matching ν) (hx : x.Twins ν x') {es es' : List (String × Value)}
    (h : List.Forall₂ (TwinNamed ν) es es') :
    BuildTally ν Eq (register x es) (register x' es') := by
  induction h with
  | nil => exact BuildTally.pure rfl
  | @cons e e' es es' he _ ih =>
    obtain ⟨owner, v⟩ := e
    obtain ⟨owner', w⟩ := e'
    obtain ⟨rfl, hv⟩ : owner = owner' ∧ Twin ν .schema v w := he
    rw [register, register]
    exact (tally_resolve hν hx.catalogue owner false hv).bind fun _ _ _ => ih

theorem tally_inlineContracts (hν : Matching ν) (hx : x.Twins ν x') (fuel index : Nat) :
    BuildTally ν Eq (inlineContracts x fuel index) (inlineContracts x' fuel index) := by
  induction fuel generalizing index with
  | zero => exact BuildTally.pure rfl
  | succ fuel ih =>
    rw [inlineContracts, inlineContracts]
    refine BuildTally.get.bind fun l l' hl => ?_
    have hentry := rel_getElem? hl.inlined index
    generalize l.inlined[index]? = a at hentry ⊢
    generalize l'.inlined[index]? = b at hentry ⊢
    cases hentry with
    | none => exact BuildTally.pure rfl
    | @some e e' he =>
      obtain ⟨name, v⟩ := e
      obtain ⟨name', w⟩ := e'
      obtain ⟨rfl, hv⟩ : name = name' ∧ Twin ν .schema v w := he
      refine (tally_contract hν hx name hv).bind fun c c' hc => ?_
      refine (ih (index + 1)).bind fun cs cs' hcs => BuildTally.pure ?_
      rw [hc, hcs]

/-! ## Operations -/

theorem name_eq {o o' : Operation} (h : o.Twins ν o') : o.name = o'.name := by
  unfold Operation.name Operation.pathName
  rw [h.operationId, h.verb, h.path]

/-- The schemas of twins are asked for in the same order and for the same owners. -/
theorem twins_ownedSchemas {o o' : Operation} (h : o.Twins ν o') :
    List.Forall₂ (TwinNamed ν) (ownedSchemas o) (ownedSchemas o') := by
  have htoList {owner : String} {a b : Option Value} (hab : Option.Rel (Twin ν .schema) a b) :
      List.Forall₂ (TwinNamed ν) (a.toList.map fun v => (owner, v))
        (b.toList.map fun v => (owner, v)) := by
    cases hab with
    | none => exact .nil
    | some h => exact .cons ⟨rfl, h⟩ .nil
  unfold ownedSchemas
  rw [name_eq h]
  refine List.rel_append (List.rel_append ?_ (htoList h.requestBody)) (htoList h.response)
  rw [List.forall₂_map_left_iff, List.forall₂_map_right_iff]
  exact h.parameters.imp fun p p' hp => ⟨by rw [hp.name], hp.schema⟩

theorem twins_flatMap_ownedSchemas {os os' : List Operation}
    (h : List.Forall₂ (Operation.Twins ν) os os') :
    List.Forall₂ (TwinNamed ν) (os.flatMap ownedSchemas) (os'.flatMap ownedSchemas) :=
  List.rel_flatMap h fun _ _ ho => twins_ownedSchemas ho

/-- Code is generated for the same operations. -/
theorem concur_operations (hx : x.Twins ν x') :
    Concur (List.Forall₂ (Operation.Twins ν)) x.operations x'.operations := by
  refine Concur.mapError ?_
  unfold Document.selected
  rw [hx.settings]
  refine (Concur.of_eq rfl).bind fun patterns patterns' hpatterns => .ok ?_
  subst hpatterns
  refine rel_filter_of_eq hx.document.operations fun o o' ho => ?_
  unfold Operation.hasWantedTag Operation.hasWantedPath
  rw [ho.verb, ho.tags, ho.path]

theorem countObjects_eq {es es' : List (String × Value)}
    (h : List.Forall₂ (TwinNamed ν) es es') :
    Value.countObjectsInItems (es.map (·.2)) = Value.countObjectsInItems (es'.map (·.2)) := by
  induction h with
  | nil => rfl
  | cons he _ ih => exact congrArg₂ (· + ·) he.2.countObjects_eq ih

/-- Twins have the same contracts. -/
theorem tally_contracts (hν : Matching ν) (hx : x.Twins ν x') :
    BuildTally ν Eq (contracts x) (contracts x') := by
  have hobjects : x.objects = x'.objects := by
    unfold Context.objects
    rw [hx.catalogue.size,
      countObjects_eq (twins_flatMap_ownedSchemas hx.document.operations)]
  unfold contracts
  rw [hobjects]
  refine (tally_namedContracts hν hx hx.document.schemas).bind fun named named' hnamed => ?_
  refine (BuildTally.liftFault (concur_operations hx)).bind fun os os' hos => ?_
  refine (tally_register hν hx (twins_flatMap_ownedSchemas hos)).bind fun _ _ _ => ?_
  refine (tally_inlineContracts hν hx _ 0).bind fun inline inline' hinline => BuildTally.pure ?_
  rw [hnamed, hinline]

/-! ## The interface -/

/-- Parameters of one channel that are twins. -/
def TwinParameter (ν : Nat → Nat → Prop) (e e' : Channel × Parameter) : Prop :=
  e.1 = e'.1 ∧ e.2.Twins ν e'.2

theorem twins_orderedParameters (hx : x.Twins ν x') {o o' : Operation} (h : o.Twins ν o') :
    List.Forall₂ (TwinParameter ν) (orderedParameters x o) (orderedParameters x' o') := by
  have hof (channel : Channel) : List.Forall₂ (TwinParameter ν)
      ((parametersOf o channel).map (channel, ·)) ((parametersOf o' channel).map (channel, ·)) := by
    rw [List.forall₂_map_left_iff, List.forall₂_map_right_iff]
    refine (rel_filter_of_eq h.parameters fun p p' hp => ?_).imp fun p p' hp => ⟨rfl, hp⟩
    rw [hp.location]
  unfold orderedParameters
  rw [hx.settings]
  refine List.rel_append (List.rel_append (hof .path) (hof .query)) ?_
  by_cases hheaders : x'.settings.generateOperationHeaders
  · simp only [hheaders, if_true]
    exact hof .header
  · simp only [hheaders]
    exact .nil

theorem tally_methodParam (hν : Matching ν) (hx : x.Twins ν x') (owner name : String)
    (channel : Channel) {p p' : Parameter} (hp : p.Twins ν p') :
    BuildTally ν Eq (methodParam x owner name channel p)
      (methodParam x' owner name channel p') := by
  have hoptional : isOptional channel p = isOptional channel p' := by
    rw [isOptional, isOptional, hp.required]
  have hattributes : channelAttributes x channel p = channelAttributes x' channel p' := by
    unfold channelAttributes
    rw [hx.settings, hp.name, hp.schema.format?_eq]
  have halias : aliasAttributes channel name p = aliasAttributes channel name p' := by
    rw [aliasAttributes, aliasAttributes, hp.name]
  unfold methodParam
  rw [hp.name, hoptional, hattributes, halias]
  refine (tally_resolve hν hx.catalogue _ _ hp.schema).bind fun type type' htype => ?_
  rw [htype]
  exact BuildTally.pure rfl

theorem tally_methodParams (hν : Matching ν) (hx : x.Twins ν x') (owner : String)
    (taken : List String) {ps ps' : List (Channel × Parameter)}
    (h : List.Forall₂ (TwinParameter ν) ps ps') :
    BuildTally ν Eq (methodParams x owner taken ps) (methodParams x' owner taken ps') := by
  induction h generalizing taken with
  | nil => exact BuildTally.pure rfl
  | @cons e e' ps ps' he _ ih =>
    obtain ⟨channel, p⟩ := e
    obtain ⟨channel', p'⟩ := e'
    obtain ⟨rfl, hp⟩ : channel = channel' ∧ p.Twins ν p' := he
    have hname : parameterName taken p = parameterName taken p' := by
      rw [parameterName, parameterName, hp.name]
    have hnote (name : String) : paramNote? name p = paramNote? name p' := by
      rw [paramNote?, paramNote?, hp.description]
    rw [methodParams, methodParams]
    simp only [hname, hnote]
    refine (tally_methodParam hν hx owner _ channel hp).bind fun m m' hm => ?_
    refine (ih _).bind fun r r' hr => BuildTally.pure ?_
    rw [hm, hr]

theorem tally_resultType (hν : Matching ν) (hx : x.Twins ν x') {o o' : Operation}
    (h : o.Twins ν o') : BuildTally ν Eq (resultType x o) (resultType x' o') := by
  have hresponse := h.response
  unfold resultType
  rw [hx.settings, name_eq h]
  generalize o.response = a at hresponse ⊢
  generalize o'.response = b at hresponse ⊢
  cases hresponse with
  | none => exact BuildTally.pure rfl
  | some hv =>
    refine (tally_resolve hν hx.catalogue _ _ hv).bind fun type type' htype => ?_
    rw [htype]
    exact BuildTally.pure rfl

theorem tally_bodyParam (hν : Matching ν) (hx : x.Twins ν x') (taken : List String)
    {o o' : Operation} (h : o.Twins ν o') :
    BuildTally ν Eq (bodyParam x taken o) (bodyParam x' taken o') := by
  have hbody := h.requestBody
  unfold bodyParam
  rw [name_eq h]
  generalize o.requestBody = a at hbody ⊢
  generalize o'.requestBody = b at hbody ⊢
  cases hbody with
  | none => exact BuildTally.pure rfl
  | some hv =>
    refine (tally_resolve hν hx.catalogue _ _ hv).bind fun type type' htype => ?_
    rw [htype]
    exact BuildTally.pure rfl

/-- Twins have the same method. -/
theorem tally_method (hν : Matching ν) (hx : x.Twins ν x') (name : String) {o o' : Operation}
    (h : o.Twins ν o') : BuildTally ν Eq (method x name o) (method x' name o') := by
  have hresponse : (o.response.map fun _ => "The deserialized response body.")
      = o'.response.map fun _ => "The deserialized response body." := by
    have hresponse := h.response
    generalize o.response = a at hresponse ⊢
    generalize o'.response = b at hresponse ⊢
    cases hresponse <;> rfl
  have hdoc (notes : List ParamNote) : methodDoc x o notes = methodDoc x' o' notes := by
    unfold methodDoc
    rw [hx.settings, h.summary, h.description, hresponse]
  have hattributes : methodAttributes o = methodAttributes o' := by
    unfold methodAttributes
    rw [h.deprecated, h.verb, h.path]
  have htoken (taken : List String) : tokenParam x taken = tokenParam x' taken := by
    unfold tokenParam
    rw [hx.settings]
  -- the operations differ in their schemas only, and a schema comes in by its type
  unfold method
  simp only [name_eq h, hdoc, hattributes, htoken]
  refine (tally_methodParams hν hx _ _ (twins_orderedParameters hx h)).bind fun r r' hr => ?_
  subst hr
  refine (tally_bodyParam hν hx _ h).bind fun body body' hbody => ?_
  subst hbody
  refine (tally_resultType hν hx h).bind fun result result' hresult => BuildTally.pure ?_
  rw [hresult]

theorem tally_methods (hν : Matching ν) (hx : x.Twins ν x') (taken : List String)
    {os os' : List Operation} (h : List.Forall₂ (Operation.Twins ν) os os') :
    BuildTally ν Eq (methods x taken os) (methods x' taken os') := by
  induction h generalizing taken with
  | nil => exact BuildTally.pure rfl
  | cons ho _ ih =>
    rw [methods, methods, name_eq ho]
    refine (tally_method hν hx _ ho).bind fun m m' hm => ?_
    refine (ih _).bind fun ms ms' hms => BuildTally.pure ?_
    rw [hm, hms]

theorem tally_interfaceDecl (hν : Matching ν) (hx : x.Twins ν x') :
    BuildTally ν Eq (interfaceDecl x) (interfaceDecl x') := by
  have hname : interfaceName x = interfaceName x' := by
    unfold interfaceName
    rw [hx.settings, hx.document.title]
  have hdoc : interfaceDoc x = interfaceDoc x' := by
    unfold interfaceDoc
    rw [hx.settings, hx.document.description]
  unfold interfaceDecl
  rw [hname, hdoc, hx.settings]
  refine (BuildTally.liftFault (concur_operations hx)).bind fun os os' hos => ?_
  refine (tally_methods hν hx [] hos).bind fun ms ms' hms => BuildTally.pure ?_
  rw [hms]

end Contracts

/-! ## The file -/

theorem Context.twins_of {ν : Nat → Nat → Prop} (s : Settings) {d d' : Document}
    (h : d.Twins ν d') : (Context.of s d).Twins ν (Context.of s d') := by
  refine ⟨rfl, h, ⟨h.schemas, ?_, countObjects_eq h.schemas⟩⟩
  change (d.schemas.map (·.1)).zip _ = (d'.schemas.map (·.1)).zip _
  rw [map_fst_eq h.schemas]

/-- The same file is generated for twins, or none. -/
theorem concur_client {ν : Nat → Nat → Prop} (hν : Matching ν) (s : Settings) {d d' : Document}
    (h : d.Twins ν d') : Concur Eq (client s d) (client s d') := by
  have hx := Context.twins_of s h
  have hempty : Ledger.Twins ν {} {} := ⟨rfl, .nil, rfl⟩
  have hparts : BuildTally ν Eq (parts (.of s d)) (parts (.of s d')) := by
    refine (tally_contracts hν hx).bind fun cs cs' hcs => ?_
    refine (tally_interfaceDecl hν hx).bind fun i i' hi => BuildTally.pure ?_
    rw [hcs, hi]
  -- the ledger is given up when the run is over
  have hrun : Concur Eq ((parts (.of s d)).run.run {}).1 ((parts (.of s d')).run.run {}).1 := by
    have hsteps := hparts {} {} hempty
    unfold StateT.run Build.steps at hsteps
    generalize (parts (.of s d)).run.run {} = r at hsteps ⊢
    generalize (parts (.of s d')).run.run {} = r' at hsteps ⊢
    obtain ⟨x, l⟩ := r
    obtain ⟨x', l'⟩ := r'
    cases x <;> cases x' <;> cases hsteps
    · exact .fault _ _
    · rename_i h
      exact .ok h.1
  unfold client
  refine hrun.bind fun p p' hp => ?_
  rw [hp]
  exact .of_eq rfl

end Generate

end OpenApiClient
