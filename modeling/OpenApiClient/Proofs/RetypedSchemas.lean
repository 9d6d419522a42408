/-
Named schemas in the other form.

When one named schema is written in the newer form, the catalogue changes in one place.  A reference
to that schema gives its name without a look at it, so all types are resolved as before
(`Catalogue.Retypes.resolve_eq`), and what is declared for it comes from members that are the same
in both forms, with one exception.  A class is derived from a collection if the member `type` is
the text `array`; a list is none, so the class of an array loses its base type.

`null_types_agree` puts this together with what is known of the types of such a schema.
-/
import OpenApiClient.Proofs.BaseTypes
import OpenApiClient.Proofs.NullTypes
import OpenApiClient.Proofs.Readings

set_option autoImplicit false

namespace OpenApiClient

namespace Schema

variable {c : Catalogue} {v : Value} {t : String} (number : Nat)

/-! ## Catalogues -/

theorem typeName_eq_of_typeNames {c' : Catalogue} (h : c'.typeNames = c.typeNames) :
    c'.typeName = c.typeName := by
  funext name
  unfold Catalogue.typeName
  rw [h]

/-- Two catalogues with the same names: what a reference leads to is the same in both, or it is
declared and has the newer form in the second one. -/
structure Catalogue.Retypes (c c' : Catalogue) : Prop where
  typeNames : c'.typeNames = c.typeNames
  size : c'.size = c.size
  known : ∀ name, (c'.schema? name).isSome = (c.schema? name).isSome
  target : ∀ ref, c'.refSchema ref = c.refSchema ref ∨
    ∃ t number, (c.refSchema ref).SaysNullable t ∧ (c.refSchema ref).isDeclared
      ∧ c'.refSchema ref = (c.refSchema ref).nullTyped number

namespace Catalogue.Retypes

variable {c' : Catalogue}

theorem typeName_eq (h : c.Retypes c') : c'.typeName = c.typeName :=
  typeName_eq_of_typeNames h.typeNames

theorem refName_eq (h : c.Retypes c') : c'.refName = c.refName := by
  funext ref
  unfold Catalogue.refName
  rw [h.typeName_eq]
  cases Catalogue.refTarget? ref with
  | none => rfl
  | some name =>
    dsimp only
    rw [h.known]

theorem isEnum_eq (h : c.Retypes c') : c'.isEnum = c.isEnum := by
  funext v
  unfold Catalogue.isEnum
  cases v.member? "$ref" with
  | none => rfl
  | some written =>
    refine congrArg (Catalogue.refText written >>= ·) (funext fun ref => ?_)
    rcases h.target ref with hsame | ⟨t, number, hstated, -, hnew⟩
    · rw [hsame]
    · rw [hnew, hstated.isEnumSchema_eq]

theorem referenceForm_eq (h : c.Retypes c') : referenceForm c' = referenceForm c := by
  funext written
  unfold referenceForm
  rw [h.refName_eq]
  refine congrArg (Catalogue.refText written >>= ·) (funext fun ref => ?_)
  dsimp only
  rcases h.target ref with hsame | ⟨t, number, hstated, hdeclared, hnew⟩
  · rw [hsame]
  · -- a schema that is declared is referred to by its name, and is not looked at
    have hobject : (Value.nullTyped number (c.refSchema ref)).isObject = true := rfl
    rw [hnew, hstated.isDeclared_eq, hdeclared, hstated.isObject, hobject]
    rfl

theorem typeWith_eq (h : c.Retypes c') (owner : String) (fuel : Nat) (v : Value) :
    typeWith c' owner fuel v = typeWith c owner fuel v := by
  have hform : form c' = form c := by
    funext v
    unfold form
    rw [h.referenceForm_eq]
  induction fuel generalizing v with
  | zero => rfl
  | succ fuel ih =>
    rw [typeWith, typeWith, hform]
    unfold inlineName
    simp only [ih, h.typeNames]

/-- Types are resolved in the same way. -/
theorem resolve_eq (h : c.Retypes c') : resolve c' = resolve c := by
  funext v owner nullable
  unfold resolve typeOf isMarked
  simp only [h.size, h.typeWith_eq, h.isEnum_eq]

end Catalogue.Retypes

/-! ### Changing one schema -/

/-- Named schemas, of which the one with a given name has the newer form. -/
def nullTypedAt (key : String) (number : Nat) (schemas : List (String × Value)) :
    List (String × Value) :=
  schemas.map fun e => (e.1, if e.1 = key then e.2.nullTyped number else e.2)

/-- What is known of the schemas under a name: they are declared, and say in the older form that
their values may be absent. -/
def DeclaresNullable (schemas : List (String × Value)) (key t : String) : Prop :=
  ∀ e ∈ schemas, e.1 = key → e.2.SaysNullable t ∧ e.2.isDeclared

section Change

variable {key t : String} {schemas : List (String × Value)}

theorem names_nullTypedAt : (nullTypedAt key number schemas).map (·.1) = schemas.map (·.1) := by
  unfold nullTypedAt
  rw [List.map_map]
  rfl

/-- The names of the types stay. -/
theorem typeNames_nullTypedAt :
    (Catalogue.ofSchemas (nullTypedAt key number schemas)).typeNames
      = (Catalogue.ofSchemas schemas).typeNames := by
  unfold Catalogue.ofSchemas
  rw [names_nullTypedAt]

theorem lookup_nullTypedAt (name : String) :
    (nullTypedAt key number schemas).lookup name
      = (schemas.lookup name).map fun v => if name = key then v.nullTyped number else v := by
  induction schemas with
  | nil => rfl
  | cons e rest ih =>
    unfold nullTypedAt at ih ⊢
    rw [List.map_cons, List.lookup_cons, List.lookup_cons]
    by_cases hk : name = e.1
    · rw [hk, beq_self_eq_true]
      rfl
    · rw [beq_eq_false_iff_ne.2 hk]
      exact ih

theorem countObjects_nullTypedAt (h : DeclaresNullable schemas key t) :
    Value.countObjectsInItems ((nullTypedAt key number schemas).map (·.2))
      = Value.countObjectsInItems (schemas.map (·.2)) := by
  induction schemas with
  | nil => rfl
  | cons e rest ih =>
    have hrest := ih fun e he => h e (List.mem_cons_of_mem _ he)
    unfold nullTypedAt at hrest ⊢
    rw [List.map_cons, List.map_cons, List.map_cons, Value.countObjectsInItems,
      Value.countObjectsInItems, hrest]
    by_cases hk : e.1 = key
    · rw [if_pos hk, (h e List.mem_cons_self hk).1.countObjects_eq number]
    · rw [if_neg hk]

theorem retypes_nullTypedAt (h : DeclaresNullable schemas key t) :
    (Catalogue.ofSchemas schemas).Retypes
      (Catalogue.ofSchemas (nullTypedAt key number schemas)) := by
  have hschema : ∀ name, (Catalogue.ofSchemas (nullTypedAt key number schemas)).schema? name
      = ((Catalogue.ofSchemas schemas).schema? name).map
          fun v => if name = key then v.nullTyped number else v := lookup_nullTypedAt number
  constructor
  case typeNames => exact typeNames_nullTypedAt number
  case size => exact countObjects_nullTypedAt number h
  case known =>
    intro name
    rw [hschema, Option.isSome_map]
  case target =>
    intro ref
    unfold Catalogue.refSchema
    cases Catalogue.refTarget? ref with
    | none => exact .inl rfl
    | some name =>
      rw [Option.bind_some, Option.bind_some, hschema]
      cases hv : (Catalogue.ofSchemas schemas).schema? name with
      | none => exact .inl rfl
      | some v =>
        rw [Option.map_some]
        -- only the schema with this key is written anew
        by_cases hk : name = key
        · obtain ⟨hstated, hdeclared⟩ := h _ (Catalogue.mem_of_schema? hv) hk
          rw [if_pos hk]
          exact .inr ⟨t, number, hstated, hdeclared, rfl⟩
        · rw [if_neg hk]
          exact .inl rfl

end Change

end Schema

/-! ## Declarations -/

namespace Generate

open CSharp
open Schema
open Value (member?_nullTyped memberOrNull_nullTyped)

variable {x : Context} {v : Value} {t : String} (number : Nat)

theorem add_nullTyped (h : v.SaysNullable t) (parts : ClassParts) :
    parts.add (v.nullTyped number) = parts.add v := by
  unfold ClassParts.add
  rw [member?_nullTyped number v (by decide) (by decide),
    member?_nullTyped number v (by decide) (by decide), h.isObject]
  rfl

theorem compositionParts_nullTyped (v : Value) :
    compositionParts (v.nullTyped number) = compositionParts v := by
  unfold compositionParts
  rw [member?_nullTyped number v (by decide) (by decide)]

theorem schemaDoc_nullTyped (v : Value) : schemaDoc x (v.nullTyped number) = schemaDoc x v := by
  unfold schemaDoc
  rw [memberOrNull_nullTyped number v (by decide) (by decide)]

/-- Catalogues of which one has a schema in the newer form answer alike. -/
theorem answersLike_of_retypes {c c' : Catalogue} (h : c.Retypes c') : AnswersLike c' c := by
  refine ⟨h.resolve_eq, ?_, h.typeName_eq, h.size⟩
  funext parts part
  unfold addPart
  refine congrArg (_ >>= ·) (funext fun reference => ?_)
  cases reference with
  | none => rfl
  | some written =>
    dsimp only
    refine congrArg (_ >>= ·) (funext fun ref => ?_)
    rw [h.refName_eq]
    rcases h.target ref with hsame | ⟨t, number, hstated, -, hnew⟩
    · rw [hsame]
    · rw [hnew, add_nullTyped number hstated]

theorem isArray_iff (h : v.SaysNullable t) : isArray v ↔ t = "array" := by
  unfold isArray
  rw [h.type]
  simp [Value.text?]

/-- A list of types is not the text that makes an array. -/
theorem not_isArray_nullTyped (h : v.SaysNullable t) : ¬ isArray (v.nullTyped number) := by
  have hlist : (v.nullTyped number).memberOrNull "type" = .list [.text t, .text "null"] := by
    unfold Value.memberOrNull
    rw [h.member_nullTyped_type, Option.getD_some]
  unfold isArray
  rw [hlist]
  exact Bool.false_ne_true

/-- What is declared for a schema is the same in both forms, unless it is an array. -/
theorem contract_nullTyped (h : v.SaysNullable t) (ht : t ≠ "array") (typeName : String) :
    contract x typeName (v.nullTyped number) = contract x typeName v := by
  have hbases : ∀ {w : Value}, ¬ isArray w → arrayBases x typeName w = pure [] :=
    fun hw => if_neg hw
  have hparts : classParts x typeName (v.nullTyped number) = classParts x typeName v := by
    unfold classParts
    rw [add_nullTyped number h, compositionParts_nullTyped, hbases (not_isArray_nullTyped number h),
      hbases fun ha => ht ((isArray_iff h).1 ha)]
  have hvalues : listedValues (v.nullTyped number) = listedValues v := by
    unfold listedValues
    rw [member?_nullTyped number v (by decide) (by decide)]
  unfold contract enumDecl classDecl
  rw [h.isEnumSchema_eq, h.hasNoType_eq, h.hasType_eq, hvalues, schemaDoc_nullTyped, hparts]

theorem namedContracts_nullTypedAt {key : String} {schemas : List (String × Value)}
    (h : DeclaresNullable schemas key t) (ht : t ≠ "array") :
    namedContracts x (nullTypedAt key number schemas) = namedContracts x schemas := by
  induction schemas with
  | nil => rfl
  | cons e rest ih =>
    have hrest := ih fun e he => h e (List.mem_cons_of_mem _ he)
    unfold nullTypedAt at hrest ⊢
    rw [List.map_cons, namedContracts, namedContracts, hrest]
    by_cases hk : e.1 = key
    · obtain ⟨hstated, hdeclared⟩ := h e List.mem_cons_self hk
      rw [if_pos hk, hstated.isDeclared_eq, contract_nullTyped number hstated ht]
    · rw [if_neg hk]

end Generate

/-- A document in which the schema with a given name has the newer form. -/
def Document.nullTypedAt (d : Document) (key : String) (number : Nat) : Document :=
  { d with
    schemas := Schema.nullTypedAt key number d.schemas
    distinct := by
      rw [Schema.names_nullTypedAt]
      exact d.distinct }

namespace Generate

open CSharp
open Schema

variable {s : Settings} {d : Document} {v : Value} {t key : String} (number : Nat)

/-- The same types are declared, unless the schema is an array. -/
theorem contracts_nullTypedAt (h : DeclaresNullable d.schemas key t) (ht : t ≠ "array") :
    contracts (.of s (d.nullTypedAt key number)) = contracts (.of s d) := by
  have hcatalogue := answersLike_of_retypes (retypes_nullTypedAt number h)
  have hwrites : (Context.of s (d.nullTypedAt key number)).WritesLike (.of s d) :=
    ⟨hcatalogue, rfl, rfl, rfl, rfl, rfl, rfl⟩
  have hobjects : (Context.of s (d.nullTypedAt key number)).objects = (Context.of s d).objects :=
    congrArg (· + _) hcatalogue.size
  have hoperations : (Context.of s (d.nullTypedAt key number)).operations
      = (Context.of s d).operations := rfl
  have hnamed : namedContracts (.of s d) (d.nullTypedAt key number).schemas
      = namedContracts (.of s d) d.schemas := namedContracts_nullTypedAt number h ht
  unfold contracts
  simp only [hwrites.namedContracts_eq, hwrites.register_eq, hwrites.inlineContracts_eq, hobjects,
    hoperations]
  exact congrArg (· >>= _) hnamed

/-- What a class that is no array is made from is read off the schema alone. -/
theorem classParts_unique {x : Context} {typeName : String} {parts parts' : ClassParts}
    {l l₁ k k₁ : Ledger} (ha : ¬ isArray v) (h : Returns (classParts x typeName v) l parts l₁)
    (h' : Returns (classParts x typeName v) k parts' k₁) : parts' = parts := by
  obtain ⟨own, bases, composed, hown, hbases, hcomposed, hfold⟩ := returns_classParts_iff.1 h
  obtain ⟨own', bases', composed', hown', hbases', hcomposed', hfold'⟩ :=
    returns_classParts_iff.1 h'
  have hnone : ∀ {bs k k'}, Returns (arrayBases x typeName v) k bs k' → bs = [] := by
    intro bs k k' hbs
    rcases returns_arrayBases hbs with ⟨harray, -⟩ | ⟨-, rfl⟩
    · exact absurd harray ha
    · rfl
  rw [hown] at hown'
  rw [hcomposed] at hcomposed'
  cases hown'
  cases hcomposed'
  rw [hnone hbases] at hfold
  rw [hnone hbases', hfold] at hfold'
  exact (Except.ok.inj hfold').symm

/-- A class with the name of a named schema is made from the parts of that schema. -/
theorem parts_of_name {cs : List Contract} {l : Ledger} {cl : ClassDecl}
    (h : Returns (contracts (.of s d)) {} cs l) (hv : (key, v) ∈ d.schemas)
    (hcl : .classDecl cl ∈ cs) (hname : cl.name = (Context.of s d).catalogue.typeName key) :
    v.isDeclared ∧ ∃ parts k k', Returns (classParts (.of s d) cl.name v) k parts k'
      ∧ cl.bases = parts.bases := by
  obtain ⟨hdeclared, hmade⟩ := madeFrom_of_name h hv hcl hname
  obtain ⟨-, k, k', hreturns⟩ := hmade.classDecl
  obtain ⟨parts, k₁, -, hparts, -, -, hbases⟩ := returns_classDecl hreturns
  rw [hname]
  exact ⟨hdeclared, parts, k, k₁, hparts, hbases⟩

theorem mem_nullTypedAt (hv : (key, v) ∈ d.schemas) :
    (key, v.nullTyped number) ∈ (d.nullTypedAt key number).schemas := by
  refine List.mem_map.2 ⟨(key, v), hv, ?_⟩
  rw [if_pos rfl]

theorem declaresNullable_of_mem (h : v.SaysNullable t) (hv : (key, v) ∈ d.schemas)
    (hdeclared : v.isDeclared) : DeclaresNullable d.schemas key t := by
  intro e he hkey
  have hsame : e = (key, v) := List.inj_on_of_nodup_map d.distinct he hv hkey
  rw [hsame]
  exact ⟨h, hdeclared⟩

/-- The base types of a named schema are the same in both forms exactly if it is no array. -/
theorem bases_nullTyped_iff (h : v.SaysNullable t) (hv : (key, v) ∈ d.schemas)
    {cs cs' : List Contract} {l l' : Ledger} (hcs : Returns (contracts (.of s d)) {} cs l)
    (hcs' : Returns (contracts (.of s (d.nullTypedAt key number))) {} cs' l')
    {cl cl' : ClassDecl} (hcl : .classDecl cl ∈ cs) (hcl' : .classDecl cl' ∈ cs')
    (hname : cl.name = (Context.of s d).catalogue.typeName key) (hname' : cl'.name = cl.name) :
    cl'.bases = cl.bases ↔ t ≠ "array" := by
  obtain ⟨hdeclared, parts, k, k₁, hparts, hbases⟩ := parts_of_name hcs hv hcl hname
  have hnullable := declaresNullable_of_mem h hv hdeclared
  constructor
  · rintro hsame rfl
    obtain ⟨base, hone, hcollection⟩ := bases_of_array hparts ((isArray_iff h).2 rfl)
    -- the base type of the newer form is the type of a named schema, and has no point
    have hretypes := retypes_nullTypedAt number hnullable
    have htype : cl'.name = (Context.of s (d.nullTypedAt key number)).catalogue.typeName key :=
      hname'.trans (hname.trans (congrFun hretypes.typeName_eq key).symm)
    obtain ⟨-, parts', k', k₁', hparts', hbases'⟩ :=
      parts_of_name hcs' (mem_nullTypedAt number hv) hcl' htype
    have hmem : base ∈ parts'.bases := by
      rw [← hbases', hsame, hbases, hone]
      exact List.mem_cons_self
    obtain ⟨part, -, e, -, -, hnamed⟩ := base_of_parts hparts' (not_isArray_nullTyped number h) hmem
    have hcapital := isCapital_typeName (d.nullTypedAt key number).schemas e.1
    exact hcapital.spelled.point_not_mem (hnamed ▸ hcollection.point_mem)
  · intro ht
    rw [contracts_nullTypedAt number hnullable ht] at hcs'
    obtain ⟨-, parts', k', k₁', hparts', hbases'⟩ :=
      parts_of_name hcs' hv hcl' (hname'.trans hname)
    rw [hname'] at hparts'
    have harray : ¬ isArray v := fun ha => ht ((isArray_iff h).1 ha)
    rw [hbases', hbases, classParts_unique harray hparts hparts']

/-- The two forms of a schema agree but for the mark and the collection.

Asking for the type, with any catalogue and any ledger that knows both objects or none, fails in
both forms with the same fault or in none.  The types are the same, and so are the names that are
entered; but the older form marks every type that can be marked, and the newer one only if that is
asked for.

A named schema is declared in both forms as a class, or in both as an enumeration.  The two
declarations have the same base types exactly if the schema is no array, and then whole runs are the
same. -/
theorem null_types_agree {v : Value} {t : String} (h : v.SaysNullable t) (number : Nat) :
    (∀ (c : Catalogue) (l : Ledger) (owner : String) (nullable : Bool),
      l.nameOf? (v.nullTyped number) = l.nameOf? v →
        (∀ e l', Fails (resolve c (v.nullTyped number) owner nullable) l e l'
            ↔ Fails (resolve c v owner nullable) l e l')
          ∧ ∀ u l₁, Returns (resolve c v owner nullable) l u l₁ →
            ∃ u' l₂, Returns (resolve c (v.nullTyped number) owner nullable) l u' l₂
              ∧ l₁.SameNames l₂ ∧ u'.type = u.type
              ∧ (u'.render = u.render
                ↔ nullable ∨ ¬ (u.type.render ∈ valueTypes ∨ c.isEnum v = .ok true)))
      ∧ ∀ (s : Settings) (d : Document) (key : String), (key, v) ∈ d.schemas →
        let d' := d.nullTypedAt key number
        let type := (Context.of s d).catalogue.typeName key
        (v.isDeclared → t ≠ "array" → contracts (.of s d') = contracts (.of s d))
          ∧ ∀ cs l cs' l', Returns (contracts (.of s d)) {} cs l →
            Returns (contracts (.of s d')) {} cs' l' →
              (DeclaresClass cs' type ↔ DeclaresClass cs type)
                ∧ (DeclaresEnum cs' type ↔ DeclaresEnum cs type)
                ∧ ∀ cl cl', .classDecl cl ∈ cs → .classDecl cl' ∈ cs' →
                  cl.name = type → cl'.name = type → (cl'.bases = cl.bases ↔ t ≠ "array") := by
  refine ⟨fun c l owner nullable hknown => resolve_nullTyped number h hknown, ?_⟩
  intro s d key hv d' type
  refine ⟨fun hdeclared ht =>
      contracts_nullTypedAt number (declaresNullable_of_mem h hv hdeclared) ht,
    fun cs l cs' l' hcs hcs' => ?_⟩
  have hv' : (key, v.nullTyped number) ∈ d'.schemas := mem_nullTypedAt number hv
  have htype : (Context.of s d').catalogue.typeName key = type :=
    congrFun (typeName_eq_of_typeNames (typeNames_nullTypedAt number)) key
  refine ⟨?_, ?_, fun cl cl' hcl hcl' hname hname' => ?_⟩
  · rw [← htype, declaresClass_iff hcs' hv', h.listsValues_eq, htype, declaresClass_iff hcs hv]
  · rw [← htype, declaresEnum_iff hcs' hv', h.isEnumSchema_eq, htype, declaresEnum_iff hcs hv]
  · exact bases_nullTyped_iff number h hv hcs hcs' hcl hcl' hname (hname'.trans hname.symm)

/-- An array of texts, or nothing. -/
def tagsOrNothing : Value :=
  .object 1 [(.text "type", .text "array"), (.text "nullable", .bool true),
    (.text "items", .object 2 [(.text "type", .text "string")])]

/-- An integer, or nothing. -/
def countOrNothing : Value :=
  .object 3 [(.text "type", .text "integer"), (.text "nullable", .bool true)]

/-- A document that names the array. -/
def tagsDocument : Document where
  schemas := [("Tags", tagsOrNothing)]

/-- The settings for that document. -/
def tagsSettings : Settings := { openApiPath := "tags.json" }

theorem saysNullable_tags : tagsOrNothing.SaysNullable "array" :=
  ⟨rfl, by decide, rfl, by unfold Members.Distinct; decide⟩

theorem saysNullable_count : countOrNothing.SaysNullable "integer" :=
  ⟨rfl, by decide, rfl, by unfold Members.Distinct; decide⟩

theorem tagsDocument_run :
    ∃ cs l, Returns (contracts (.of tagsSettings tagsDocument)) {} cs l
      ∧ classRows cs = [("Tags", ["System.Collections.ObjectModel.Collection<string>"], [])] := by
  refine exists_returns_of_map ?_
  decide +kernel

theorem tagsDocument_run_nullTyped :
    ∃ cs l, Returns (contracts (.of tagsSettings (tagsDocument.nullTypedAt "Tags" 1))) {} cs l
      ∧ classRows cs = [("Tags", [], [])] := by
  refine exists_returns_of_map ?_
  decide +kernel

/-- The type of an array needs no mark, so it is the same in both forms; but the class of the array
is derived from a collection in one form only. -/
theorem null_types_agree_tags :
    tagsOrNothing.SaysNullable "array"
      ∧ (∃ u l₁ u' l₂, Returns (resolve (.ofSchemas []) tagsOrNothing "" false) {} u l₁
        ∧ Returns (resolve (.ofSchemas []) (tagsOrNothing.nullTyped 1) "" false) {} u' l₂
        ∧ u.render = "System.Collections.Generic.ICollection<string>" ∧ u'.render = u.render)
      ∧ ∃ cs l cs' l' cl cl', Returns (contracts (.of tagsSettings tagsDocument)) {} cs l
        ∧ Returns (contracts (.of tagsSettings (tagsDocument.nullTypedAt "Tags" 1))) {} cs' l'
        ∧ .classDecl cl ∈ cs ∧ .classDecl cl' ∈ cs' ∧ cl.name = "Tags" ∧ cl'.name = "Tags"
        ∧ cl'.bases ≠ cl.bases := by
  obtain ⟨hresolve, hdocuments⟩ := null_types_agree saysNullable_tags 1
  refine ⟨saysNullable_tags, ?_, ?_⟩
  · have hrun : ((resolve (.ofSchemas []) tagsOrNothing "" false).run.run {}).1.toOption.map
        (fun u => (u.type.render, u.render))
          = some ("System.Collections.Generic.ICollection<string>",
            "System.Collections.Generic.ICollection<string>") := by
      decide +kernel
    obtain ⟨u, l₁, hu, htexts⟩ := exists_returns_of_map hrun
    obtain ⟨htype, hrender⟩ := Prod.mk.inj htexts
    have henum : (Catalogue.ofSchemas []).isEnum tagsOrNothing = .ok false := rfl
    obtain ⟨u', l₂, hu', -, -, hiff⟩ := (hresolve (.ofSchemas []) {} "" false rfl).2 u l₁ hu
    refine ⟨u, l₁, u', l₂, hu, hu', hrender, hiff.2 (.inr ?_)⟩
    rw [htype, henum]
    decide
  · obtain ⟨cs, l, hcs, hrows⟩ := tagsDocument_run
    obtain ⟨cs', l', hcs', hrows'⟩ := tagsDocument_run_nullTyped
    have hrow : ("Tags", ["System.Collections.ObjectModel.Collection<string>"], [])
        ∈ classRows cs := by
      rw [hrows]
      exact List.mem_cons_self
    have hrow' : ("Tags", [], []) ∈ classRows cs' := by
      rw [hrows']
      exact List.mem_cons_self
    obtain ⟨cl, hcl, hname, -⟩ := exists_class_of_row hrow
    obtain ⟨cl', hcl', hname', -⟩ := exists_class_of_row hrow'
    obtain ⟨-, hboth⟩ := hdocuments tagsSettings tagsDocument "Tags" List.mem_cons_self
    obtain ⟨-, -, hbases⟩ := hboth cs l cs' l' hcs hcs'
    refine ⟨cs, l, cs', l', cl, cl', hcs, hcs', hcl, hcl', hname, hname', fun hsame => ?_⟩
    exact (hbases cl cl' hcl hcl' hname hname').1 hsame rfl

/-- An integer that may be absent loses its question mark in the newer form, and a named array that
may be absent its base type. -/
theorem null_types_differ :
    countOrNothing.SaysNullable "integer"
      ∧ ((resolve (.ofSchemas []) countOrNothing "" false).run.run {}).1.toOption.map
          TypeUse.render = some "int?"
      ∧ ((resolve (.ofSchemas []) (countOrNothing.nullTyped 3) "" false).run.run
          {}).1.toOption.map TypeUse.render = some "int"
      ∧ tagsOrNothing.SaysNullable "array"
      ∧ ((contracts (.of tagsSettings tagsDocument)).run.run {}).1.toOption.map classRows
        = some [("Tags", ["System.Collections.ObjectModel.Collection<string>"], [])]
      ∧ ((contracts (.of tagsSettings (tagsDocument.nullTypedAt "Tags" 1))).run.run
          {}).1.toOption.map classRows = some [("Tags", [], [])] := by
  refine ⟨saysNullable_count, ?_, ?_, saysNullable_tags, ?_, ?_⟩
  all_goals decide +kernel

end Generate

end OpenApiClient
