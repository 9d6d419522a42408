/-
References to schemas that lead nowhere.

Two functions follow a reference: one gives the name of the type that it is to, and fails if there
is no such schema, and the other gives the schema, and takes the empty one if there is none.  Where
a type is asked for both are used, the second one first: it is the empty schema that makes the
first one fail, since a type is declared for that (`isKnown_of_form`).  So whatever way down from a
schema comes to its end has met references to schemas of the document only.

The parts of a composition are the exception.  The one that becomes the base type is asked for by
its name.  The others are flattened, which asks for their schemas only, and a reference that leads
nowhere then adds nothing to the class and goes unnoticed.
-/
import OpenApiClient.Proofs.Erasing
import OpenApiClient.Proofs.Inheritance

set_option autoImplicit false

namespace OpenApiClient

namespace Schema

open Generate (Fault)

variable {c : Catalogue}

/-! ## Known references -/

/-- What is written as a reference is one to a named schema. -/
def IsKnown (schemas : List (String × Value)) (written : Value) : Prop :=
  ∃ stem ∈ Catalogue.refStems, ∃ e ∈ schemas, written = .text (stem ++ e.1)

/-- The fault of a reference that leads nowhere. -/
def brokenReference (ref : String) : Fault :=
  if (Catalogue.refTarget? ref).isSome then .schemaNotFound ref else .unsupportedReference ref

theorem isKnown_of_schema? {ref name : String} {v : Value}
    (ht : Catalogue.refTarget? ref = some name) (hs : c.schema? name = some v) :
    IsKnown c.schemas (.text ref) := by
  unfold Catalogue.refTarget? at ht
  obtain ⟨stem, hstem, hname⟩ := List.exists_of_findSome?_eq_some ht
  obtain ⟨rest, hrest, rfl⟩ := Option.map_eq_some_iff.1 hname
  refine ⟨stem, hstem, _, Catalogue.mem_of_schema? hs, ?_⟩
  have hsplit := Text.dropWord?_eq_some_iff.1 hrest
  rw [← String.ofList_toList (s := ref), hsplit, String.ofList_append, String.ofList_toList]

/-- A reference that is not known gives no name, and the empty schema. -/
theorem refName_of_unknown {ref : String} (h : ¬ IsKnown c.schemas (.text ref)) :
    c.refName ref = .error (brokenReference ref) ∧ c.refSchema ref = .object 0 [] := by
  unfold Catalogue.refName Catalogue.refSchema brokenReference
  cases ht : Catalogue.refTarget? ref with
  | none => exact ⟨rfl, rfl⟩
  | some name =>
    cases hs : c.schema? name with
    | none =>
      dsimp only
      rw [Option.bind_some, hs]
      exact ⟨rfl, rfl⟩
    | some v => exact absurd (isKnown_of_schema? ht hs) h

/-- A reference that gives a name is known. -/
theorem isKnown_of_refName {ref type : String} (h : c.refName ref = .ok type) :
    IsKnown c.schemas (.text ref) := by
  obtain ⟨name, v, ht, hs, -⟩ := Catalogue.refName_eq_ok_iff.1 h
  exact isKnown_of_schema? ht hs

theorem eq_text_of_refText {written : Value} {ref : String}
    (h : Catalogue.refText written = .ok ref) : written = .text ref := by
  unfold Catalogue.refText at h
  split at h
  · cases h
    rfl
  · cases h
  · cases h

/-! ## The way down from a schema -/

theorem form_reference {v written : Value} (h : v.member? "$ref" = some written) :
    form c v = referenceForm c written := by
  cases v with
  | object n ms =>
    cases ms with
    | nil => cases h
    | cons m ms =>
      unfold form
      rw [h]
  | _ => cases h

/-- Asking for a reference that leads nowhere fails, and the fault names the reference. -/
theorem form_of_unknown {v : Value} {ref : String} (h : v.member? "$ref" = some (.text ref))
    (hunknown : ¬ IsKnown c.schemas (.text ref)) : form c v = .error (brokenReference ref) := by
  obtain ⟨hname, hschema⟩ := refName_of_unknown hunknown
  rw [form_reference h, referenceForm]
  change (do
    let target := c.refSchema ref
    if !target.isObject then throw (Fault.shape .noMembers)
    if target.isDeclared then return Form.named (← c.refName ref)
    else return Form.sameAs target) = _
  rw [hschema, hname]
  rfl

/-- A schema that has a form has a known reference, if it is one. -/
theorem isKnown_of_form {v written : Value} {f : Form} (hf : form c v = .ok f)
    (h : v.member? "$ref" = some written) : IsKnown c.schemas written := by
  have hreference := hf
  rw [form_reference h] at hreference
  obtain ⟨ref, href, -⟩ := bind_eq_ok_iff.1 hreference
  rw [eq_text_of_refText href] at h ⊢
  by_contra hunknown
  rw [form_of_unknown h hunknown] at hf
  cases hf

/-- All references that are met on the way down from a schema are known. -/
def KnownBelow (c : Catalogue) (v : Value) : Prop :=
  ∀ u, Met c v u → ∀ written, u.member? "$ref" = some written → IsKnown c.schemas written

/-- Where a way down comes to its end, every schema that is met has a form. -/
theorem exists_form_of_met {owner : String} {fuel : Nat} {v u : Value} {t : CSharp.TypeRef}
    {l l' : Ledger} (h : Returns (typeWith c owner fuel v) l t l') (hu : Met c v u) :
    ∃ f, form c u = .ok f := by
  induction fuel generalizing v t l l' with
  | zero => exact (returns_throw_iff.1 h).elim
  | succ fuel ih =>
    obtain ⟨f, hf, hstep⟩ := returns_typeWith_succ_iff.1 h
    cases hu with
    | here => exact ⟨f, hf⟩
    | next hf' hw hmet =>
      rw [hf] at hf'
      cases hf'
      -- what a form leads on to is asked for next
      cases hstep with
      | builtin => cases hw
      | named => cases hw
      | own => cases hw
      | sameAs htarget =>
        rw [List.mem_singleton.1 hw] at hmet
        exact ih htarget hmet
      | collection hitem =>
        rw [List.mem_singleton.1 hw] at hmet
        exact ih hitem hmet
      | dictionary hvalue =>
        rw [List.mem_singleton.1 hw] at hmet
        exact ih hvalue hmet

/-- The references below a schema that a type was given for are known. -/
theorem knownBelow_of_resolve {v : Value} {owner : String} {nullable : Bool}
    {t : CSharp.TypeUse} {l l' : Ledger} (h : Returns (resolve c v owner nullable) l t l') :
    KnownBelow c v := by
  obtain ⟨l₁, htype, -, -⟩ := returns_resolve_iff.1 h
  intro u hu written hwritten
  obtain ⟨f, hf⟩ := exists_form_of_met htype hu
  exact isKnown_of_form hf hwritten

end Schema

namespace Generate

open CSharp
open Schema

variable {x : Context}

/-! ## Where types are asked for -/

theorem knownBelow_register {owned : List (String × Value)} {u : Unit} {l l' : Ledger}
    (h : Returns (register x owned) l u l') : ∀ e ∈ owned, KnownBelow x.catalogue e.2 := by
  induction owned generalizing l with
  | nil => exact fun e he => absurd he List.not_mem_nil
  | cons e rest ih =>
    rw [register] at h
    obtain ⟨t, l₁, ht, hrest⟩ := returns_bind_iff.1 h
    exact List.forall_mem_cons.2 ⟨knownBelow_of_resolve ht, ih hrest⟩

theorem knownBelow_classProperties {typeName : String} {required : List Scalar}
    {taken : List String} {ms : Members} {ps : List Property} {l l' : Ledger}
    (h : Returns (classProperties x typeName required taken ms) l ps l') :
    ∀ m ∈ ms, KnownBelow x.catalogue m.2 := by
  induction ms generalizing taken ps l with
  | nil => exact fun m hm => absurd hm List.not_mem_nil
  | cons m ms ih =>
    rw [classProperties] at h
    obtain ⟨p, l₁, hp, h⟩ := returns_bind_iff.1 h
    obtain ⟨rest, l₂, hrest, h⟩ := returns_bind_iff.1 h
    obtain ⟨rfl, rfl⟩ := returns_pure_iff.1 h
    unfold classProperty at hp
    obtain ⟨wanted, -, hp⟩ := returns_liftShape_bind_iff.1 hp
    obtain ⟨type, l₃, htype, -⟩ := returns_bind_iff.1 hp
    exact List.forall_mem_cons.2 ⟨knownBelow_of_resolve htype, ih hrest⟩

theorem knownBelow_arrayBases {typeName : String} {v : Value} {bases : List String}
    {l l' : Ledger} (h : Returns (arrayBases x typeName v) l bases l') (ha : isArray v) :
    KnownBelow x.catalogue (v.memberOrNull "items") := by
  rcases returns_arrayBases h with ⟨-, item, l₁, hitem, -⟩ | ⟨hplain, -⟩
  · exact knownBelow_of_resolve hitem
  · exact absurd ha hplain

/-! ## The parts of a composition -/

section Parts

variable {c : Catalogue} {parts parts' : ClassParts}

/-- A part that is a reference is written as a text, and it is known if it gives the base type. -/
theorem addPart_reference {part written : Value} (h : addPart c parts part = .ok parts')
    (hpart : partReference part = .ok (some written)) :
    ∃ ref, written = .text ref ∧ parts'.bases ≠ []
      ∧ (parts.bases = [] → IsKnown c.schemas written) := by
  unfold addPart at h
  obtain ⟨written?, hwritten, h⟩ := bind_eq_ok_iff.1 h
  rw [mapError_eq_ok_iff, hpart] at hwritten
  cases hwritten
  obtain ⟨ref, href, h⟩ := bind_eq_ok_iff.1 h
  refine ⟨ref, eq_text_of_refText href, ?_⟩
  by_cases hb : parts.bases.isEmpty
  · simp only [hb, if_true] at h
    obtain ⟨type, htype, h⟩ := bind_eq_ok_iff.1 h
    cases h
    refine ⟨List.cons_ne_nil _ _, fun _ => ?_⟩
    rw [eq_text_of_refText href]
    exact isKnown_of_refName htype
  · simp only [hb, Bool.false_eq_true, if_false] at h
    have hne : parts.bases ≠ [] := by simpa using hb
    rw [(add_spec (mapError_eq_ok_iff.1 h)).1]
    exact ⟨hne, fun hnil => absurd hnil hne⟩

theorem addParts_reference {ps : List Value} (h : ps.foldlM (addPart c) parts = .ok parts') :
    (∀ part ∈ ps, ∀ written, partReference part = .ok (some written) →
        ∃ ref, written = .text ref)
      ∧ (parts.bases = [] → ∀ part, ps.find? isReference = some part →
        ∃ ref, partReference part = .ok (some (.text ref)) ∧ IsKnown c.schemas (.text ref)) := by
  induction ps generalizing parts with
  | nil => exact ⟨fun part hp => absurd hp List.not_mem_nil, fun _ part hp => by cases hp⟩
  | cons p ps ih =>
    rw [List.foldlM_cons] at h
    obtain ⟨next, hnext, h⟩ := bind_eq_ok_iff.1 h
    obtain ⟨htexts, hbase⟩ := ih h
    constructor
    · refine List.forall_mem_cons.2 ⟨fun written hwritten => ?_, htexts⟩
      obtain ⟨ref, href, -⟩ := addPart_reference hnext hwritten
      exact ⟨ref, href⟩
    · intro hnone part hpart
      rw [List.find?_cons] at hpart
      cases hp : isReference p with
      | true =>
        -- the first reference gives the base type
        rw [hp] at hpart
        cases hpart
        unfold isReference at hp
        obtain ⟨written, hwritten⟩ := Option.isSome_iff_exists.1 hp
        have hok : partReference p = .ok (some written) := by
          cases hr : partReference p with
          | error e =>
            rw [hr] at hwritten
            cases hwritten
          | ok o =>
            rw [hr] at hwritten
            exact congrArg Except.ok hwritten
        obtain ⟨ref, rfl, -, hknown⟩ := addPart_reference hnext hok
        exact ⟨ref, hok, hknown hnone⟩
      | false =>
        rw [hp] at hpart
        refine hbase ?_ part hpart
        rcases addPart_spec hnext with ⟨-, hreference, -⟩ | ⟨-, hbases, -⟩
        · rw [hreference] at hp
          cases hp
        · rw [hbases, hnone]

end Parts

/-- What a class leaves to say about the references in the composition of its schema.  The one
that gives the base type is known.  A flattened one is a text, and if it is not known it stands for
the empty schema. -/
structure ReferencesOf (c : Catalogue) (v : Value) : Prop where
  base : ∀ part, basePart? v = some part →
    ∃ ref, partReference part = .ok (some (.text ref)) ∧ IsKnown c.schemas (.text ref)
  flattened : ∀ part ∈ flattenedParts v, ∀ written, partReference part = .ok (some written) →
    ∃ ref, written = .text ref
      ∧ (¬ IsKnown c.schemas (.text ref) → partSchema c part = .object 0 [])

theorem referencesOf_classParts {typeName : String} {v : Value} {parts : ClassParts}
    {l l' : Ledger} (h : Returns (classParts x typeName v) l parts l') :
    ReferencesOf x.catalogue v := by
  obtain ⟨own, bases, composed, hown, hbases, hcomposed, hfold⟩ := returns_classParts_iff.1 h
  have hpartsOf := partsOf_eq hcomposed
  obtain ⟨htexts, hbase⟩ := addParts_reference hfold
  refine ⟨fun part hpart => ?_, fun part hpart written hwritten => ?_⟩
  · unfold basePart? at hpart
    -- an array has a collection for its base type, and no part
    rcases returns_arrayBases hbases with ⟨ha, -⟩ | ⟨ha, rfl⟩
    · rw [if_pos ha] at hpart
      cases hpart
    · rw [if_neg ha, hpartsOf] at hpart
      exact hbase rfl part hpart
  · have hmem := mem_partsOf_of_flattened hpart
    rw [hpartsOf] at hmem
    obtain ⟨ref, rfl⟩ := htexts part hmem written hwritten
    refine ⟨ref, rfl, fun hunknown => ?_⟩
    -- the part is looked up under its reference, which leads nowhere
    have htarget : partSchema x.catalogue part = x.catalogue.refSchema ref := by
      unfold partSchema
      rw [hwritten]
      rfl
    rw [htarget, (refName_of_unknown hunknown).2]

/-! ## All references of a run -/

/-- If the contracts of a document are given, all references are known that are met on the way
down from the schemas of the operations, from the properties of the classes and from the items of
those that are arrays, and so are those that give base types.  Only a reference in a composition
that is flattened can lead nowhere, and it stands for the empty schema then.  At any other place
such a reference is a fault that names it. -/
theorem references_known (s : Settings) (d : Document) {cs : List Contract} {l : Ledger}
    (h : Returns (contracts (.of s d)) {} cs l) :
    (∃ ops, (Context.of s d).operations = .ok ops
        ∧ ∀ e ∈ ops.flatMap ownedSchemas, KnownBelow (Context.of s d).catalogue e.2)
      ∧ (∀ e ∈ declaredSchemas (.of s d) d.schemas ++ l.inlined, e.2.isEnumSchema = false →
        (∀ m ∈ mergedProperties (Context.of s d).catalogue e.2,
            KnownBelow (Context.of s d).catalogue m.2)
          ∧ (isArray e.2 → KnownBelow (Context.of s d).catalogue (e.2.memberOrNull "items"))
          ∧ ReferencesOf (Context.of s d).catalogue e.2)
      ∧ ∀ ref, ¬ IsKnown d.schemas (.text ref) →
        (Context.of s d).catalogue.refName ref = .error (brokenReference ref)
          ∧ ∀ v : Value, v.member? "$ref" = some (.text ref) →
            form (Context.of s d).catalogue v = .error (brokenReference ref) := by
  obtain ⟨ops, l₁, l₂, u, hops, hregister, -, -, hmade⟩ := contracts_stages h
  refine ⟨⟨ops, hops, knownBelow_register hregister⟩, fun e he henum => ?_, fun ref hunknown => ?_⟩
  · obtain ⟨k, -, k₁, k₂, hk⟩ := exists_left_of_mem hmade he
    rw [contract, henum] at hk
    obtain ⟨cl, k₃, hcl, -⟩ := returns_bind_iff.1 hk
    obtain ⟨parts, k₄, k₅, hparts, hproperties, -, -⟩ := returns_classDecl hcl
    have hknown := knownBelow_classProperties hproperties
    rw [(classParts_spec hparts).1] at hknown
    obtain ⟨own, bases, composed, -, hbases, -, -⟩ := returns_classParts_iff.1 hparts
    exact ⟨hknown, knownBelow_arrayBases hbases, referencesOf_classParts hparts⟩
  · exact ⟨(refName_of_unknown hunknown).1, fun v hv => form_of_unknown hv hunknown⟩

/-- A schema with references in its composition, of which the last one leads nowhere, and in its
properties: to a list of numbers, in a composition with one part, to items and to values. -/
def kennelSchema : Value :=
  .object 1 [
    (.text "allOf", .list [referenceTo 2 "Base", referenceTo 3 "Tag", referenceTo 4 "Missing"]),
    (.text "properties", .object 5 [
      (.text "rate", referenceTo 6 "Rate"),
      (.text "owner", .object 7 [(.text "allOf", .list [referenceTo 8 "Base"])]),
      (.text "dogs", .object 9 [(.text "type", .text "array"),
        (.text "items", referenceTo 10 "Tag")]),
      (.text "rooms", .object 11 [(.text "type", .text "object"),
        (.text "additionalProperties", referenceTo 12 "Kennels")])])]

/-- A document with that schema and those that it refers to, but for one. -/
def kennelDocument : Document where
  schemas := [
    ("Base", composedSchema 13 "id" []),
    ("Tag", composedSchema 16 "name" []),
    ("Rate", .object 19 [(.text "type", .text "number"), (.text "enum", .list [.int 1, .int 2])]),
    ("Kennels", .object 20 [(.text "type", .text "array"),
      (.text "items", referenceTo 21 "Kennel")]),
    ("Kennel", kennelSchema)]
  operations := [{
    verb := .post
    path := "/kennels"
    parameters := [{ name := "rate", location := "query", schema := referenceTo 22 "Rate" }]
    requestBody := some (referenceTo 23 "Kennel")
    response := some (.object 24 [(.text "type", .text "array"),
      (.text "items", referenceTo 25 "Kennel")]) }]

/-- The settings for that document. -/
def kennelSettings : Settings := { openApiPath := "kennels.json" }

set_option maxRecDepth 10000 in
theorem kennelDocument_run :
    ∃ cs l, Returns (contracts (.of kennelSettings kennelDocument)) {} cs l
      ∧ cs.map Contract.name = ["Base", "Tag", "Kennels", "Kennel"] := by
  refine exists_returns_of_map ?_
  decide +kernel

theorem references_known_kennel :
    ∃ cs l, Returns (contracts (.of kennelSettings kennelDocument)) {} cs l
      ∧ cs.map Contract.name = ["Base", "Tag", "Kennels", "Kennel"]
      ∧ (∃ ops, (Context.of kennelSettings kennelDocument).operations = .ok ops
        ∧ ∀ e ∈ ops.flatMap ownedSchemas,
          KnownBelow (Context.of kennelSettings kennelDocument).catalogue e.2)
      ∧ (∀ e ∈ declaredSchemas (.of kennelSettings kennelDocument) kennelDocument.schemas
          ++ l.inlined, e.2.isEnumSchema = false →
        (∀ m ∈ mergedProperties (Context.of kennelSettings kennelDocument).catalogue e.2,
            KnownBelow (Context.of kennelSettings kennelDocument).catalogue m.2)
          ∧ (isArray e.2 → KnownBelow (Context.of kennelSettings kennelDocument).catalogue
            (e.2.memberOrNull "items"))
          ∧ ReferencesOf (Context.of kennelSettings kennelDocument).catalogue e.2)
      ∧ ∀ ref, ¬ IsKnown kennelDocument.schemas (.text ref) →
        (Context.of kennelSettings kennelDocument).catalogue.refName ref
            = .error (brokenReference ref)
          ∧ ∀ v : Value, v.member? "$ref" = some (.text ref) →
            form (Context.of kennelSettings kennelDocument).catalogue v
              = .error (brokenReference ref) := by
  obtain ⟨cs, l, hrun, hnames⟩ := kennelDocument_run
  exact ⟨cs, l, hrun, hnames, references_known _ _ hrun⟩

/-- The last part of the composition refers to no schema of the document, and contracts are given
all the same. -/
theorem reference_swallowed :
    ∃ cs l, Returns (contracts (.of kennelSettings kennelDocument)) {} cs l
      ∧ (("Kennel", kennelSchema) ∈ declaredSchemas (.of kennelSettings kennelDocument)
        kennelDocument.schemas)
      ∧ kennelSchema.isEnumSchema = false
      ∧ ∃ part ∈ partsOf kennelSchema,
        partReference part = .ok (some (.text "#/components/schemas/Missing"))
          ∧ ¬ IsKnown kennelDocument.schemas (.text "#/components/schemas/Missing") := by
  obtain ⟨cs, l, hrun, -⟩ := kennelDocument_run
  have hname : (Context.of kennelSettings kennelDocument).catalogue.typeName "Kennel"
      = "Kennel" := by
    decide +kernel
  refine ⟨cs, l, hrun, ?_, by decide +kernel, referenceTo 4 "Missing", ?_, rfl, ?_⟩
  · refine List.mem_map.2 ⟨("Kennel", kennelSchema), ?_, by rw [hname]⟩
    refine List.mem_filter.2 ⟨?_, by decide +kernel⟩
    simp [kennelDocument]
  · exact List.mem_cons_of_mem _ (List.mem_cons_of_mem _ List.mem_cons_self)
  · rintro ⟨stem, hstem, e, he, htext⟩
    have hnone : ∀ stem ∈ Catalogue.refStems, ∀ name ∈ kennelDocument.schemas.map (·.1),
        "#/components/schemas/Missing" ≠ stem ++ name := by
      decide
    have heq : "#/components/schemas/Missing" = stem ++ e.1 := by
      simpa using htext
    exact hnone stem hstem e.1 (List.mem_map_of_mem he) heq

end Generate

end OpenApiClient
