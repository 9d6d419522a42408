/-
What a class inherits.

The wire names that a class carries are its own and those of its base classes (`Carries`), read
off the attributes of the declared types.  They are compared with the keys of the composed
schema (`InComposition`).

Nothing is carried that is not in the composition, and what is in it is carried unless it is
buried: a part that is flattened gives the class its own properties only, and a schema that
lists values is no base class.  So a class carries its whole composition exactly when it
carries what is buried there by other ways (`carries_composition_iff`).
-/
import OpenApiClient.Proofs.Compositions
import OpenApiClient.Proofs.Declarations

set_option autoImplicit false

namespace OpenApiClient.Generate

open CSharp
open Schema

/-! ## Wire names -/

/-- The wire name that an attribute gives. -/
def wireName? (a : Attribute) : Option String :=
  if a.name = jsonNameAttribute then
    a.arguments.head?.map fun literal => .ofList (literal.toList.drop 1).dropLast
  else none

/-- The wire names of the properties of a class. -/
def wireNames (d : ClassDecl) : List String :=
  d.properties.flatMap fun p => p.attributes.filterMap wireName?

theorem wireName?_plainLiteral (s : String) :
    wireName? ⟨jsonNameAttribute, [plainLiteral s]⟩ = some s := by
  unfold wireName? plainLiteral
  rw [if_pos rfl, List.head?_cons, Option.map_some, String.toList_append, String.toList_append]
  have hquote : "\"".toList = ['"'] := rfl
  rw [hquote, List.append_assoc, List.singleton_append, List.drop_succ_cons, List.drop_zero,
    List.dropLast_concat, String.ofList_toList]

/-- The class with a name has a property of a wire name, or one of its base classes has. -/
inductive Carries (cs : List Contract) : String → String → Prop where
  | own {d : ClassDecl} {wire : String} (hd : .classDecl d ∈ cs) (h : wire ∈ wireNames d) :
    Carries cs d.name wire
  | base {d : ClassDecl} {type wire : String} (hd : .classDecl d ∈ cs) (htype : type ∈ d.bases)
    (h : Carries cs type wire) : Carries cs d.name wire

theorem Carries.exists_class {cs : List Contract} {type wire : String}
    (h : Carries cs type wire) : ∃ c ∈ cs, c.name = type := by
  cases h with
  | own hd _ => exact ⟨_, hd, rfl⟩
  | base hd _ _ => exact ⟨_, hd, rfl⟩

/-- The class with a name carries the wire name of a key, or of a key that is the same. -/
def CarriesKey (cs : List Contract) (type : String) (key : Scalar) : Prop :=
  ∃ k, (k = key ∨ k.same key) ∧ Carries cs type k.display

theorem eq_of_same_text {k : Scalar} {name : String} (h : k.same (.text name)) :
    k = .text name := by
  unfold Scalar.same at h
  cases hk : k.asInt? with
  | some n =>
    rw [hk] at h
    cases h
  | none =>
    rw [hk] at h
    cases k with
    | text t => rw [eq_of_beq h]
    | _ => cases h

/-- A textual key is its own wire name. -/
theorem carriesKey_text_iff {cs : List Contract} {type name : String} :
    CarriesKey cs type (.text name) ↔ Carries cs type name := by
  constructor
  · rintro ⟨k, hk, h⟩
    rcases hk with rfl | hk
    · exact h
    · rw [eq_of_same_text hk] at h
      exact h
  · intro h
    exact ⟨.text name, .inl rfl, h⟩

/-! ## The class of a schema -/

section Classes

variable {x : Context}

/-- A property has one attribute, and that gives its wire name. -/
theorem attributes_classProperty {typeName : String} {required : List Scalar}
    {taken : List String} {key : Scalar} {v : Value} {p : Property} {l l' : Ledger}
    (h : Returns (classProperty x typeName required taken key v) l p l') :
    p.attributes = [⟨jsonNameAttribute, [plainLiteral key.display]⟩] := by
  simp only [classProperty, qualifiedAttribute, returns_bind_iff, returns_pure_iff] at h
  obtain ⟨_, _, _, _, _, _, _, _, ⟨_, _, hname, rfl, _⟩, _, _, _, rfl, _⟩ := h
  rw [(returns_useNamespace_iff.1 hname).1]

theorem wireNames_classProperties {typeName : String} {required : List Scalar}
    {taken : List String} {ms : Members} {ps : List Property} {l l' : Ledger}
    (h : Returns (classProperties x typeName required taken ms) l ps l') :
    (ps.flatMap fun p => p.attributes.filterMap wireName?) = ms.map fun m => m.1.display := by
  induction ms generalizing taken ps l with
  | nil =>
    obtain ⟨rfl, -⟩ := returns_pure_iff.1 h
    rfl
  | cons m ms ih =>
    rw [classProperties] at h
    obtain ⟨p, l₁, hp, h⟩ := returns_bind_iff.1 h
    obtain ⟨rest, l₂, hrest, h⟩ := returns_bind_iff.1 h
    obtain ⟨rfl, rfl⟩ := returns_pure_iff.1 h
    rw [List.flatMap_cons, attributes_classProperty hp, ih hrest, List.filterMap_cons,
      wireName?_plainLiteral]
    rfl

/-- What a class has from its schema `v`: the keys of the own properties and of the flattened
parts, and the base part as its base type.  The base type of an array is no generated type. -/
structure ClassOf (c : Catalogue) (v : Value) (d : ClassDecl) : Prop where
  keys : ∃ keys, wireNames d = keys.map Scalar.display
    ∧ Adds [] (ownKeys v ++ (flattenedParts v).flatMap fun p => ownKeys (partSchema c p)) keys
  bases : ∀ type ∈ d.bases, '.' ∈ type.toList ∨
    ∃ part, basePart? v = some part ∧ NamesPart c part type
  based : ∀ part, basePart? v = some part → ∃ type ∈ d.bases, NamesPart c part type

theorem point_mem_collectionClass (item : String) :
    '.' ∈ (collectionClass ++ "<" ++ item ++ ">").toList := by
  have hpoint : '.' ∈ collectionClass.toList := by decide
  rw [String.toList_append, String.toList_append, String.toList_append]
  exact List.mem_append_left _ (List.mem_append_left _ (List.mem_append_left _ hpoint))

/-- An array is derived from the collection of its items; any other schema has no base type before
its composition is gone through. -/
theorem returns_arrayBases {typeName : String} {v : Value} {bases : List String} {l l' : Ledger}
    (h : Returns (arrayBases x typeName v) l bases l') :
    (isArray v ∧ ∃ item l₁,
        Returns (resolve x.catalogue (v.memberOrNull "items") (typeName ++ "Item") false) l item l₁
          ∧ bases = [collectionClass ++ "<" ++ item.render ++ ">"])
      ∨ (¬ isArray v ∧ bases = []) := by
  unfold arrayBases at h
  by_cases ha : isArray v
  · have hcond := ha
    unfold isArray at hcond
    rw [if_pos hcond] at h
    obtain ⟨item, l₁, hitem, h⟩ := returns_bind_iff.1 h
    have h := returns_useNamespace_bind_iff.1 h
    obtain ⟨rfl, -⟩ := returns_pure_iff.1 h
    exact .inl ⟨ha, item, l₁, hitem, rfl⟩
  · have hcond := ha
    unfold isArray at hcond
    rw [if_neg hcond] at h
    obtain ⟨rfl, -⟩ := returns_pure_iff.1 h
    exact .inr ⟨ha, rfl⟩

/-- A class has the merged properties of its schema, and the base part as its base type. -/
theorem classParts_spec {typeName : String} {v : Value} {parts : ClassParts} {l l' : Ledger}
    (h : Returns (classParts x typeName v) l parts l') :
    parts.properties = mergedProperties x.catalogue v
      ∧ (∀ type ∈ parts.bases, '.' ∈ type.toList ∨
          ∃ part, basePart? v = some part ∧ NamesPart x.catalogue part type)
      ∧ ∀ part, basePart? v = some part →
        ∃ type ∈ parts.bases, NamesPart x.catalogue part type := by
  obtain ⟨own, bases, composed, hown, hbases, hcomposed, hfold⟩ := returns_classParts_iff.1 h
  have hpartsOf := partsOf_eq hcomposed
  have howned : own.properties = merged [] [v] := (add_spec hown).2
  unfold mergedProperties
  rcases returns_arrayBases hbases with ⟨ha, item, l₁, -, rfl⟩ | ⟨ha, rfl⟩
  · -- an array has its collection as base type, so no part can become one
    obtain ⟨hbases', hproperties⟩ := addParts_based (List.cons_ne_nil _ _) hfold
    refine ⟨?_, ?_, ?_⟩
    · rw [hproperties, flattenedParts, if_pos ha, hpartsOf]
      dsimp only
      rw [howned]
      rfl
    · intro type htype
      rw [hbases', List.mem_singleton] at htype
      rw [htype]
      exact .inl (point_mem_collectionClass _)
    · intro part hpart
      rw [basePart?, if_pos ha] at hpart
      cases hpart
  · obtain ⟨hto, hfrom, hproperties⟩ := addParts_spec rfl hfold
    refine ⟨?_, ?_, ?_⟩
    · rw [hproperties, flattenedParts, if_neg ha, hpartsOf]
      dsimp only
      rw [howned]
      rfl
    · intro type htype
      rw [basePart?, if_neg ha, hpartsOf]
      exact .inr (hto type htype)
    · intro part hpart
      rw [basePart?, if_neg ha, hpartsOf] at hpart
      exact hfrom part hpart

/-- The steps in which a class is written. -/
theorem returns_classDecl {typeName : String} {v : Value} {d : ClassDecl} {l l' : Ledger}
    (h : Returns (classDecl x typeName v) l d l') :
    ∃ parts l₁ l₂, Returns (classParts x typeName v) l parts l₁
      ∧ Returns (classProperties x typeName parts.required [typeName] parts.properties) l₁
          d.properties l₂
      ∧ d.name = typeName ∧ d.bases = parts.bases := by
  unfold classDecl at h
  obtain ⟨parts, l₁, hparts, h⟩ := returns_bind_iff.1 h
  obtain ⟨properties, l₂, hproperties, h⟩ := returns_bind_iff.1 h
  obtain ⟨generated, l₃, -, h⟩ := returns_bind_iff.1 h
  obtain ⟨doc, l₄, -, h⟩ := returns_bind_iff.1 h
  obtain ⟨rfl, -⟩ := returns_pure_iff.1 h
  exact ⟨parts, l₁, l₂, hparts, hproperties, rfl, rfl⟩

/-- The wire names of a class are those of the merged properties, in their order. -/
theorem wireNames_classDecl {typeName : String} {v : Value} {d : ClassDecl} {l l' : Ledger}
    (h : Returns (classDecl x typeName v) l d l') :
    wireNames d = (mergedProperties x.catalogue v).map fun m => m.1.display := by
  obtain ⟨parts, l₁, l₂, hparts, hproperties, -, -⟩ := returns_classDecl h
  rw [wireNames, wireNames_classProperties hproperties, (classParts_spec hparts).1]

/-- A class is made as `ClassOf` says. -/
theorem classOf_classDecl {typeName : String} {v : Value} {d : ClassDecl} {l l' : Ledger}
    (h : Returns (classDecl x typeName v) l d l') : ClassOf x.catalogue v d := by
  obtain ⟨parts, l₁, l₂, hparts, -, -, hbases⟩ := returns_classDecl h
  obtain ⟨-, hto, hfrom⟩ := classParts_spec hparts
  refine ⟨⟨(mergedProperties x.catalogue v).map (·.1), ?_, ?_⟩, ?_, ?_⟩
  · rw [wireNames_classDecl h, List.map_map]
    rfl
  · have hadds := adds_merged [] (v :: (flattenedParts v).map (partSchema x.catalogue))
    rw [List.flatMap_cons, List.flatMap_map] at hadds
    exact hadds
  · rw [hbases]
    exact hto
  · rw [hbases]
    exact hfrom

theorem classOf_madeFrom {d : ClassDecl} {e : String × Value}
    (h : MadeFrom x (.classDecl d) e) : ClassOf x.catalogue e.2 d ∧ e.2.isEnumSchema = false := by
  obtain ⟨henum, l, l', hd⟩ := h.classDecl
  exact ⟨classOf_classDecl hd, henum⟩

end Classes

/-! ## The classes of a run -/

section Run

variable {s : Settings} {d : Document} {cs : List Contract} {l : Ledger}

/-- A declared type with the name of a named schema is made from that schema. -/
theorem madeFrom_of_name (h : Returns (contracts (.of s d)) {} cs l) {e : String × Value}
    (he : e ∈ d.schemas) {c : Contract} (hc : c ∈ cs)
    (hname : c.name = (Context.of s d).catalogue.typeName e.1) :
    e.2.isDeclared ∧ MadeFrom (.of s d) c ((Context.of s d).catalogue.typeName e.1, e.2) := by
  obtain ⟨ops, l₁, l₂, u, -, -, -, hsound, hmade⟩ := contracts_stages h
  obtain ⟨f, hf, hcf⟩ := exists_right_of_mem hmade hc
  have htypes : (d.schemas.map fun e => (Context.of s d).catalogue.typeName e.1)
      = (Context.of s d).catalogue.typeNames.map (·.2) := Catalogue.map_typeName d.distinct
  have hnames := List.nodup_append.1 hsound.names
  rw [← htypes] at hnames
  rcases List.mem_append.1 hf with hf | hf
  · obtain ⟨g, hg, rfl⟩ := List.mem_map.1 hf
    obtain ⟨hg, hdeclared⟩ := List.mem_filter.1 hg
    have heq : g = e := List.inj_on_of_nodup_map hnames.1 hg he (hcf.name.symm.trans hname)
    rw [← heq]
    exact ⟨hdeclared, hcf⟩
  · -- the names of objects without a name are none of those of the named schemas
    refine absurd ?_ (hnames.2.2 _ (List.mem_map_of_mem he) f.1 (List.mem_map_of_mem hf))
    exact (hcf.name.symm.trans hname).symm

/-- A class with the name of a named schema has what the schema gives it. -/
theorem classOf_of_name (h : Returns (contracts (.of s d)) {} cs l) {e : String × Value}
    (he : e ∈ d.schemas) {c : ClassDecl} (hc : .classDecl c ∈ cs)
    (hname : c.name = (Context.of s d).catalogue.typeName e.1) :
    ClassOf (Context.of s d).catalogue e.2 c ∧ e.2.listsValues = false := by
  obtain ⟨hdeclared, hmade⟩ := madeFrom_of_name h he hc hname
  obtain ⟨hclass, henum⟩ := classOf_madeFrom hmade
  refine ⟨hclass, ?_⟩
  rw [Value.isDeclared, henum, Bool.or_false] at hdeclared
  simpa using hdeclared

/-- A named schema that is declared has a declared type. -/
theorem exists_contract (h : Returns (contracts (.of s d)) {} cs l) {e : String × Value}
    (he : e ∈ d.schemas) (hdeclared : e.2.isDeclared) :
    ∃ c ∈ cs, MadeFrom (.of s d) c ((Context.of s d).catalogue.typeName e.1, e.2) := by
  obtain ⟨ops, l₁, l₂, u, -, -, -, -, hmade⟩ := contracts_stages h
  refine exists_left_of_mem hmade (List.mem_append_left _ (List.mem_map.2 ⟨e, ?_, rfl⟩))
  exact List.mem_filter.2 ⟨he, hdeclared⟩

/-- A named schema that lists no values has a class. -/
theorem exists_class (h : Returns (contracts (.of s d)) {} cs l) {e : String × Value}
    (he : e ∈ d.schemas) (hplain : e.2.listsValues = false) :
    ∃ c, .classDecl c ∈ cs ∧ c.name = (Context.of s d).catalogue.typeName e.1 := by
  have hdeclared : e.2.isDeclared := by
    rw [Value.isDeclared, hplain]
    rfl
  obtain ⟨c, hc, hmade⟩ := exists_contract h he hdeclared
  cases c with
  | classDecl c => exact ⟨c, hc, hmade.name⟩
  | enumDecl c =>
    have henum := hmade.enumDecl.1
    rw [Value.isEnumSchema, hplain] at henum
    cases henum

/-- The names of declared types have no point. -/
theorem point_not_mem_name (h : Returns (contracts (.of s d)) {} cs l) {c : Contract}
    (hc : c ∈ cs) : '.' ∉ c.name.toList := by
  obtain ⟨ops, l₁, l₂, u, -, -, -, hsound, hmade⟩ := contracts_stages h
  obtain ⟨e, he, hce⟩ := exists_right_of_mem hmade hc
  rw [hce.name]
  refine Naming.IsSpelled.point_not_mem ?_
  rcases List.mem_append.1 he with he | he
  · obtain ⟨f, hf, rfl⟩ := List.mem_map.1 he
    have htypes := Catalogue.map_typeName d.distinct
    refine Catalogue.typeNames_spelled d.schemas _ ?_
    exact htypes ▸ List.mem_map_of_mem (List.mem_of_mem_filter hf)
  · exact hsound.spelled e he

/-! ## What is carried -/

/-- A class carries no wire names but those of its composition. -/
theorem inComposition_of_carries (h : Returns (contracts (.of s d)) {} cs l) {type wire : String}
    (hcarries : Carries cs type wire) {e : String × Value} (he : e ∈ d.schemas)
    (htype : type = (Context.of s d).catalogue.typeName e.1) :
    ∃ key, InComposition (Context.of s d).catalogue e.2 key ∧ key.display = wire := by
  induction hcarries generalizing e with
  | own hd hwire =>
    obtain ⟨keys, hkeys, hadds⟩ := (classOf_of_name h he hd htype).1.keys
    rw [hkeys] at hwire
    obtain ⟨key, hkey, rfl⟩ := List.mem_map.1 hwire
    refine ⟨key, ?_, rfl⟩
    rcases hadds.from_either key hkey with hnone | hkey
    · cases hnone
    · rcases List.mem_append.1 hkey with hkey | hkey
      · exact .own hkey
      · obtain ⟨part, hpart, hkey⟩ := List.mem_flatMap.1 hkey
        exact .part (mem_partsOf_of_flattened hpart) (.own hkey)
  | base hd hbase hcarries ih =>
    rcases (classOf_of_name h he hd htype).1.bases _ hbase with hpoint | ⟨part, hpart, hnames⟩
    · -- a collection is no generated type, so nothing is carried by it
      obtain ⟨c, hc, rfl⟩ := hcarries.exists_class
      exact absurd hpoint (point_not_mem_name h hc)
    · obtain ⟨f, hf, hschema, hname⟩ := hnames
      obtain ⟨key, hkey, hwire⟩ := ih hf hname.symm
      rw [← hschema] at hkey
      exact ⟨key, .part (mem_partsOf_of_base hpart) hkey, hwire⟩

/-- A class carries the keys of the own properties and of the flattened parts. -/
theorem carriesKey_of_classOf {c : Catalogue} {v : Value} {cl : ClassDecl} {key : Scalar}
    (hcl : .classDecl cl ∈ cs) (hclass : ClassOf c v cl)
    (hkey : key ∈ ownKeys v ++ (flattenedParts v).flatMap fun p => ownKeys (partSchema c p)) :
    CarriesKey cs cl.name key := by
  obtain ⟨keys, hwires, hadds⟩ := hclass.keys
  obtain ⟨k, hk, hsame⟩ := hadds.added key hkey
  refine ⟨k, hsame, .own hcl ?_⟩
  rw [hwires]
  exact List.mem_map_of_mem hk

/-- A key of the composition is carried or is buried. -/
theorem carriesKey_or_buried (h : Returns (contracts (.of s d)) {} cs l) {v : Value}
    {key : Scalar} (hkey : InComposition (Context.of s d).catalogue v key) {e : String × Value}
    (he : e ∈ d.schemas) (hv : e.2 = v) (hplain : e.2.listsValues = false) :
    CarriesKey cs ((Context.of s d).catalogue.typeName e.1) key
      ∨ Buried (Context.of s d).catalogue v key := by
  obtain ⟨c, hc, hname⟩ := exists_class h he hplain
  have hclass := (classOf_of_name h he hc hname).1
  rw [← hname]
  rw [hv] at hclass
  -- the induction is on where the key stands; each base part has a class of its own
  induction hkey generalizing e c with
  | own hown => exact .inl (carriesKey_of_classOf hc hclass (List.mem_append_left _ hown))
  | part hpart hinner ih =>
    rename_i v part key
    rcases basePart_or_flattened hpart with hbase | hflat
    · cases hlists : (partSchema (Context.of s d).catalogue part).listsValues with
      | true => exact .inr (.values hbase hlists hinner)
      | false =>
        obtain ⟨type, htype, f, hf, hschema, hfname⟩ := hclass.based part hbase
        rw [hschema] at hlists
        obtain ⟨cf, hcf, hcfname⟩ := exists_class h hf hlists
        have hfclass := (classOf_of_name h hf hcf hcfname).1
        rw [← hschema] at hfclass
        rcases ih hf hschema.symm hlists cf hcf hcfname hfclass with hcarries | hburied
        · obtain ⟨k, hsame, hk⟩ := hcarries
          rw [hcfname, hfname] at hk
          exact .inl ⟨k, hsame, .base hc htype hk⟩
        · exact .inr (.base hbase hburied)
    · -- of a flattened part only the own keys are taken
      cases hinner with
      | own hown =>
        refine .inl (carriesKey_of_classOf hc hclass (List.mem_append_right _ ?_))
        exact List.mem_flatMap.2 ⟨part, hflat, hown⟩
      | part hnested hdeep => exact .inr (.flattened hflat hnested hdeep)

/-- The class of a named schema that lists no values carries no wire names but those of its
composition; every key of the composition is carried or buried; and so the whole composition
is carried exactly when all that is buried is carried by other ways. -/
theorem carries_composition_iff (s : Settings) (d : Document) {cs : List Contract} {l : Ledger}
    (h : Returns (contracts (.of s d)) {} cs l) {e : String × Value} (he : e ∈ d.schemas)
    (hplain : e.2.listsValues = false) :
    (∀ wire, Carries cs ((Context.of s d).catalogue.typeName e.1) wire →
        ∃ key, InComposition (Context.of s d).catalogue e.2 key ∧ key.display = wire)
      ∧ (∀ key, InComposition (Context.of s d).catalogue e.2 key →
        CarriesKey cs ((Context.of s d).catalogue.typeName e.1) key
          ∨ Buried (Context.of s d).catalogue e.2 key)
      ∧ ((∀ key, InComposition (Context.of s d).catalogue e.2 key →
          CarriesKey cs ((Context.of s d).catalogue.typeName e.1) key)
        ↔ ∀ key, Buried (Context.of s d).catalogue e.2 key →
          CarriesKey cs ((Context.of s d).catalogue.typeName e.1) key) := by
  refine ⟨fun wire hwire => inComposition_of_carries h hwire he rfl,
    fun key hkey => carriesKey_or_buried h hkey he rfl hplain, ?_⟩
  constructor
  · intro hall key hkey
    exact hall key hkey.inComposition
  · intro hburied key hkey
    rcases carriesKey_or_buried h hkey he rfl hplain with hcarries | hkey
    · exact hcarries
    · exact hburied key hkey

end Run

/-! ## A part that is lost -/

/-- The classes among some declared types, each with its base types and its wire names. -/
def classRows (cs : List Contract) : List (String × List String × List String) :=
  cs.filterMap fun
    | .classDecl d => some (d.name, d.bases, wireNames d)
    | .enumDecl _ => none

theorem mem_classRows {cs : List Contract} {d : ClassDecl} (h : .classDecl d ∈ cs) :
    (d.name, d.bases, wireNames d) ∈ classRows cs :=
  List.mem_filterMap.2 ⟨_, h, rfl⟩

theorem Carries.exists_row {cs : List Contract} {type wire : String} (h : Carries cs type wire) :
    ∃ bases wires, (type, bases, wires) ∈ classRows cs
      ∧ (wire ∈ wires ∨ ∃ base ∈ bases, Carries cs base wire) := by
  cases h with
  | own hd hwire => exact ⟨_, _, mem_classRows hd, .inl hwire⟩
  | base hd hbase h => exact ⟨_, _, mem_classRows hd, .inr ⟨_, hbase, h⟩⟩

/-- A reference to a schema. -/
def referenceTo (number : Nat) (name : String) : Value :=
  .object number [(.text "$ref", .text ("#/components/schemas/" ++ name))]

/-- A schema with one textual property, composed of some parts. -/
def composedSchema (number : Nat) (property : String) (parts : List Value) : Value :=
  .object number [(.text "allOf", .list parts), (.text "properties", .object (number + 1) [
    (.text property, .object (number + 2) [(.text "type", .text "string")])])]

/-- A schema that is composed of two others.  The first is its base type, the second is
flattened and is composed of a schema of its own. -/
def flattenedTop : Value :=
  composedSchema 11 "kind" [referenceTo 14 "Other", referenceTo 15 "Middle"]

/-- A document with a composition of which one part is flattened. -/
def flatteningDocument : Document where
  schemas := [
    ("Base", composedSchema 1 "code" []),
    ("Middle", composedSchema 4 "size" [referenceTo 7 "Base"]),
    ("Other", composedSchema 8 "name" []),
    ("Top", flattenedTop)]

/-- The classes for that document. -/
def flatteningRows : List (String × List String × List String) :=
  [("Base", [], ["code"]), ("Middle", ["Base"], ["size"]), ("Other", [], ["name"]),
    ("Top", ["Other"], ["kind", "size"])]

set_option maxRecDepth 10000 in
theorem flatteningDocument_run :
    ∃ cs l, Returns (contracts (.of { openApiPath := "top.json" } flatteningDocument)) {} cs l
      ∧ classRows cs = flatteningRows := by
  refine exists_returns_of_map ?_
  decide +kernel

theorem carries_composition_flattened :
    ∃ cs l, Returns (contracts (.of { openApiPath := "top.json" } flatteningDocument)) {} cs l
      ∧ ("Top", flattenedTop) ∈ flatteningDocument.schemas ∧ flattenedTop.listsValues = false
      ∧ ((∀ key, InComposition (Catalogue.ofSchemas flatteningDocument.schemas) flattenedTop key →
          CarriesKey cs "Top" key)
        ↔ ∀ key, Buried (Catalogue.ofSchemas flatteningDocument.schemas) flattenedTop key →
          CarriesKey cs "Top" key) := by
  obtain ⟨cs, l, hrun, -⟩ := flatteningDocument_run
  have hmem : ("Top", flattenedTop) ∈ flatteningDocument.schemas := by
    simp [flatteningDocument]
  have hplain : flattenedTop.listsValues = false := by decide +kernel
  have hname : (Context.of { openApiPath := "top.json" } flatteningDocument).catalogue.typeName
      "Top" = "Top" := by
    decide +kernel
  obtain ⟨-, -, hiff⟩ := carries_composition_iff _ _ hrun hmem hplain
  rw [hname] at hiff
  exact ⟨cs, l, hrun, hmem, hplain, hiff⟩

/-- What the second part of the schema is composed of is in its composition but is not carried
by its class. -/
theorem composition_lost :
    ∃ cs l, Returns (contracts (.of { openApiPath := "top.json" } flatteningDocument)) {} cs l
      ∧ InComposition (Catalogue.ofSchemas flatteningDocument.schemas) flattenedTop (.text "code")
      ∧ ¬ CarriesKey cs "Top" (.text "code") := by
  obtain ⟨cs, l, hrun, hrows⟩ := flatteningDocument_run
  refine ⟨cs, l, hrun, ?_, ?_⟩
  · -- `code` is a property of `Base`, which is a part of `Middle`, which is a part of `Top`
    have hmiddle : partSchema (Catalogue.ofSchemas flatteningDocument.schemas)
        (referenceTo 15 "Middle") = composedSchema 4 "size" [referenceTo 7 "Base"] := rfl
    have hbase : partSchema (Catalogue.ofSchemas flatteningDocument.schemas)
        (referenceTo 7 "Base") = composedSchema 1 "code" [] := rfl
    have htopParts : referenceTo 15 "Middle" ∈ partsOf flattenedTop :=
      List.mem_cons_of_mem _ List.mem_cons_self
    refine .part htopParts ?_
    rw [hmiddle]
    have hmiddleParts : referenceTo 7 "Base"
        ∈ partsOf (composedSchema 4 "size" [referenceTo 7 "Base"]) := List.mem_cons_self
    refine .part hmiddleParts ?_
    rw [hbase]
    exact .own List.mem_cons_self
  · rw [carriesKey_text_iff]
    intro hcarries
    obtain ⟨bases, wires, hrow, hor⟩ := hcarries.exists_row
    rw [hrows] at hrow
    have htop : bases = ["Other"] ∧ wires = ["kind", "size"] := by
      simpa [flatteningRows] using hrow
    obtain ⟨rfl, rfl⟩ := htop
    rcases hor with hwire | ⟨base, hbase, hother⟩
    · revert hwire
      decide
    · rw [List.mem_singleton.1 hbase] at hother
      obtain ⟨bases, wires, hrow, hor⟩ := hother.exists_row
      rw [hrows] at hrow
      have hnone : bases = [] ∧ wires = ["name"] := by
        simpa [flatteningRows] using hrow
      obtain ⟨rfl, rfl⟩ := hnone
      rcases hor with hwire | ⟨base, hbase, -⟩
      · revert hwire
        decide
      · cases hbase

end OpenApiClient.Generate
