/-
Base types, and whether there are such types.

The base type of a class is the collection that an array is derived from, or else the type of the
schema that the first reference in its composition is to.  That schema is not looked at when its
name is taken, while the decision what is declared for it looks at the values that it lists.  So
the base type is a declared class exactly if the schema lists none; if it lists texts or integers
the base type is an enumeration, and if it lists numbers of another type there is no type of that
name at all.
-/
import OpenApiClient.Proofs.Inheritance

set_option autoImplicit false

namespace OpenApiClient.Generate

open CSharp
open Schema

variable {x : Context}

/-! ## Which base type a class gets -/

/-- A base type is the collection of some type. -/
def IsCollection (base : String) : Prop :=
  ∃ item : TypeUse, base = collectionClass ++ "<" ++ item.render ++ ">"

theorem IsCollection.point_mem {base : String} (h : IsCollection base) : '.' ∈ base.toList := by
  obtain ⟨item, rfl⟩ := h
  exact point_mem_collectionClass _

/-- An array is derived from the collection of its items, and from nothing else. -/
theorem bases_of_array {typeName : String} {v : Value} {parts : ClassParts} {l l' : Ledger}
    (h : Returns (classParts x typeName v) l parts l') (ha : isArray v) :
    ∃ base, parts.bases = [base] ∧ IsCollection base := by
  obtain ⟨own, bases, composed, -, hbases, -, hfold⟩ := returns_classParts_iff.1 h
  rcases returns_arrayBases hbases with ⟨-, item, l₁, -, rfl⟩ | ⟨hnot, -⟩
  · -- a base type that is there before the parts are gone through stays the only one
    obtain ⟨hsame, -⟩ := addParts_based (List.cons_ne_nil _ _) hfold
    exact ⟨_, hsame, item, rfl⟩
  · exact absurd ha hnot

/-- Any other class is derived from what the first reference in its composition is to. -/
theorem base_of_parts {typeName : String} {v : Value} {parts : ClassParts} {l l' : Ledger}
    (h : Returns (classParts x typeName v) l parts l') (ha : ¬ isArray v) {base : String}
    (hbase : base ∈ parts.bases) :
    ∃ part, basePart? v = some part ∧ NamesPart x.catalogue part base := by
  obtain ⟨own, bases, composed, -, hbases, hcomposed, hfold⟩ := returns_classParts_iff.1 h
  rcases returns_arrayBases hbases with ⟨harray, -⟩ | ⟨-, rfl⟩
  · exact absurd harray ha
  · obtain ⟨hto, -, -⟩ := addParts_spec rfl hfold
    obtain ⟨part, hpart, hnames⟩ := hto base hbase
    refine ⟨part, ?_, hnames⟩
    rw [basePart?, if_neg ha, partsOf_eq hcomposed]
    exact hpart

theorem base_of_classParts {typeName : String} {v : Value} {parts : ClassParts} {l l' : Ledger}
    (h : Returns (classParts x typeName v) l parts l') {base : String}
    (hbase : base ∈ parts.bases) :
    IsCollection base
      ∨ ∃ part, basePart? v = some part ∧ NamesPart x.catalogue part base := by
  by_cases ha : isArray v
  · obtain ⟨collection, hbases, hcollection⟩ := bases_of_array h ha
    rw [hbases, List.mem_singleton] at hbase
    rw [hbase]
    exact .inl hcollection
  · exact .inr (base_of_parts h ha hbase)

/-! ## What is declared under a name -/

/-- A class is declared under a name. -/
def DeclaresClass (cs : List Contract) (name : String) : Prop :=
  ∃ d, .classDecl d ∈ cs ∧ d.name = name

/-- An enumeration is declared under a name. -/
def DeclaresEnum (cs : List Contract) (name : String) : Prop :=
  ∃ d, .enumDecl d ∈ cs ∧ d.name = name

section Run

variable {s : Settings} {d : Document} {cs : List Contract} {l : Ledger}

theorem declaresClass_iff (h : Returns (contracts (.of s d)) {} cs l) {e : String × Value}
    (he : e ∈ d.schemas) :
    DeclaresClass cs ((Context.of s d).catalogue.typeName e.1) ↔ e.2.listsValues = false := by
  constructor
  · rintro ⟨cl, hcl, hname⟩
    exact (classOf_of_name h he hcl hname).2
  · intro hplain
    exact exists_class h he hplain

theorem declaresEnum_iff (h : Returns (contracts (.of s d)) {} cs l) {e : String × Value}
    (he : e ∈ d.schemas) :
    DeclaresEnum cs ((Context.of s d).catalogue.typeName e.1) ↔ e.2.isEnumSchema := by
  constructor
  · rintro ⟨en, hen, hname⟩
    exact (madeFrom_of_name h he hen hname).2.enumDecl.1
  · intro henum
    have hdeclared : e.2.isDeclared := by
      rw [Value.isDeclared, henum, Bool.or_true]
    obtain ⟨c, hc, hmade⟩ := exists_contract h he hdeclared
    cases c with
    | classDecl cl =>
      rw [hmade.classDecl.1] at henum
      cases henum
    | enumDecl en => exact ⟨en, hc, hmade.name⟩

theorem declares_iff (h : Returns (contracts (.of s d)) {} cs l) {e : String × Value}
    (he : e ∈ d.schemas) :
    (∃ c ∈ cs, c.name = (Context.of s d).catalogue.typeName e.1) ↔ e.2.isDeclared := by
  constructor
  · rintro ⟨c, hc, hname⟩
    exact (madeFrom_of_name h he hc hname).1
  · intro hdeclared
    obtain ⟨c, hc, hmade⟩ := exists_contract h he hdeclared
    exact ⟨c, hc, hmade.name⟩

end Run

/-- Every base type of a class is the collection that an array is derived from, or the type of the
named schema that the first reference in the composition of its schema is to.  In the second case
the contracts declare a class of that name exactly if that schema lists no values, an enumeration
if what it lists are texts or integers, and nothing if it lists other numbers. -/
theorem base_types (s : Settings) (d : Document) {cs : List Contract} {l : Ledger}
    (h : Returns (contracts (.of s d)) {} cs l) {cl : ClassDecl} (hcl : .classDecl cl ∈ cs)
    {base : String} (hbase : base ∈ cl.bases) :
    IsCollection base
      ∨ ∃ f ∈ declaredSchemas (.of s d) d.schemas ++ l.inlined, f.1 = cl.name
        ∧ ∃ part, basePart? f.2 = some part
          ∧ ∃ e ∈ d.schemas, partSchema (Context.of s d).catalogue part = e.2
            ∧ base = (Context.of s d).catalogue.typeName e.1
            ∧ (DeclaresClass cs base ↔ e.2.listsValues = false)
            ∧ (DeclaresEnum cs base ↔ e.2.isEnumSchema)
            ∧ ((∃ c ∈ cs, c.name = base) ↔ e.2.isDeclared) := by
  obtain ⟨_, _, _, _, -, -, -, -, hmade⟩ := contracts_stages h
  obtain ⟨f, hf, hclf⟩ := exists_right_of_mem hmade hcl
  obtain ⟨-, k, k', hreturns⟩ := hclf.classDecl
  obtain ⟨parts, k₁, k₂, hparts, -, -, hbases⟩ := returns_classDecl hreturns
  rw [hbases] at hbase
  refine (base_of_classParts hparts hbase).imp_right ?_
  rintro ⟨part, hpart, e, he, htarget, rfl⟩
  exact ⟨f, hf, hclf.name.symm, part, hpart, e, he, htarget, rfl, declaresClass_iff h he,
    declaresEnum_iff h he, declares_iff h he⟩

/-- A schema that is composed of another one only. -/
def derivedSchema (number : Nat) (name : String) : Value :=
  .object number [(.text "allOf", .list [referenceTo (number + 1) name])]

/-- A document with schemas that are derived from an object, from an enumeration and from a list of
numbers, and with an array. -/
def paintDocument : Document where
  schemas := [
    ("Base", composedSchema 1 "id" []),
    ("Color", .object 4 [(.text "type", .text "string"), (.text "enum", .list [.text "red"])]),
    ("Rate", .object 5 [(.text "type", .text "number"), (.text "enum", .list [.int 1, .int 2])]),
    ("Pot", derivedSchema 6 "Base"),
    ("Paint", derivedSchema 8 "Color"),
    ("Price", derivedSchema 10 "Rate"),
    ("Shelf", .object 12 [(.text "type", .text "array"), (.text "items", referenceTo 13 "Pot")])]

/-- The settings for that document. -/
def paintSettings : Settings := { openApiPath := "paint.json" }

/-- The classes for that document. -/
def paintRows : List (String × List String × List String) :=
  [("Base", [], ["id"]), ("Pot", ["Base"], []), ("Paint", ["Color"], []), ("Price", ["Rate"], []),
    ("Shelf", ["System.Collections.ObjectModel.Collection<Pot>"], [])]

theorem paintDocument_run :
    ∃ cs l, Returns (contracts (.of paintSettings paintDocument)) {} cs l
      ∧ (classRows cs, cs.map Contract.name)
        = (paintRows, ["Base", "Color", "Pot", "Paint", "Price", "Shelf"]) := by
  refine exists_returns_of_map ?_
  decide +kernel

theorem exists_class_of_row {cs : List Contract} {name : String} {bases wires : List String}
    (h : (name, bases, wires) ∈ classRows cs) :
    ∃ cl, .classDecl cl ∈ cs ∧ cl.name = name ∧ cl.bases = bases := by
  obtain ⟨c, hc, hrow⟩ := List.mem_filterMap.1 h
  cases c with
  | classDecl cl =>
    cases hrow
    exact ⟨cl, hc, rfl, rfl⟩
  | enumDecl en => cases hrow

theorem base_types_paint :
    ∃ cs l cl, Returns (contracts (.of paintSettings paintDocument)) {} cs l
      ∧ .classDecl cl ∈ cs ∧ cl.name = "Paint" ∧ "Color" ∈ cl.bases
      ∧ (IsCollection "Color"
        ∨ ∃ f ∈ declaredSchemas (.of paintSettings paintDocument) paintDocument.schemas
            ++ l.inlined,
          f.1 = cl.name
          ∧ ∃ part, basePart? f.2 = some part
            ∧ ∃ e ∈ paintDocument.schemas,
              partSchema (Context.of paintSettings paintDocument).catalogue part = e.2
              ∧ "Color" = (Context.of paintSettings paintDocument).catalogue.typeName e.1
              ∧ (DeclaresClass cs "Color" ↔ e.2.listsValues = false)
              ∧ (DeclaresEnum cs "Color" ↔ e.2.isEnumSchema)
              ∧ ((∃ c ∈ cs, c.name = "Color") ↔ e.2.isDeclared)) := by
  obtain ⟨cs, l, hrun, hrows⟩ := paintDocument_run
  obtain ⟨hrows, -⟩ := Prod.mk.inj hrows
  have hrow : ("Paint", ["Color"], []) ∈ classRows cs := by
    rw [hrows]
    decide
  obtain ⟨cl, hcl, hname, hbases⟩ := exists_class_of_row hrow
  have hbase : "Color" ∈ cl.bases := by
    rw [hbases]
    exact List.mem_cons_self
  exact ⟨cs, l, cl, hrun, hcl, hname, hbase, base_types _ _ hrun hcl hbase⟩

/-- One class has an enumeration as its base type, and another one a type that is not declared. -/
theorem base_types_misfit :
    ∃ cs l paint price, Returns (contracts (.of paintSettings paintDocument)) {} cs l
      ∧ .classDecl paint ∈ cs ∧ paint.bases = ["Color"]
      ∧ ¬ IsCollection "Color" ∧ ¬ DeclaresClass cs "Color"
      ∧ .classDecl price ∈ cs ∧ price.bases = ["Rate"]
      ∧ ¬ IsCollection "Rate" ∧ ¬ ∃ c ∈ cs, c.name = "Rate" := by
  obtain ⟨cs, l, hrun, hboth⟩ := paintDocument_run
  obtain ⟨hrows, hnames⟩ := Prod.mk.inj hboth
  have hpaint : ("Paint", ["Color"], []) ∈ classRows cs := by
    rw [hrows]
    decide
  have hprice : ("Price", ["Rate"], []) ∈ classRows cs := by
    rw [hrows]
    decide
  obtain ⟨paint, hpaint, -, hpaintBases⟩ := exists_class_of_row hpaint
  obtain ⟨price, hprice, -, hpriceBases⟩ := exists_class_of_row hprice
  refine ⟨cs, l, paint, price, hrun, hpaint, hpaintBases, fun hcollection => ?_, ?_, hprice,
    hpriceBases, fun hcollection => ?_, ?_⟩
  · exact absurd hcollection.point_mem (by decide)
  · -- the classes are those of the rows, and none of these is called so
    rintro ⟨cl, hcl, hname⟩
    have hrow := mem_classRows hcl
    rw [hname, hrows] at hrow
    have hnone : ∀ row ∈ paintRows, row.1 ≠ "Color" := by decide
    exact hnone _ hrow rfl
  · exact absurd hcollection.point_mem (by decide)
  · rintro ⟨c, hc, hname⟩
    have hmem : c.name ∈ cs.map Contract.name := List.mem_map_of_mem hc
    rw [hname, hnames] at hmem
    revert hmem
    decide

end OpenApiClient.Generate
