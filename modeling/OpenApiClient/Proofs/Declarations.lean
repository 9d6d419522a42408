/-
Which types a run declares.

The types of the named schemas come first.  Then the list of objects that got a name on the way
is worked off while it grows.  That it is worked off to its end is a count: the objects in it
are different and stand in the document, so it never gets longer than the document has objects,
and `Context.objects` is that number.

Names come from three places, but all of them are either on the list of type names of the
catalogue or were entered into the ledger, and the invariant keeps these apart.
-/
import Mathlib.Data.List.Dedup
import OpenApiClient.Proofs.Agreement
import OpenApiClient.Proofs.Emission

set_option autoImplicit false

namespace OpenApiClient

open Generate

/-! ## The names of the named schemas -/

/-- Looking up all keys of a table in turn gives its values, if the keys are different. -/
theorem map_lookup_zip {α : Type} {keys : List String} {values : List α} (f : String → α)
    (hkeys : keys.Nodup) (hlength : keys.length = values.length) :
    (keys.map fun key => ((keys.zip values).lookup key).getD (f key)) = values := by
  induction keys generalizing values with
  | nil =>
    rw [List.length_nil] at hlength
    rw [List.eq_nil_of_length_eq_zero hlength.symm]
    rfl
  | cons key keys ih =>
    cases values with
    | nil => cases hlength
    | cons value values =>
      obtain ⟨hnew, hrest⟩ := List.nodup_cons.1 hkeys
      rw [List.map_cons, List.zip_cons_cons, List.lookup_cons_self, Option.getD_some]
      congr 1
      refine Eq.trans (List.map_congr_left ?_) (ih hrest (by simpa using hlength))
      intro k hk
      have hne : (k == key) = false := by
        rw [beq_eq_false_iff_ne]
        rintro rfl
        exact hnew hk
      rw [List.lookup_cons, hne]

namespace Schema.Catalogue

theorem typeNames_map_snd (schemas : List (String × Value)) :
    (ofSchemas schemas).typeNames.map (·.2)
      = (Naming.freshAll [] ((schemas.map (·.1)).map Naming.schemaTypeName)).1 := by
  have hlength := Naming.freshAll_length [] ((schemas.map (·.1)).map Naming.schemaTypeName)
  rw [List.length_map] at hlength
  exact List.map_snd_zip (Nat.le_of_eq hlength)

theorem typeNames_nodup (schemas : List (String × Value)) :
    ((ofSchemas schemas).typeNames.map (·.2)).Nodup := by
  rw [typeNames_map_snd]
  exact (Naming.freshAll_nodup _ _).1

theorem typeNames_spelled (schemas : List (String × Value)) :
    ∀ name ∈ (ofSchemas schemas).typeNames.map (·.2), Naming.IsSpelled name.toList := by
  rw [typeNames_map_snd]
  refine Naming.isSpelled_freshAll [] ?_
  intro name hname
  obtain ⟨key, -, rfl⟩ := List.mem_map.1 hname
  exact Naming.isSpelled_schemaTypeName key

/-- If the names of the schemas are different, their types have the names on the list of type
names, in the same order. -/
theorem map_typeName {schemas : List (String × Value)} (h : (schemas.map (·.1)).Nodup) :
    (schemas.map fun e => (ofSchemas schemas).typeName e.1)
      = (ofSchemas schemas).typeNames.map (·.2) := by
  have hlength := Naming.freshAll_length [] ((schemas.map (·.1)).map Naming.schemaTypeName)
  rw [List.length_map] at hlength
  have hmap := map_lookup_zip Naming.schemaTypeName h hlength.symm
  rw [List.map_map] at hmap
  rw [typeNames_map_snd]
  exact hmap

/-- A run begins with a sound ledger. -/
theorem sound_empty (schemas : List (String × Value)) (pool : List Nat) :
    Ledger.Sound (ofSchemas schemas) pool {} := by
  refine ⟨?_, List.nodup_nil, by simp, by simp, by simp⟩
  rw [List.map_nil, List.append_nil]
  exact typeNames_nodup schemas

end Schema.Catalogue

namespace Generate

open Schema

/-! ## The objects of a document -/

/-- The numbers of all objects that types can be asked for. -/
def Context.pool (x : Context) : List Nat :=
  Value.numbersOfItems (x.catalogue.schemas.map (·.2))
    ++ Value.numbersOfItems ((x.document.operations.flatMap ownedSchemas).map (·.2))

theorem pool_length (s : Settings) (d : Document) :
    (Context.of s d).pool.length = (Context.of s d).objects := by
  rw [Context.pool, List.length_append, Value.numbersOfItems_length,
    Value.numbersOfItems_length]
  rfl

theorem Context.within_schemas (x : Context) : x.catalogue.Within x.pool := by
  intro e he n hn
  refine List.mem_append_left _ (Value.mem_numbersOfItems.2 ⟨e.2, ?_, hn⟩)
  exact List.mem_map_of_mem he

theorem Context.within_owned (x : Context) :
    ∀ e ∈ x.document.operations.flatMap ownedSchemas, e.2.Within x.pool := by
  intro e he n hn
  refine List.mem_append_right _ (Value.mem_numbersOfItems.2 ⟨e.2, ?_, hn⟩)
  exact List.mem_map_of_mem he

/-- The operations that code is generated for are operations of the document. -/
theorem Context.operations_subset {x : Context} {ops : List Operation}
    (h : x.operations = .ok ops) : ops ⊆ x.document.operations := by
  have hselected := mapError_eq_ok_iff.1 h
  unfold Document.selected at hselected
  obtain ⟨patterns, -, hops⟩ := bind_eq_ok_iff.1 hselected
  rw [pure_eq_ok_iff] at hops
  rw [← hops]
  exact List.filter_subset_self _

/-- In a sound ledger there are no more objects than there are different numbers in the pool. -/
theorem sound_length_le {c : Catalogue} {pool : List Nat} {l : Ledger} (h : l.Sound c pool) :
    l.inlined.length ≤ pool.dedup.length := by
  have hsub : (l.inlined.map fun e => objectNumber? e.2) ⊆ pool.dedup.map some := by
    intro n hn
    obtain ⟨e, he, rfl⟩ := List.mem_map.1 hn
    obtain ⟨hobject, hwithin⟩ := h.objects e he
    cases hv : e.2 with
    | object k ms =>
      rw [hv] at hwithin
      exact List.mem_map_of_mem (List.mem_dedup.2 (Value.within_object_iff.1 hwithin).1)
    | _ =>
      rw [hv] at hobject
      cases hobject
  have hle := (List.subperm_of_subset h.numbers hsub).length_le
  rwa [List.length_map, List.length_map] at hle

/-- In a sound ledger there are no more objects than in the document. -/
theorem inlined_length_le {x : Context} {l : Ledger} (h : l.Sound x.catalogue x.pool) :
    l.inlined.length ≤ x.pool.length :=
  Nat.le_trans (sound_length_le h) (List.dedup_sublist x.pool).length_le

/-! ## Declared types -/

/-- A declared type is what is made from a schema under a name. -/
def MadeFrom (x : Context) (c : Contract) (e : String × Value) : Prop :=
  ∃ l l', Returns (contract x e.1 e.2) l c l'

theorem MadeFrom.name {x : Context} {c : Contract} {e : String × Value} (h : MadeFrom x c e) :
    c.name = e.1 := by
  obtain ⟨l, l', h⟩ := h
  unfold contract at h
  split at h
  · simp only [enumDecl, returns_bind_iff, returns_pure_iff] at h
    obtain ⟨_, _, ⟨_, _, _, _, _, _, _, _, _, _, _, _, _, _, _, rfl, _⟩, rfl, _⟩ := h
    rfl
  · simp only [classDecl, returns_bind_iff, returns_pure_iff] at h
    obtain ⟨_, _, ⟨_, _, _, _, _, _, _, _, _, _, _, _, rfl, _⟩, rfl, _⟩ := h
    rfl

/-- A class is made from a schema that is declared as no enumeration. -/
theorem MadeFrom.classDecl {x : Context} {d : CSharp.ClassDecl} {e : String × Value}
    (h : MadeFrom x (.classDecl d) e) :
    e.2.isEnumSchema = false ∧ ∃ l l', Returns (Generate.classDecl x e.1 e.2) l d l' := by
  obtain ⟨l, l', h⟩ := h
  unfold contract at h
  by_cases henum : e.2.isEnumSchema
  · rw [if_pos henum] at h
    obtain ⟨_, _, -, h⟩ := returns_bind_iff.1 h
    cases (returns_pure_iff.1 h).1
  · rw [if_neg henum] at h
    obtain ⟨d', l₁, hd, h⟩ := returns_bind_iff.1 h
    cases (returns_pure_iff.1 h).1
    exact ⟨by simpa using henum, l, l₁, hd⟩

/-- An enumeration is made from a schema that is declared as one. -/
theorem MadeFrom.enumDecl {x : Context} {d : CSharp.EnumDecl} {e : String × Value}
    (h : MadeFrom x (.enumDecl d) e) :
    e.2.isEnumSchema ∧ ∃ l l', Returns (Generate.enumDecl x e.1 e.2) l d l' := by
  obtain ⟨l, l', h⟩ := h
  unfold contract at h
  by_cases henum : e.2.isEnumSchema
  · rw [if_pos henum] at h
    obtain ⟨d', l₁, hd, h⟩ := returns_bind_iff.1 h
    cases (returns_pure_iff.1 h).1
    exact ⟨henum, l, l₁, hd⟩
  · rw [if_neg henum] at h
    obtain ⟨_, _, -, h⟩ := returns_bind_iff.1 h
    cases (returns_pure_iff.1 h).1

/-- The named schemas that are declared, each with the name of its type. -/
def declaredSchemas (x : Context) (schemas : List (String × Value)) : List (String × Value) :=
  (schemas.filter (·.2.isDeclared)).map fun e => (x.catalogue.typeName e.1, e.2)

theorem map_name_eq {x : Context} {cs : List Contract} {es : List (String × Value)}
    (h : List.Forall₂ (MadeFrom x) cs es) : cs.map Contract.name = es.map (·.1) := by
  induction h with
  | nil => rfl
  | cons hc _ ih => rw [List.map_cons, List.map_cons, hc.name, ih]

theorem declaredSchemas_cons (x : Context) (e : String × Value) (rest : List (String × Value)) :
    declaredSchemas x (e :: rest)
      = if e.2.isDeclared then (x.catalogue.typeName e.1, e.2) :: declaredSchemas x rest
        else declaredSchemas x rest := by
  unfold declaredSchemas
  rw [List.filter_cons]
  by_cases h : e.2.isDeclared
  · rw [if_pos h, if_pos h, List.map_cons]
  · rw [if_neg h, if_neg h]

theorem namedContracts_madeFrom {x : Context} {schemas : List (String × Value)}
    {cs : List Contract} {l l' : Ledger} (h : Returns (namedContracts x schemas) l cs l') :
    List.Forall₂ (MadeFrom x) cs (declaredSchemas x schemas) := by
  induction schemas generalizing cs l with
  | nil =>
    obtain ⟨rfl, -⟩ := returns_pure_iff.1 h
    exact .nil
  | cons e rest ih =>
    rw [namedContracts] at h
    by_cases hdeclared : e.2.isDeclared
    · rw [if_pos hdeclared] at h
      obtain ⟨c, l₁, hc, h⟩ := returns_bind_iff.1 h
      obtain ⟨cs', l₂, hrest, h⟩ := returns_bind_iff.1 h
      obtain ⟨rfl, rfl⟩ := returns_pure_iff.1 h
      rw [declaredSchemas_cons, if_pos hdeclared]
      exact .cons ⟨l, l₁, hc⟩ (ih hrest)
    · rw [if_neg hdeclared] at h
      rw [declaredSchemas_cons, if_neg hdeclared]
      exact ih h

/-! ## Working off the ledger -/

/-- From an index on, every object of the ledger at the end has been declared, if the fuel
covers what can still come. -/
theorem inlineContracts_madeFrom {x : Context} {fuel index : Nat} {cs : List Contract}
    {l l' : Ledger} (hl : l.Sound x.catalogue x.pool) (hfuel : x.pool.length < fuel + index)
    (h : Returns (inlineContracts x fuel index) l cs l') :
    List.Forall₂ (MadeFrom x) cs (l'.inlined.drop index) ∧ l.Grows l'
      ∧ l'.Sound x.catalogue x.pool := by
  -- the invariant bounds the ledger, so the fuel is only used up behind its end
  induction fuel generalizing index cs l with
  | zero =>
    obtain ⟨rfl, rfl⟩ := returns_pure_iff.1 h
    have hlength := inlined_length_le hl
    rw [List.drop_eq_nil_of_le (by omega)]
    exact ⟨.nil, Ledger.Grows.refl _, hl⟩
  | succ fuel ih =>
    rw [inlineContracts] at h
    obtain ⟨k, k', hget, h⟩ := returns_bind_iff.1 h
    obtain ⟨hk, hk'⟩ := returns_get_iff.1 hget
    rw [hk, hk'] at h
    cases hat : l.inlined[index]? with
    | none =>
      rw [hat] at h
      obtain ⟨rfl, rfl⟩ := returns_pure_iff.1 h
      rw [List.drop_eq_nil_of_le (List.getElem?_eq_none_iff.1 hat)]
      exact ⟨.nil, Ledger.Grows.refl _, hl⟩
    | some e =>
      rw [hat] at h
      obtain ⟨c, l₁, hc, h⟩ := returns_bind_iff.1 h
      obtain ⟨cs', l₂, hrest, h⟩ := returns_bind_iff.1 h
      obtain ⟨rfl, rfl⟩ := returns_pure_iff.1 h
      have hmem : e ∈ l.inlined := List.mem_of_getElem? hat
      obtain ⟨hgrows, hsound⟩ :=
        keeps_contract x.within_schemas e.1 (hl.objects e hmem).2 l c l₁ hc
      obtain ⟨hmade, hgrows', hsound'⟩ := ih (hsound hl) (by omega) hrest
      -- what stood at the index when it was read still stands there at the end
      have hat' : l'.inlined[index]? = some e := by
        obtain ⟨later, hlater⟩ := (hgrows.trans hgrows').inlined
        rw [← hlater, List.getElem?_append_left (List.getElem?_eq_some_iff.1 hat).1, hat]
      rw [List.drop_eq_getElem?_toList_append, hat']
      exact ⟨.cons ⟨l, l₁, hc⟩ hmade, hgrows.trans hgrows', hsound'⟩

/-! ## A whole run -/

/-- The steps of a run: the named schemas, the schemas of the operations, and what has been
found on the way. -/
theorem returns_contracts_iff {x : Context} {cs : List Contract} {l l' : Ledger} :
    Returns (contracts x) l cs l' ↔
      ∃ named inlined ops l₁ l₂ u, Returns (namedContracts x x.document.schemas) l named l₁
        ∧ x.operations = .ok ops ∧ Returns (register x (ops.flatMap ownedSchemas)) l₁ u l₂
        ∧ Returns (inlineContracts x (x.objects + 1) 0) l₂ inlined l' ∧ cs = named ++ inlined := by
  unfold contracts
  simp only [returns_bind_iff, returns_liftFault_iff, returns_pure_iff]
  constructor
  · rintro ⟨named, l₁, hnamed, ops, _, ⟨hops, rfl⟩, u, l₂, hregister, inlined, _, hinlined,
      rfl, rfl⟩
    exact ⟨named, inlined, ops, _, l₂, u, hnamed, hops, hregister, hinlined, rfl⟩
  · rintro ⟨named, inlined, ops, l₁, l₂, u, hnamed, hops, hregister, hinlined, rfl⟩
    exact ⟨named, l₁, hnamed, ops, l₁, ⟨hops, rfl⟩, u, l₂, hregister, inlined, l', hinlined,
      rfl, rfl⟩

/-- The schemas of the operations that code is generated for stand in the document. -/
theorem within_flatMap_ownedSchemas {s : Settings} {d : Document} {ops : List Operation}
    (hops : (Context.of s d).operations = .ok ops) :
    ∀ e ∈ ops.flatMap ownedSchemas, e.2.Within (Context.of s d).pool := by
  intro e he
  obtain ⟨o, ho, he⟩ := List.mem_flatMap.1 he
  refine Context.within_owned _ e (List.mem_flatMap.2 ⟨o, ?_, he⟩)
  exact Context.operations_subset hops ho

/-- The ledger is sound when the schemas of the operations have been asked for, with any pool
that covers these and the named schemas. -/
theorem sound_of_within {s : Settings} {d : Document} {pool : List Nat} {named : List Contract}
    {ops : List Operation} {l₁ l₂ : Ledger} {u : Unit}
    (hschemas : (Context.of s d).catalogue.Within pool)
    (howned : ∀ e ∈ ops.flatMap ownedSchemas, e.2.Within pool)
    (hnamed : Returns (namedContracts (.of s d) d.schemas) {} named l₁)
    (hregister : Returns (register (.of s d) (ops.flatMap ownedSchemas)) l₁ u l₂) :
    l₂.Sound (Context.of s d).catalogue pool := by
  have hsound₁ := (keeps_namedContracts hschemas hschemas {} named l₁ hnamed).2
    (Catalogue.sound_empty d.schemas _)
  exact (keeps_register hschemas howned l₁ u l₂ hregister).2 hsound₁

theorem sound_register {s : Settings} {d : Document} {named : List Contract}
    {ops : List Operation} {l₁ l₂ : Ledger} {u : Unit}
    (hnamed : Returns (namedContracts (.of s d) d.schemas) {} named l₁)
    (hops : (Context.of s d).operations = .ok ops)
    (hregister : Returns (register (.of s d) (ops.flatMap ownedSchemas)) l₁ u l₂) :
    l₂.Sound (Context.of s d).catalogue (Context.of s d).pool :=
  sound_of_within (Context.of s d).within_schemas (within_flatMap_ownedSchemas hops) hnamed
    hregister

/-- The stages of a run, and what it does to the ledger.  The named schemas are written, the
schemas of the operations are asked for, the ledger continues from there and is sound at the
end, and the declared types are made from the declared schemas and the objects in it. -/
theorem contracts_phases {s : Settings} {d : Document} {cs : List Contract} {l : Ledger}
    (h : Returns (contracts (.of s d)) {} cs l) :
    ∃ named ops l₁ l₂ u, Returns (namedContracts (.of s d) d.schemas) {} named l₁
      ∧ (Context.of s d).operations = .ok ops
      ∧ Returns (register (.of s d) (ops.flatMap ownedSchemas)) l₁ u l₂ ∧ l₂.Grows l
      ∧ l.Sound (Context.of s d).catalogue (Context.of s d).pool
      ∧ List.Forall₂ (MadeFrom (.of s d)) cs
        (declaredSchemas (.of s d) d.schemas ++ l.inlined) := by
  obtain ⟨named, inlined, ops, l₁, l₂, u, hnamed, hops, hregister, hinlined, rfl⟩ :=
    returns_contracts_iff.1 h
  have hsound₂ := sound_register hnamed hops hregister
  -- the loop has more steps than there are objects
  have hfuel : (Context.of s d).pool.length < (Context.of s d).objects + 1 + 0 := by
    rw [pool_length]
    omega
  obtain ⟨hmade, hgrows, hsound⟩ := inlineContracts_madeFrom hsound₂ hfuel hinlined
  rw [List.drop_zero] at hmade
  exact ⟨named, ops, l₁, l₂, u, hnamed, hops, hregister, hgrows, hsound,
    List.rel_append (namedContracts_madeFrom hnamed) hmade⟩

/-- What a run does to the ledger, without its first stage. -/
theorem contracts_stages {s : Settings} {d : Document} {cs : List Contract} {l : Ledger}
    (h : Returns (contracts (.of s d)) {} cs l) :
    ∃ ops l₁ l₂ u, (Context.of s d).operations = .ok ops
      ∧ Returns (register (.of s d) (ops.flatMap ownedSchemas)) l₁ u l₂ ∧ l₂.Grows l
      ∧ l.Sound (Context.of s d).catalogue (Context.of s d).pool
      ∧ List.Forall₂ (MadeFrom (.of s d)) cs
        (declaredSchemas (.of s d) d.schemas ++ l.inlined) := by
  obtain ⟨_, ops, l₁, l₂, u, -, hrest⟩ := contracts_phases h
  exact ⟨ops, l₁, l₂, u, hrest⟩

/-- A run declares the types of the named schemas in their order, without those that list
values but are no enumerations, and then the types of the objects in its ledger, in theirs.
All names are different, and so are the objects. -/
theorem contracts_declare (s : Settings) (d : Document) {cs : List Contract} {l : Ledger}
    (h : Returns (contracts (.of s d)) {} cs l) :
    cs.map Contract.name
        = ((d.schemas.filter fun e => !(e.2.listsValues && !e.2.isEnumSchema)).map
            fun e => (Context.of s d).catalogue.typeName e.1) ++ l.inlined.map (·.1)
      ∧ (cs.map Contract.name).Nodup
      ∧ List.Forall₂ (MadeFrom (.of s d)) cs (declaredSchemas (.of s d) d.schemas ++ l.inlined)
      ∧ (∀ e ∈ l.inlined, e.2.isObject)
      ∧ (l.inlined.map fun e => objectNumber? e.2).Nodup := by
  obtain ⟨ops, l₁, l₂, u, -, -, -, hsound, hmade⟩ := contracts_stages h
  have hnames : cs.map Contract.name
      = (declaredSchemas (.of s d) d.schemas).map (·.1) ++ l.inlined.map (·.1) := by
    rw [map_name_eq hmade, List.map_append]
  refine ⟨?_, ?_, hmade, fun e he => (hsound.objects e he).1, hsound.numbers⟩
  · rw [hnames, declaredSchemas, List.map_map]
    congr 2
    refine List.filter_congr fun e _ => ?_
    rw [Value.isDeclared, Bool.not_and, Bool.not_not]
  · -- the names of the named schemas are some of those that the ledger avoids
    rw [hnames]
    refine List.Nodup.sublist (List.Sublist.append_right ?_ _) hsound.names
    rw [declaredSchemas, List.map_map]
    have hall := Catalogue.map_typeName d.distinct
    exact hall ▸ List.Sublist.map _ List.filter_sublist

/-- A document whose names clash: two schemas are spelled alike, and an object without a name
would be called like a schema.  Its rates are a list of numbers. -/
def clashingDocument : Document where
  schemas := [
    ("pet", .object 1 [(.text "properties", .object 2 [
      (.text "owner", .object 3 [(.text "properties", .object 4 [
        (.text "name", .object 5 [(.text "type", .text "string")])])])])]),
    ("Pet", .object 6 []),
    ("PetOwner", .object 7 []),
    ("rate", .object 8 [(.text "type", .text "number"), (.text "enum", .list [.int 1, .int 2])])]
  operations := [{
    verb := .post
    path := "/pets"
    parameters := [
      { name := "since", location := "query", schema := .object 14 [
        (.text "type", .text "string"), (.text "format", .text "date-time")] },
      { name := "rate", location := "query", schema := .object 15 [
        (.text "$ref", .text "#/components/schemas/rate")] }]
    requestBody := some (.object 9 [(.text "properties", .object 10 [
      (.text "kind", .object 11 [(.text "enum", .list [.text "cat", .text "dog"])])])])
    response := some (.object 12 [(.text "type", .text "array"),
      (.text "items", .object 13 [(.text "enum", .list [.text "a", .text "b"])])]) }]

set_option maxRecDepth 10000 in
theorem clashingDocument_contracts :
    ((contracts (.of { openApiPath := "pets.json" } clashingDocument)).run.run {}).1.toOption.map
        (·.map Contract.name)
      = some ["Pet", "Pet2", "PetOwner", "PetOwner2", "PostPetsBody", "PostPetsResponse",
          "PostPetsBodyKind"] := by
  decide +kernel

theorem contracts_declare_clashing :
    ∃ cs l, Returns (contracts (.of { openApiPath := "pets.json" } clashingDocument)) {} cs l
      ∧ cs.map Contract.name = ["Pet", "Pet2", "PetOwner", "PetOwner2", "PostPetsBody",
          "PostPetsResponse", "PostPetsBodyKind"]
      ∧ l.inlined.map (·.1)
          = ["PetOwner2", "PostPetsBody", "PostPetsResponse", "PostPetsBodyKind"] := by
  obtain ⟨cs, l, hrun, hcs⟩ := exists_returns_of_map clashingDocument_contracts
  refine ⟨cs, l, hrun, hcs, ?_⟩
  have hdeclare := (contracts_declare _ _ hrun).1
  have hnamed : ((clashingDocument.schemas.filter fun e =>
      !(e.2.listsValues && !e.2.isEnumSchema)).map fun e =>
        (Context.of { openApiPath := "pets.json" } clashingDocument).catalogue.typeName e.1)
      = ["Pet", "Pet2", "PetOwner"] := by decide +kernel
  rw [hcs, hnamed] at hdeclare
  simpa using hdeclare.symm

end Generate

end OpenApiClient
