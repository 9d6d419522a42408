/-
Operations that come later change nothing before them.

A document with more operations at its end goes through the same steps as the one without
them, up to where the schemas of the first operations have been asked for.  From there on the
two ledgers are different, but both continue the one that was reached, and writing the methods
of the first operations is quiet on every such ledger: it gives the same methods.

The two runs have different contexts.  What is compared of them looks at the settings and at the
catalogue only, so it does not see that the documents differ.
-/
import OpenApiClient.Proofs.ChosenNames
import OpenApiClient.Proofs.ClosedWorld
import OpenApiClient.Proofs.Readings

set_option autoImplicit false

namespace OpenApiClient.Generate

open CSharp
open Schema

/-! ## What does not look at the document -/

section Documents

variable (x : Context) (d : Document)

theorem writesLike_document : Context.WritesLike { x with document := d } x :=
  ⟨.refl _, rfl, rfl, rfl, rfl, rfl, rfl⟩

theorem namedContracts_document (schemas : List (String × Value)) :
    namedContracts { x with document := d } schemas = namedContracts x schemas :=
  (writesLike_document x d).namedContracts_eq schemas

theorem register_document (owned : List (String × Value)) :
    register { x with document := d } owned = register x owned :=
  (writesLike_document x d).register_eq owned

theorem methods_document (taken : List String) (os : List Operation) :
    methods { x with document := d } taken os = methods x taken os :=
  (writesLike_document x d).methods_eq taken os

end Documents

/-! ## Operations at the end -/

section Later

variable {x : Context}

/-- Schemas that are asked for later are asked for after the others. -/
theorem returns_register_append {first later : List (String × Value)} {u : Unit} {l l' : Ledger}
    (h : Returns (register x (first ++ later)) l u l') :
    ∃ l₁, Returns (register x first) l u l₁ ∧ Returns (register x later) l₁ u l' := by
  induction first generalizing l with
  | nil => exact ⟨l, returns_pure_iff.2 ⟨rfl, rfl⟩, h⟩
  | cons e first ih =>
    rw [List.cons_append, register] at h
    obtain ⟨t, l₁, ht, h⟩ := returns_bind_iff.1 h
    obtain ⟨l₂, hfirst, hlater⟩ := ih h
    rw [register]
    exact ⟨l₂, returns_bind_iff.2 ⟨t, l₁, ht, hfirst⟩, hlater⟩

/-- Asking for schemas continues the ledger. -/
theorem grows_register {owned : List (String × Value)} {u : Unit} {l l' : Ledger}
    (h : Returns (register x owned) l u l') : l.Grows l' := by
  -- the numbers of all schemas in question are a pool that they are within
  have hpool : ∀ v ∈ x.catalogue.schemas.map (·.2) ++ owned.map (·.2), v.Within
      (Value.numbersOfItems (x.catalogue.schemas.map (·.2) ++ owned.map (·.2))) :=
    fun v hv n hn => Value.mem_numbersOfItems.2 ⟨v, hv, hn⟩
  refine (keeps_register (fun e he => hpool e.2 ?_) (fun e he => hpool e.2 ?_) l u l' h).1
  · exact List.mem_append_left _ (List.mem_map_of_mem he)
  · exact List.mem_append_right _ (List.mem_map_of_mem he)

/-- The methods of the first operations come first. -/
theorem returns_methods_append {taken : List String} {first later : List Operation}
    {ms : List MethodSig} {l l' : Ledger}
    (h : Returns (methods x taken (first ++ later)) l ms l') :
    ∃ ms₁ l₁, Returns (methods x taken first) l ms₁ l₁ ∧ ms₁ <+: ms := by
  induction first generalizing taken ms l with
  | nil => exact ⟨[], l, returns_pure_iff.2 ⟨rfl, rfl⟩, List.nil_prefix⟩
  | cons o first ih =>
    rw [List.cons_append, methods] at h
    obtain ⟨m, l₁, hm, h⟩ := returns_bind_iff.1 h
    obtain ⟨rest, l₂, hrest, h⟩ := returns_bind_iff.1 h
    obtain ⟨rfl, rfl⟩ := returns_pure_iff.1 h
    obtain ⟨ms₁, l₃, hfirst, hprefix⟩ := ih hrest
    refine ⟨m :: ms₁, l₃, ?_, List.cons_prefix_cons.2 ⟨rfl, hprefix⟩⟩
    rw [methods]
    exact returns_bind_iff.2 ⟨m, l₁, hm, returns_bind_iff.2
      ⟨ms₁, l₃, hfirst, returns_pure_iff.2 ⟨rfl, rfl⟩⟩⟩

/-- Code is generated for the same operations, and then for some of the later ones. -/
theorem operations_append {s : Settings} {d d' : Document} {more ops ops' : List Operation}
    (hoperations : d'.operations = d.operations ++ more)
    (hops : (Context.of s d).operations = .ok ops)
    (hops' : (Context.of s d').operations = .ok ops') : ∃ later, ops' = ops ++ later := by
  have hselected := mapError_eq_ok_iff.1 hops
  have hselected' := mapError_eq_ok_iff.1 hops'
  unfold Document.selected at hselected hselected'
  obtain ⟨patterns, hpatterns, hfilter⟩ := bind_eq_ok_iff.1 hselected
  obtain ⟨patterns', hpatterns', hfilter'⟩ := bind_eq_ok_iff.1 hselected'
  have heq : patterns' = patterns := Except.ok.inj (hpatterns'.symm.trans hpatterns)
  have happend : (Context.of s d').document.operations
      = (Context.of s d).document.operations ++ more := hoperations
  rw [pure_eq_ok_iff] at hfilter hfilter'
  rw [heq, happend, List.filter_append] at hfilter'
  rw [← hfilter', ← hfilter]
  exact ⟨_, rfl⟩

end Later

/-- When a document is continued by further operations, and contracts and interface are written
for both documents, the methods for the first one are the leading methods for the second one,
unchanged and in the same order. -/
theorem methods_stable (s : Settings) {d d' : Document} {more : List Operation}
    (hschemas : d'.schemas = d.schemas) (hoperations : d'.operations = d.operations ++ more)
    {cs cs' : List Contract} {i i' : InterfaceDecl} {l l' k k' : Ledger}
    (hcontracts : Returns (contracts (.of s d)) {} cs l)
    (hinterface : Returns (interfaceDecl (.of s d)) l i l')
    (hcontracts' : Returns (contracts (.of s d')) {} cs' k)
    (hinterface' : Returns (interfaceDecl (.of s d')) k i' k') :
    i.methods <+: i'.methods
      ∧ i.methods.map MethodSig.render <+: i'.methods.map MethodSig.render := by
  have hcontext : Context.of s d' = { Context.of s d with document := d' } := by
    unfold Context.of
    rw [hschemas]
  obtain ⟨named, ops, l₁, l₂, u, hnamed, hops, hregister, hgrows, -, -⟩ :=
    contracts_phases hcontracts
  obtain ⟨named', ops', k₁, k₂, u', hnamed', hops', hregister', hgrows', -, -⟩ :=
    contracts_phases hcontracts'
  obtain ⟨later, rfl⟩ := operations_append hoperations hops hops'
  -- both runs reach the same ledger when the first schemas have been asked for
  rw [hcontext, namedContracts_document, hschemas] at hnamed'
  obtain ⟨-, rfl⟩ := hnamed.unique hnamed'
  rw [hcontext, register_document, List.flatMap_append] at hregister'
  obtain ⟨k₃, hfirst, hlater⟩ := returns_register_append hregister'
  obtain ⟨-, rfl⟩ := hregister.unique hfirst
  obtain ⟨ops, hops₁, hmethods, -⟩ := returns_interfaceDecl hinterface
  obtain ⟨ops', hops₂, hmethods', -⟩ := returns_interfaceDecl hinterface'
  obtain rfl := Except.ok.inj (hops.symm.trans hops₁)
  obtain rfl := Except.ok.inj (hops'.symm.trans hops₂)
  rw [hcontext, methods_document] at hmethods'
  obtain ⟨ms, k₄, hmethods', hbegins⟩ := returns_methods_append hmethods'
  -- and from there on the methods of the first operations are the same on both ledgers
  have hwithin := (Context.of s d).within_schemas
  have howned := within_flatMap_ownedSchemas hops
  have hsettled := settled_register hwithin howned hregister
  have hfor : ∀ o ∈ ops, SettledFor (.of s d) (Context.of s d).pool l₂ o := by
    intro o ho e he
    have hmem : e ∈ ops.flatMap ownedSchemas := List.mem_flatMap.2 ⟨o, ho, he⟩
    exact ⟨howned e hmem, hsettled e hmem⟩
  have hquiet := quiet_methods hwithin [] hfor
  have hgrows₂ : l₂.Grows k₂ := grows_register hlater
  have heq := hquiet.steady _ _ _ _ _ _ hgrows (hgrows₂.trans hgrows') hmethods hmethods'
  rw [heq]
  exact ⟨hbegins, hbegins.map _⟩

/-- An object schema with one property. -/
def schemaWith (number : Nat) (key : String) (v : Value) : Value :=
  .object number [(.text "properties", .object (number + 1) [(.text key, v)])]

/-- An operation with a response of a type without a name, in which there is another one. -/
def petsOperation : Operation where
  verb := .get
  path := "/pets"
  operationId := some "pets"
  response := some (schemaWith 1 "owner" (schemaWith 3 "name" (.object 5 [])))

/-- Operations that want names which the first one wants too: for its method, for the type of
its response, and for the type of the property in there. -/
def rivalOperations : List Operation :=
  [{ verb := .put
     path := "/pets"
     operationId := some "Pets"
     response := some (schemaWith 6 "size" (.object 8 [])) },
    { verb := .post
      path := "/pets"
      operationId := some "petsResponse"
      parameters := [
        { name := "owner", location := "query", schema := schemaWith 9 "age" (.object 11 []) }] }]

/-- A document with the first operation only. -/
def petsDocument : Document where
  operations := [petsOperation]
  schemas := []
  distinct := List.nodup_nil

/-- The same document, continued by the other operations. -/
def rivalDocument : Document where
  operations := [petsOperation] ++ rivalOperations
  schemas := []
  distinct := List.nodup_nil

/-- The settings for both. -/
def petsSettings : Settings := { openApiPath := "pets.json" }

set_option maxRecDepth 10000 in
theorem methods_stable_rival :
    ∃ cs cs' i i' l l' k k',
      Returns (contracts (.of petsSettings petsDocument)) {} cs l
        ∧ Returns (interfaceDecl (.of petsSettings petsDocument)) l i l'
        ∧ Returns (contracts (.of petsSettings rivalDocument)) {} cs' k
        ∧ Returns (interfaceDecl (.of petsSettings rivalDocument)) k i' k'
        ∧ cs.map Contract.name = ["PetsResponse", "PetsResponseOwner"]
        ∧ cs'.map Contract.name
          = ["PetsResponse", "PetsResponse2", "PetsResponseOwner", "PetsResponseOwner2"]
        ∧ i.methods <+: i'.methods
        ∧ i.methods.map MethodSig.render <+: i'.methods.map MethodSig.render := by
  have hrun : ((parts (.of petsSettings petsDocument)).run.run {}).1.toOption.map
      (fun r => r.1.map Contract.name) = some ["PetsResponse", "PetsResponseOwner"] := by
    decide +kernel
  have hrun' : ((parts (.of petsSettings rivalDocument)).run.run {}).1.toOption.map
      (fun r => r.1.map Contract.name)
        = some ["PetsResponse", "PetsResponse2", "PetsResponseOwner", "PetsResponseOwner2"] := by
    decide +kernel
  obtain ⟨cs, i, l, l', hcontracts, hinterface, hnames⟩ := exists_passes hrun
  obtain ⟨cs', i', k, k', hcontracts', hinterface', hnames'⟩ := exists_passes hrun'
  have hschemas : rivalDocument.schemas = petsDocument.schemas := rfl
  have hoperations : rivalDocument.operations = petsDocument.operations ++ rivalOperations := rfl
  have hstable := methods_stable petsSettings hschemas hoperations hcontracts hinterface
    hcontracts' hinterface'
  exact ⟨cs, cs', i, i', l, l', k, k', hcontracts, hinterface, hcontracts', hinterface', hnames,
    hnames', hstable⟩

end OpenApiClient.Generate
