/-
Generated code names only types that it declares.

The contracts and the interface are written by two passes over one ledger.  The second pass
asks only for schemas that the first one has asked for (`register`), and a type that is asked
for again is given again without a change (`resolve_again`).  So the second pass finds nothing
new: it notes no object and no namespace, and what the first pass declares is all that either
of them names.
-/
import OpenApiClient.Generate.Client
import OpenApiClient.Proofs.Declarations

set_option autoImplicit false

namespace OpenApiClient

open CSharp

/-! ## The texts of types -/

/-- The texts of the built-in types. -/
def builtinTexts : List String := ["object", "string", "byte[]"] ++ Schema.valueTypes

/-- The texts of types over some declared names. -/
inductive TypeText (names : List String) : String → Prop where
  | builtin {s : String} (h : s ∈ builtinTexts) : TypeText names s
  | named {s : String} (h : s ∈ names) : TypeText names s
  | collection {s : String} (h : TypeText names s) :
    TypeText names ("System.Collections.Generic.ICollection<" ++ s ++ ">")
  | dictionary {s : String} (h : TypeText names s) :
    TypeText names ("System.Collections.Generic.IDictionary<string, " ++ s ++ ">")

/-- The texts of types where values are declared: a question mark can follow, once. -/
inductive UseText (names : List String) : String → Prop where
  | plain {s : String} (h : TypeText names s) : UseText names s
  | marked {s : String} (h : TypeText names s) : UseText names (s ++ "?")

theorem render_mem_builtinTexts (b : Builtin) : b.render ∈ builtinTexts := by
  cases b <;> decide

theorem typeText_render {names : List String} {t : TypeRef} (h : t.Uses (· ∈ names)) :
    TypeText names t.render := by
  induction t with
  | builtin b => exact .builtin (render_mem_builtinTexts b)
  | named name => exact .named h
  | collection item ih => exact .collection (ih h)
  | dictionary value ih => exact .dictionary (ih h)

theorem useText_render {names : List String} {t : TypeUse} (h : t.type.Uses (· ∈ names)) :
    UseText names t.render := by
  unfold TypeUse.render
  by_cases hm : t.marked
  · rw [if_pos hm]
    exact .marked (typeText_render h)
  · rw [if_neg hm, String.append_empty]
    exact .plain (typeText_render h)

namespace Generate

open Schema

/-! ## Asking for what has been asked for -/

section Quiet

variable {c : Catalogue} {pool : List Nat} {l₀ : Ledger}

/-- A schema has been asked for before the ledger came to be as it is. -/
def Settled (c : Catalogue) (l₀ : Ledger) (v : Value) : Prop :=
  ∃ owner nullable l t l', Returns (Schema.resolve c v owner nullable) l t l' ∧ l'.Grows l₀

theorem Settled.mono {l₁ : Ledger} {v : Value} (h : Settled c l₀ v) (hg : l₀.Grows l₁) :
    Settled c l₁ v := by
  obtain ⟨owner, nullable, l, t, l', ht, hl⟩ := h
  exact ⟨owner, nullable, l, t, l', ht, hl.trans hg⟩

/-- On every ledger that continues the given one, a computation notes no object and no
namespace, and gives the same result.  It keeps the invariant too. -/
structure Quiet (c : Catalogue) (pool : List Nat) (l₀ : Ledger) {α : Type} (m : Build α) :
    Prop where
  keeps : Keeps c pool m
  silent : ∀ l a l', l₀.Grows l → Returns m l a l' →
    l'.inlined = l.inlined ∧ l'.namespaces = l.namespaces
  steady : ∀ l a l' k b k', l₀.Grows l → l₀.Grows k → Returns m l a l' → Returns m k b k' →
    a = b

theorem Quiet.pure {α : Type} (a : α) : Quiet c pool l₀ (Pure.pure a : Build α) := by
  refine ⟨Keeps.pure a, ?_, ?_⟩
  · intro l b l' _ h
    obtain ⟨-, rfl⟩ := returns_pure_iff.1 h
    exact ⟨rfl, rfl⟩
  · intro l b l' k b' k' _ _ h h'
    rw [(returns_pure_iff.1 h).1, (returns_pure_iff.1 h').1]

theorem Quiet.liftFault {α : Type} (r : Except Fault α) : Quiet c pool l₀ (liftFault r) := by
  refine ⟨Keeps.liftFault r, ?_, ?_⟩
  · intro l b l' _ h
    obtain ⟨-, rfl⟩ := returns_liftFault_iff.1 h
    exact ⟨rfl, rfl⟩
  · intro l b l' k b' k' _ _ h h'
    have heq := (returns_liftFault_iff.1 h).1
    rw [(returns_liftFault_iff.1 h').1] at heq
    exact (Except.ok.inj heq).symm

theorem Quiet.bind {α β : Type} {m : Build α} {f : α → Build β} (hm : Quiet c pool l₀ m)
    (hf : ∀ a, (∃ l l', Returns m l a l') → Quiet c pool l₀ (f a)) :
    Quiet c pool l₀ (m >>= f) := by
  refine ⟨hm.keeps.bind fun a ha => (hf a ha).keeps, ?_, ?_⟩
  · intro l b l' hl h
    obtain ⟨a, l₁, ha, hb⟩ := returns_bind_iff.1 h
    obtain ⟨hinlined, hnamespaces⟩ := hm.silent l a l₁ hl ha
    have hl₁ := hl.trans (hm.keeps l a l₁ ha).1
    obtain ⟨hinlined', hnamespaces'⟩ := (hf a ⟨l, l₁, ha⟩).silent l₁ b l' hl₁ hb
    exact ⟨hinlined'.trans hinlined, hnamespaces'.trans hnamespaces⟩
  · intro l b l' k b' k' hl hk h h'
    obtain ⟨a, l₁, ha, hb⟩ := returns_bind_iff.1 h
    obtain ⟨a', k₁, ha', hb'⟩ := returns_bind_iff.1 h'
    obtain rfl := hm.steady l a l₁ k a' k₁ hl hk ha ha'
    have hl₁ := hl.trans (hm.keeps l a l₁ ha).1
    have hk₁ := hk.trans (hm.keeps k a k₁ ha').1
    exact (hf a ⟨l, l₁, ha⟩).steady l₁ b l' k₁ b' k' hl₁ hk₁ hb hb'

theorem quiet_resolve (hc : c.Within pool) {v : Value} (owner : String) (nullable : Bool)
    (hv : v.Within pool) (hsettled : Settled c l₀ v) :
    Quiet c pool l₀ (Schema.resolve c v owner nullable) := by
  obtain ⟨owner', nullable', l, t, l', ht, hl⟩ := hsettled
  refine ⟨keeps_resolve hc owner nullable hv, ?_, ?_⟩
  · intro k u k' hk h
    obtain ⟨-, rfl⟩ := resolve_again hc hv ht (hl.trans hk) h
    exact ⟨rfl, rfl⟩
  · -- both types are the one that was given, and the mark depends on nothing else
    intro k u k' n w n' hk hn hu hw
    have hutype := (resolve_again hc hv ht (hl.trans hk) hu).1
    have hwtype := (resolve_again hc hv ht (hl.trans hn) hw).1
    obtain ⟨_, -, humark, -⟩ := returns_resolve_iff.1 hu
    obtain ⟨_, -, hwmark, -⟩ := returns_resolve_iff.1 hw
    rw [hutype] at humark
    rw [hwtype, humark] at hwmark
    cases u
    cases w
    cases hutype
    cases hwtype
    cases hwmark
    rfl

end Quiet

/-! ## The interface -/

section Interface

variable {x : Context} {pool : List Nat} {l₀ : Ledger}

/-- The schemas of an operation have been asked for. -/
def SettledFor (x : Context) (pool : List Nat) (l₀ : Ledger) (o : Operation) : Prop :=
  ∀ e ∈ ownedSchemas o, e.2.Within pool ∧ Settled x.catalogue l₀ e.2

theorem mem_ownedSchemas_of_parameter {o : Operation} {p : Parameter} (h : p ∈ o.parameters) :
    (o.name ++ Naming.pascalCase p.name, p.schema) ∈ ownedSchemas o := by
  unfold ownedSchemas
  refine List.mem_append_left _ (List.mem_append_left _ ?_)
  exact List.mem_map.2 ⟨p, h, rfl⟩

theorem mem_ownedSchemas_of_body {o : Operation} {v : Value} (h : o.requestBody = some v) :
    (o.name ++ "Body", v) ∈ ownedSchemas o := by
  unfold ownedSchemas
  rw [h]
  refine List.mem_append_left _ (List.mem_append_right _ ?_)
  exact List.mem_singleton.2 rfl

theorem mem_ownedSchemas_of_response {o : Operation} {v : Value} (h : o.response = some v) :
    (o.name ++ "Response", v) ∈ ownedSchemas o := by
  unfold ownedSchemas
  rw [h]
  exact List.mem_append_right _ (List.mem_singleton.2 rfl)

/-- The parameters of a method are parameters of its operation. -/
theorem mem_of_mem_orderedParameters {o : Operation} {e : Channel × Parameter}
    (h : e ∈ orderedParameters x o) : e.2 ∈ o.parameters := by
  have hof : ∀ channel, e ∈ (parametersOf o channel).map (channel, ·) → e.2 ∈ o.parameters := by
    intro channel hmem
    obtain ⟨p, hp, rfl⟩ := List.mem_map.1 hmem
    exact List.mem_of_mem_filter hp
  unfold orderedParameters at h
  rcases List.mem_append.1 h with h | h
  · rcases List.mem_append.1 h with h | h
    · exact hof _ h
    · exact hof _ h
  · split at h
    · exact hof _ h
    · cases h

theorem quiet_methodParams (hc : x.catalogue.Within pool) (owner : String) (taken : List String)
    {ps : List (Channel × Parameter)}
    (hps : ∀ e ∈ ps, e.2.schema.Within pool ∧ Settled x.catalogue l₀ e.2.schema) :
    Quiet x.catalogue pool l₀ (methodParams x owner taken ps) := by
  induction ps generalizing taken with
  | nil => exact Quiet.pure _
  | cons e ps ih =>
    obtain ⟨⟨hv, hsettled⟩, hrest⟩ := List.forall_mem_cons.1 hps
    rw [methodParams]
    refine Quiet.bind ?_ fun _ _ => (ih _ hrest).bind fun _ _ => Quiet.pure _
    unfold methodParam
    exact (quiet_resolve hc _ _ hv hsettled).bind fun _ _ => Quiet.pure _

theorem quiet_bodyParam (hc : x.catalogue.Within pool) (taken : List String) {o : Operation}
    (ho : SettledFor x pool l₀ o) : Quiet x.catalogue pool l₀ (bodyParam x taken o) := by
  unfold bodyParam
  cases hbody : o.requestBody with
  | none => exact Quiet.pure _
  | some v =>
    obtain ⟨hv, hsettled⟩ := ho _ (mem_ownedSchemas_of_body hbody)
    exact (quiet_resolve hc _ _ hv hsettled).bind fun _ _ => Quiet.pure _

theorem quiet_resultType (hc : x.catalogue.Within pool) {o : Operation}
    (ho : SettledFor x pool l₀ o) : Quiet x.catalogue pool l₀ (resultType x o) := by
  unfold resultType
  cases hresponse : o.response with
  | none => exact Quiet.pure _
  | some v =>
    obtain ⟨hv, hsettled⟩ := ho _ (mem_ownedSchemas_of_response hresponse)
    exact (quiet_resolve hc _ _ hv hsettled).bind fun _ _ => Quiet.pure _

theorem quiet_method (hc : x.catalogue.Within pool) (name : String) {o : Operation}
    (ho : SettledFor x pool l₀ o) : Quiet x.catalogue pool l₀ (method x name o) := by
  unfold method
  refine (quiet_methodParams hc _ _ ?_).bind fun _ _ => ?_
  · intro e he
    exact ho _ (mem_ownedSchemas_of_parameter (mem_of_mem_orderedParameters he))
  · refine (quiet_bodyParam hc _ ho).bind fun _ _ => ?_
    exact (quiet_resultType hc ho).bind fun _ _ => Quiet.pure _

theorem quiet_methods (hc : x.catalogue.Within pool) (taken : List String)
    {os : List Operation} (hos : ∀ o ∈ os, SettledFor x pool l₀ o) :
    Quiet x.catalogue pool l₀ (methods x taken os) := by
  induction os generalizing taken with
  | nil => exact Quiet.pure _
  | cons o os ih =>
    obtain ⟨ho, hrest⟩ := List.forall_mem_cons.1 hos
    rw [methods]
    exact (quiet_method hc _ ho).bind fun _ _ => (ih _ hrest).bind fun _ _ => Quiet.pure _

/-- Writing the interface is quiet once the schemas of all operations have been asked for. -/
theorem quiet_interfaceDecl (hc : x.catalogue.Within pool)
    (hsettled : ∀ os, x.operations = .ok os → ∀ o ∈ os, SettledFor x pool l₀ o) :
    Quiet x.catalogue pool l₀ (interfaceDecl x) := by
  unfold interfaceDecl
  refine (Quiet.liftFault _).bind fun os hos => ?_
  obtain ⟨l, l', hos⟩ := hos
  have hoperations := (returns_liftFault_iff.1 hos).1
  exact (quiet_methods hc _ (hsettled os hoperations)).bind fun _ _ => Quiet.pure _

end Interface

/-! ## The contracts -/

/-- After the schemas of the operations are registered, they have been asked for. -/
theorem settled_register {x : Context} {pool : List Nat} (hc : x.catalogue.Within pool)
    {owned : List (String × Value)} (howned : ∀ e ∈ owned, e.2.Within pool) {l l' : Ledger}
    {u : Unit} (h : Returns (register x owned) l u l') :
    ∀ e ∈ owned, Settled x.catalogue l' e.2 := by
  induction owned generalizing l with
  | nil => simp
  | cons e rest ih =>
    obtain ⟨-, hrest⟩ := List.forall_mem_cons.1 howned
    rw [register] at h
    obtain ⟨t, l₁, ht, h⟩ := returns_bind_iff.1 h
    refine List.forall_mem_cons.2 ⟨?_, ih hrest h⟩
    exact ⟨_, _, _, _, _, ht, (keeps_register hc hrest l₁ u l' h).1⟩

/-- After the contracts, the schemas of all operations have been asked for. -/
theorem settled_contracts {s : Settings} {d : Document} {cs : List Contract} {l : Ledger}
    (h : Returns (contracts (.of s d)) {} cs l) :
    ∀ os, (Context.of s d).operations = .ok os →
      ∀ o ∈ os, SettledFor (.of s d) (Context.of s d).pool l o := by
  obtain ⟨ops, l₁, l₂, u, hops, hregister, hgrows, -, -⟩ := contracts_stages h
  intro os hos o ho e he
  rw [hops] at hos
  cases hos
  have howned := within_flatMap_ownedSchemas hops
  have hmem : e ∈ ops.flatMap ownedSchemas := List.mem_flatMap.2 ⟨o, ho, he⟩
  have hsettled := settled_register (Context.of s d).within_schemas howned hregister e hmem
  exact ⟨howned e hmem, hsettled.mono hgrows⟩

/-- The names on offer after the contracts are the names of declared types. -/
theorem mem_names_of_offers {s : Settings} {d : Document} {cs : List Contract} {l : Ledger}
    (h : Returns (contracts (.of s d)) {} cs l) {name : String}
    (hname : l.Offers (Context.of s d).catalogue name) : name ∈ cs.map Contract.name := by
  obtain ⟨ops, l₁, l₂, u, -, -, -, -, hmade⟩ := contracts_stages h
  rw [map_name_eq hmade, List.map_append, List.mem_append]
  refine hname.imp_left fun hdeclares => ?_
  obtain ⟨e, he, hdeclared, rfl⟩ := hdeclares
  unfold declaredSchemas
  rw [List.map_map]
  exact List.mem_map.2 ⟨e, List.mem_filter.2 ⟨he, hdeclared⟩, rfl⟩

/-! ## Both passes -/

/-- When the contracts and then the interface are written, every type that either of them has
been given is built from built-in types and the names of declared types, and the interface
adds neither objects nor namespaces. -/
theorem emission_closed (s : Settings) (d : Document) {cs : List Contract} {i : InterfaceDecl}
    {l l' : Ledger} (hcontracts : Returns (contracts (.of s d)) {} cs l)
    (hinterface : Returns (interfaceDecl (.of s d)) l i l') :
    (∀ t ∈ l'.given, UseText (cs.map Contract.name) t.render)
      ∧ l'.inlined = l.inlined ∧ l'.namespaces = l.namespaces := by
  have hquiet := quiet_interfaceDecl (Context.of s d).within_schemas (settled_contracts hcontracts)
  obtain ⟨hinlined, hnamespaces⟩ := hquiet.2 l i l' (Ledger.Grows.refl l) hinterface
  refine ⟨?_, hinlined, hnamespaces⟩
  -- the invariant lasts through the interface, and what it offers has been declared by then
  obtain ⟨ops, l₁, l₂, u, -, -, -, hsound, -⟩ := contracts_stages hcontracts
  have hsound' := (hquiet.1 l i l' hinterface).2 hsound
  intro t ht
  refine useText_render ((hsound'.closed t ht).mono fun name hname => ?_)
  refine mem_names_of_offers hcontracts ?_
  unfold Ledger.Offers at hname ⊢
  rwa [hinlined] at hname

/-- The types that are given out for the document whose names clash, in turn. -/
def clashingTypes : List String :=
  ["PetOwner2", "System.DateTimeOffset", "double", "PostPetsBody",
    "System.Collections.Generic.ICollection<PostPetsResponse>", "string", "PostPetsBodyKind?",
    "System.DateTimeOffset?", "double?", "PostPetsBody",
    "System.Collections.Generic.ICollection<PostPetsResponse>"]

set_option maxRecDepth 10000 in
theorem emission_closed_clashing :
    ∃ cs i l l', Returns (contracts (.of { openApiPath := "pets.json" } clashingDocument)) {} cs l
      ∧ Returns (interfaceDecl (.of { openApiPath := "pets.json" } clashingDocument)) l i l'
      ∧ l'.given.map TypeUse.render = clashingTypes
      ∧ (∀ t ∈ l'.given, UseText (cs.map Contract.name) t.render)
      ∧ l'.inlined = l.inlined ∧ l'.namespaces = l.namespaces := by
  -- the run is evaluated once for its result and once for the types that it has given out
  have hrun :
      ((parts (.of { openApiPath := "pets.json" } clashingDocument)).run.run {}).1.isOk := by
    decide +kernel
  have hgiven :
      ((parts (.of { openApiPath := "pets.json" } clashingDocument)).run.run {}).2.given.map
        TypeUse.render = clashingTypes := by
    decide +kernel
  obtain ⟨r, l', hparts⟩ := exists_returns hrun
  rw [hparts] at hgiven
  obtain ⟨cs, l, hcontracts, hrest⟩ := returns_bind_iff.1 hparts
  obtain ⟨i, k, hinterface, hpair⟩ := returns_bind_iff.1 hrest
  obtain ⟨-, rfl⟩ := returns_pure_iff.1 hpair
  exact ⟨cs, i, l, _, hcontracts, hinterface, hgiven, emission_closed _ _ hcontracts hinterface⟩

end Generate

end OpenApiClient
