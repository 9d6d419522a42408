/-
Which names the emission chooses.

Properties, parameters and methods get their names alike: each has a wanted name, and the first
form of it that is free is taken.  So the names that stand side by side are fresh names for the
wanted ones, in turn.  The recursions that write declarations are gone through for this once;
what is to be known of the names then follows from what is known of fresh names and of the
wanted ones.
-/
import OpenApiClient.Generate.Client
import OpenApiClient.Proofs.FreshNames
import OpenApiClient.Proofs.Returns

set_option autoImplicit false

namespace OpenApiClient.Generate

open CSharp
open Schema

variable {x : Context}

/-! ## Properties -/

/-- The words of a property's key; only a text has any. -/
def keyWords : Scalar → String
  | .text s => Naming.pascalCase s
  | _ => ""

theorem eq_keyWords {key : Scalar} {wanted : String} (h : keyName key = .ok wanted) :
    wanted = keyWords key := by
  unfold keyName at h
  split at h
  · cases h
    rfl
  · rename_i hkey
    unfold keyWords
    split
    · exact absurd rfl (hkey _)
    · split at h
      · cases h
      · cases h
        rfl

theorem name_classProperty {typeName : String} {required : List Scalar} {taken : List String}
    {key : Scalar} {v : Value} {p : Property} {l l' : Ledger}
    (h : Returns (classProperty x typeName required taken key v) l p l') :
    p.name = Naming.fresh taken (propertyName typeName (keyWords key)) := by
  unfold classProperty at h
  obtain ⟨wanted, hwanted, h⟩ := returns_liftShape_bind_iff.1 h
  obtain ⟨type, l₁, -, h⟩ := returns_bind_iff.1 h
  obtain ⟨mark, l₂, -, h⟩ := returns_bind_iff.1 h
  obtain ⟨doc, l₃, -, h⟩ := returns_bind_iff.1 h
  obtain ⟨rfl, -⟩ := returns_pure_iff.1 h
  rw [eq_keyWords hwanted]

/-- The properties of a class have fresh names. -/
theorem names_classProperties {typeName : String} {required : List Scalar} {taken : List String}
    {ms : Members} {ps : List Property} {l l' : Ledger}
    (h : Returns (classProperties x typeName required taken ms) l ps l') :
    ps.map (·.name)
      = (Naming.freshAll taken (ms.map fun m => propertyName typeName (keyWords m.1))).1 := by
  induction ms generalizing taken ps l with
  | nil =>
    obtain ⟨rfl, -⟩ := returns_pure_iff.1 h
    rfl
  | cons m ms ih =>
    rw [classProperties] at h
    obtain ⟨p, l₁, hp, h⟩ := returns_bind_iff.1 h
    obtain ⟨rest, l₂, hrest, h⟩ := returns_bind_iff.1 h
    obtain ⟨rfl, rfl⟩ := returns_pure_iff.1 h
    rw [List.map_cons, List.map_cons, Naming.freshAll, ih hrest, name_classProperty hp]

/-! ## Parameters -/

/-- The name that a parameter gets if it is free. -/
def wantedParameter (p : Parameter) : String :=
  if Naming.camelCase p.name = "" then "value" else Naming.camelCase p.name

/-- The parameters of a method have fresh names, of which those that are spelled like reserved
words are escaped. -/
theorem names_methodParams {owner : String} {taken final : List String}
    {ps : List (Channel × Parameter)} {rows : List (MethodParam × Option ParamNote)}
    {l l' : Ledger} (h : Returns (methodParams x owner taken ps) l (rows, final) l') :
    rows.map (·.1.name)
        = (Naming.freshAll taken (ps.map fun e => wantedParameter e.2)).1.map Naming.escapeKeyword
      ∧ final = taken ++ (Naming.freshAll taken (ps.map fun e => wantedParameter e.2)).1 := by
  -- the names taken so far are handed on, so both halves go through one induction
  rw [← Naming.freshAll_snd]
  induction ps generalizing taken final rows l with
  | nil =>
    obtain ⟨hpair, -⟩ := returns_pure_iff.1 h
    cases hpair
    exact ⟨rfl, rfl⟩
  | cons e ps ih =>
    rw [methodParams] at h
    obtain ⟨m, l₁, hm, h⟩ := returns_bind_iff.1 h
    obtain ⟨⟨rest, last⟩, l₂, hrest, h⟩ := returns_bind_iff.1 h
    obtain ⟨hpair, rfl⟩ := returns_pure_iff.1 h
    cases hpair
    obtain ⟨hnames, hfinal⟩ := ih hrest
    have hname : m.name = Naming.escapeKeyword (parameterName taken e.2) := by
      unfold methodParam at hm
      obtain ⟨type, l₃, -, hm⟩ := returns_bind_iff.1 hm
      obtain ⟨rfl, -⟩ := returns_pure_iff.1 hm
      rfl
    refine ⟨?_, hfinal⟩
    rw [List.map_cons, List.map_cons, Naming.freshAll, List.map_cons, hnames, hname]
    rfl

/-- Some parameters are none, or one with a fresh name. -/
def AtMostFresh (taken : List String) (wanted : String) (ps : List MethodParam) : Prop :=
  ps = [] ∨ ps.map (·.name) = [Naming.fresh taken wanted]

theorem names_bodyParam {taken : List String} {o : Operation} {body : List MethodParam}
    {l l' : Ledger} (h : Returns (bodyParam x taken o) l body l') :
    AtMostFresh taken "body" body := by
  unfold bodyParam at h
  split at h
  · exact .inl (returns_pure_iff.1 h).1
  · obtain ⟨type, l₁, -, h⟩ := returns_bind_iff.1 h
    obtain ⟨rfl, -⟩ := returns_pure_iff.1 h
    exact .inr rfl

theorem names_tokenParam (taken : List String) :
    AtMostFresh taken "cancellationToken" (tokenParam x taken) := by
  unfold tokenParam
  split
  · exact .inr rfl
  · exact .inl rfl

/-! ## Methods -/

/-- The steps in which a method is written. -/
theorem returns_method {name : String} {o : Operation} {m : MethodSig} {l l' : Ledger}
    (h : Returns (method x name o) l m l') :
    ∃ rows taken body l₁ l₂ l₃,
      Returns (methodParams x o.name [] (orderedParameters x o)) l (rows, taken) l₁
        ∧ Returns (bodyParam x taken o) l₁ body l₂
        ∧ Returns (resultType x o) l₂ m.result l₃
        ∧ m.name = name ∧ m.attributes = methodAttributes o
        ∧ m.params = (rows.map (·.1)).filter (·.default.isNone) ++ body
          ++ (rows.map (·.1)).filter (·.default.isSome)
          ++ tokenParam x (taken ++ body.map (·.name)) := by
  unfold method at h
  obtain ⟨⟨rows, taken⟩, l₁, hrows, h⟩ := returns_bind_iff.1 h
  obtain ⟨body, l₂, hbody, h⟩ := returns_bind_iff.1 h
  obtain ⟨result, l₃, hresult, h⟩ := returns_bind_iff.1 h
  obtain ⟨rfl, -⟩ := returns_pure_iff.1 h
  exact ⟨rows, taken, body, l₁, l₂, l₃, hrows, hbody, hresult, rfl, rfl, rfl⟩

/-- A method is what is written for an operation under a name. -/
def MethodFrom (x : Context) (m : MethodSig) (o : Operation) : Prop :=
  ∃ name l l', Returns (method x name o) l m l'

/-- The methods are written for the operations in turn, and have fresh names. -/
theorem methods_spec {taken : List String} {os : List Operation} {ms : List MethodSig}
    {l l' : Ledger} (h : Returns (methods x taken os) l ms l') :
    List.Forall₂ (MethodFrom x) ms os
      ∧ ms.map (·.name) = (Naming.freshAll taken (os.map Operation.name)).1 := by
  induction os generalizing taken ms l with
  | nil =>
    obtain ⟨rfl, -⟩ := returns_pure_iff.1 h
    exact ⟨.nil, rfl⟩
  | cons o os ih =>
    rw [methods] at h
    obtain ⟨m, l₁, hm, h⟩ := returns_bind_iff.1 h
    obtain ⟨rest, l₂, hrest, h⟩ := returns_bind_iff.1 h
    obtain ⟨rfl, rfl⟩ := returns_pure_iff.1 h
    obtain ⟨hfrom, hnames⟩ := ih hrest
    refine ⟨.cons ⟨_, l, l₁, hm⟩ hfrom, ?_⟩
    obtain ⟨_, _, _, _, _, _, -, -, -, hname, -, -⟩ := returns_method hm
    rw [List.map_cons, List.map_cons, Naming.freshAll, hnames, hname]

/-- The steps in which the interface is written. -/
theorem returns_interfaceDecl {i : InterfaceDecl} {l l' : Ledger}
    (h : Returns (interfaceDecl x) l i l') :
    ∃ ops, x.operations = .ok ops ∧ Returns (methods x [] ops) l i.methods l'
      ∧ i.name = interfaceName x := by
  unfold interfaceDecl at h
  obtain ⟨ops, hops, h⟩ := returns_liftFault_bind_iff.1 h
  obtain ⟨ms, l₁, hms, h⟩ := returns_bind_iff.1 h
  obtain ⟨rfl, rfl⟩ := returns_pure_iff.1 h
  exact ⟨ops, hops, hms, rfl⟩

/-! ## Both passes -/

/-- The interface is written with the ledger that the contracts have left. -/
theorem returns_parts_iff {r : List Contract × InterfaceDecl} {l l' : Ledger} :
    Returns (parts x) l r l' ↔
      ∃ l₁, Returns (contracts x) l r.1 l₁ ∧ Returns (interfaceDecl x) l₁ r.2 l' := by
  unfold parts
  simp only [returns_bind_iff, returns_pure_iff]
  constructor
  · rintro ⟨cs, l₁, hcontracts, i, _, hinterface, rfl, rfl⟩
    exact ⟨l₁, hcontracts, hinterface⟩
  · rintro ⟨l₁, hcontracts, hinterface⟩
    exact ⟨r.1, l₁, hcontracts, r.2, l', hinterface, rfl, rfl⟩

/-- A run of both passes that gives something is made of the contracts and the interface. -/
theorem exists_passes {β : Type} {f : List Contract × InterfaceDecl → β} {b : β}
    (h : ((parts x).run.run {}).1.toOption.map f = some b) :
    ∃ cs i l l', Returns (contracts x) {} cs l ∧ Returns (interfaceDecl x) l i l'
      ∧ f (cs, i) = b := by
  obtain ⟨r, l', hparts, hb⟩ := exists_returns_of_map h
  obtain ⟨l, hcontracts, hinterface⟩ := returns_parts_iff.1 hparts
  exact ⟨r.1, r.2, l, l', hcontracts, hinterface, hb⟩

end OpenApiClient.Generate
