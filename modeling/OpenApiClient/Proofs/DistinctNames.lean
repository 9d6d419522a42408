/-
Names that stand side by side are different.

Methods, the parameters of one method and the properties of one class have fresh names, so
they differ to begin with.  What is left is what happens to the names afterwards.  The
parameters of a method are put into another order, and the body and the token come in between;
their names are fresh too, for what is taken by then.  And a parameter that is spelled like a
reserved word gets the sign: it is the same name without it (`withoutSign_escapeKeyword`), so
that no two names differ by the sign alone.
-/
import OpenApiClient.Proofs.ChosenNames
import OpenApiClient.Proofs.Identifiers
import OpenApiClient.Proofs.Inheritance

set_option autoImplicit false

namespace OpenApiClient.Generate

open CSharp
open Schema

variable {x : Context}

/-! ## The sign of escaped names -/

/-- A name without the sign that stands before it if it is spelled like a reserved word. -/
def withoutSign (name : String) : String :=
  match name.toList with
  | '@' :: r => .ofList r
  | _ => name

theorem withoutSign_of_isSpelled {name : String} (h : Naming.IsSpelled name.toList) :
    withoutSign name = name := by
  unfold withoutSign
  split
  · rename_i r hr
    have hsign : Naming.isNameChar '@' := h '@' (by rw [hr]; exact List.mem_cons_self)
    cases hsign
  · rfl

theorem withoutSign_escapeKeyword {name : String} (h : Naming.IsSpelled name.toList) :
    withoutSign (Naming.escapeKeyword name) = name := by
  unfold Naming.escapeKeyword
  by_cases hk : Naming.keywords.contains name
  · rw [if_pos hk, withoutSign, String.toList_append]
    have hsign : "@".toList = ['@'] := rfl
    rw [hsign, List.singleton_append]
    exact String.ofList_toList
  · rw [if_neg hk, withoutSign_of_isSpelled h]

/-! ## Parameters -/

theorem isName_wantedParameter (p : Parameter) : Naming.IsName (wantedParameter p).toList := by
  unfold wantedParameter
  by_cases h : Naming.camelCase p.name = ""
  · rw [if_pos h]
    exact ⟨'v', "alue".toList, rfl, by decide, Naming.isSpelled_of_all (by decide)⟩
  · rw [if_neg h]
    unfold Naming.camelCase at h ⊢
    rw [String.toList_ofList]
    refine Naming.isName_camel fun hnil => h ?_
    rw [hnil, String.ofList_nil]

/-- The names of parameters without their signs are the fresh names. -/
theorem withoutSign_parameters (taken : List String) (ps : List (Channel × Parameter)) :
    ((Naming.freshAll taken (ps.map fun e => wantedParameter e.2)).1.map
        Naming.escapeKeyword).map withoutSign
      = (Naming.freshAll taken (ps.map fun e => wantedParameter e.2)).1 := by
  rw [List.map_map]
  refine Eq.trans (List.map_congr_left fun name hname => ?_) (List.map_id _)
  refine withoutSign_escapeKeyword (Naming.isSpelled_freshAll taken ?_ name hname)
  intro wanted hwanted
  obtain ⟨e, -, rfl⟩ := List.mem_map.1 hwanted
  exact (isName_wantedParameter e.2).isSpelled

/-- A further parameter with a fresh name keeps the names different. -/
theorem AtMostFresh.nodup {taken : List String} {wanted : String} {ps : List MethodParam}
    (h : AtMostFresh taken wanted ps) (htaken : taken.Nodup) :
    (taken ++ ps.map (·.name)).Nodup := by
  rcases h with rfl | h
  · rw [List.map_nil, List.append_nil]
    exact htaken
  · rw [h]
    refine List.nodup_append.2 ⟨htaken, List.nodup_singleton _, ?_⟩
    intro n hn m hm heq
    rw [List.mem_singleton.1 hm] at heq
    rw [heq] at hn
    exact Naming.fresh_not_mem _ _ hn

/-- A name that is not escaped has no sign. -/
theorem AtMostFresh.withoutSign {taken : List String} {wanted : String} {ps : List MethodParam}
    (h : AtMostFresh taken wanted ps) (hwanted : Naming.IsSpelled wanted.toList) :
    ps.map (fun p => withoutSign p.name) = ps.map (·.name) := by
  rcases h with rfl | h
  · rfl
  · obtain ⟨p, rfl, hp⟩ := List.map_eq_singleton_iff.1 h
    rw [List.map_singleton, List.map_singleton, hp,
      withoutSign_of_isSpelled (Naming.isSpelled_fresh taken hwanted)]

/-- Required parameters, the body, optional parameters and the token are all parameters in
another order. -/
theorem params_perm (plain body token : List MethodParam) :
    (plain.filter (·.default.isNone) ++ body ++ plain.filter (·.default.isSome) ++ token).Perm
      (plain ++ body ++ token) := by
  refine List.Perm.append_right token ?_
  have hsome : (plain.filter fun p => p.default.isSome)
      = plain.filter fun p => !p.default.isNone := by simp
  rw [hsome, List.append_assoc]
  refine (List.Perm.append_left _ List.perm_append_comm).trans ?_
  rw [← List.append_assoc]
  exact List.Perm.append_right body (List.filter_append_perm _ plain)

/-- The names of the parameters of a method differ, also without their signs. -/
theorem nodup_methodParams {name : String} {o : Operation} {m : MethodSig} {l l' : Ledger}
    (h : Returns (method x name o) l m l') :
    (m.params.map fun p => withoutSign p.name).Nodup := by
  obtain ⟨rows, taken, body, l₁, l₂, l₃, hrows, hbody, -, -, -, hparams⟩ := returns_method h
  obtain ⟨hnames, htaken⟩ := names_methodParams hrows
  rw [List.nil_append] at htaken
  have hplain : (rows.map (·.1)).map (fun p => withoutSign p.name) = taken := by
    rw [htaken, ← withoutSign_parameters, ← hnames, List.map_map, List.map_map]
    rfl
  have hnodup : taken.Nodup := by
    rw [htaken]
    exact (Naming.freshAll_nodup _ _).1
  -- the body is named when the parameters are, and the token when the body is
  have hbody := names_bodyParam hbody
  have htoken := names_tokenParam (x := x) (taken ++ body.map (·.name))
  rw [hparams]
  refine ((params_perm _ body _).map fun p => withoutSign p.name).nodup_iff.2 ?_
  rw [List.map_append, List.map_append, hplain,
    hbody.withoutSign (Naming.isSpelled_of_all (by decide)),
    htoken.withoutSign (Naming.isSpelled_of_all (by decide))]
  exact htoken.nodup (hbody.nodup hnodup)

/-! ## Properties and methods -/

/-- The properties of a class have different names, and none has the name of the class. -/
theorem nodup_classDecl {typeName : String} {v : Value} {d : ClassDecl} {l l' : Ledger}
    (h : Returns (classDecl x typeName v) l d l') :
    (d.name :: d.properties.map (·.name)).Nodup := by
  obtain ⟨parts, l₁, l₂, -, hproperties, hname, -⟩ := returns_classDecl h
  obtain ⟨hnodup, hfree⟩ := Naming.freshAll_nodup [typeName]
    (parts.properties.map fun m => propertyName typeName (keyWords m.1))
  rw [← names_classProperties hproperties] at hnodup hfree
  rw [hname]
  refine List.nodup_cons.2 ⟨fun hmem => ?_, hnodup⟩
  exact hfree typeName hmem (List.mem_singleton.2 rfl)

/-- The operations that code is generated for have an attribute for their method of HTTP. -/
theorem exists_attribute {ops : List Operation} (h : x.operations = .ok ops) :
    ∀ o ∈ ops, ∃ verb, o.verb.attribute? = some verb := by
  have hselected := mapError_eq_ok_iff.1 h
  unfold Document.selected at hselected
  obtain ⟨patterns, -, hops⟩ := bind_eq_ok_iff.1 hselected
  rw [pure_eq_ok_iff] at hops
  intro o ho
  rw [← hops] at ho
  have hwanted := (List.mem_filter.1 ho).2
  simp only [Bool.and_eq_true] at hwanted
  exact Option.isSome_iff_exists.1 hwanted.1.1

/-- A method stands for an operation: it has the attribute of its method of HTTP with its path,
after the mark of what is out of use, and the parameters of the method have different names. -/
structure StandsFor (m : MethodSig) (o : Operation) : Prop where
  attributes : ∃ verb, o.verb.attribute? = some verb
    ∧ m.attributes = (if o.deprecated then [⟨"System.Obsolete", []⟩] else [])
      ++ [⟨verb, [plainLiteral o.path]⟩]
  params : (m.params.map fun p => withoutSign p.name).Nodup

theorem MethodFrom.standsFor {m : MethodSig} {o : Operation} (h : MethodFrom x m o)
    (hverb : ∃ verb, o.verb.attribute? = some verb) : StandsFor m o := by
  obtain ⟨name, l, l', h⟩ := h
  obtain ⟨_, _, _, _, _, _, -, -, -, -, hattributes, -⟩ := returns_method h
  refine ⟨?_, nodup_methodParams h⟩
  obtain ⟨verb, hverb⟩ := hverb
  refine ⟨verb, hverb, ?_⟩
  rw [hattributes, methodAttributes, hverb, Option.getD_some]

/-- A class has different names for its properties and itself, and the wire names of the merged
properties of its schema, in their order. -/
structure HoldsMerged (c : Catalogue) (d : ClassDecl) (v : Value) : Prop where
  names : (d.name :: d.properties.map (·.name)).Nodup
  wires : wireNames d = (mergedProperties c v).map fun m => m.1.display

/-- When the contracts and then the interface are written, the interface has a method for every
operation, in order, under different names; and every declared class holds the merged
properties of its schema under different names. -/
theorem emission_distinct (s : Settings) (d : Document) {cs : List Contract} {i : InterfaceDecl}
    {l l' : Ledger} (hcontracts : Returns (contracts (.of s d)) {} cs l)
    (hinterface : Returns (interfaceDecl (.of s d)) l i l') :
    (∃ ops, (Context.of s d).operations = .ok ops ∧ List.Forall₂ StandsFor i.methods ops)
      ∧ (i.methods.map (·.name)).Nodup
      ∧ List.Forall₂ (fun c e => c.name = e.1 ∧
          ∀ cl, c = .classDecl cl → HoldsMerged (Context.of s d).catalogue cl e.2)
        cs (declaredSchemas (.of s d) d.schemas ++ l.inlined) := by
  obtain ⟨ops, hops, hmethods, -⟩ := returns_interfaceDecl hinterface
  obtain ⟨hfrom, hnames⟩ := methods_spec hmethods
  refine ⟨⟨ops, hops, ?_⟩, ?_, ?_⟩
  · have hboth := (List.forall₂_and_left _ _).2 ⟨exists_attribute hops, hfrom.flip⟩
    exact hboth.flip.imp fun m o h => MethodFrom.standsFor h.2 h.1
  · rw [hnames]
    exact (Naming.freshAll_nodup _ _).1
  · obtain ⟨_, _, _, _, -, -, -, -, hmade⟩ := contracts_stages hcontracts
    refine hmade.imp fun c e hce => ⟨hce.name, ?_⟩
    rintro cl rfl
    obtain ⟨-, k, k', hcl⟩ := hce.classDecl
    exact ⟨nodup_classDecl hcl, wireNames_classDecl hcl⟩

/-- A document in which many names are spelled alike. -/
def crowdedDocument : Document where
  title := "class"
  schemas := [
    ("node", .object 1 [(.text "properties", .object 2 [
      (.text "node", .object 3 []), (.text "Node", .object 4 []), (.text "9", .object 5 []),
      (.text "node-property", .object 6 []), (.text "!", .object 7 [])])]),
    ("Kind", .object 8 [(.text "enum", .list [.text "", .text "empty", .text "class"])]),
    ("Level", .object 9 [(.text "type", .text "integer"), (.text "enum", .list [.int 1, .int (-1)])])]
  operations := [
    { verb := .get
      path := "/nodes"
      operationId := some "list"
      parameters := [
        { name := "body", location := "query", schema := .object 10 [] },
        { name := "class", location := "query", required := true, schema := .object 11 [] },
        { name := "Class", location := "path", schema := .object 12 [] },
        { name := "cancellation-token", location := "header", schema := .object 13 [] }]
      requestBody := some (.object 14 []) },
    { verb := .trace, path := "/nodes" },
    { verb := .post, path := "/nodes", operationId := some "List", deprecated := true }]

/-- The settings for that document. -/
def crowdedSettings : Settings := { openApiPath := "nodes.json", useCancellationTokens := true }

/-- The names that its methods and their parameters get. -/
def crowdedMethods : List (String × List String) :=
  [("List", ["@class", "class2", "body2", "body", "cancellationToken", "cancellationToken2"]),
    ("List2", ["cancellationToken"])]

set_option maxRecDepth 10000 in
theorem emission_distinct_crowded :
    ∃ cs i l l', Returns (contracts (.of crowdedSettings crowdedDocument)) {} cs l
      ∧ Returns (interfaceDecl (.of crowdedSettings crowdedDocument)) l i l'
      ∧ i.methods.map (fun m => (m.name, m.params.map (·.name))) = crowdedMethods
      ∧ (∃ ops, (Context.of crowdedSettings crowdedDocument).operations = .ok ops
        ∧ List.Forall₂ StandsFor i.methods ops)
      ∧ (i.methods.map (·.name)).Nodup
      ∧ List.Forall₂ (fun c e => c.name = e.1 ∧ ∀ cl, c = .classDecl cl →
          HoldsMerged (Context.of crowdedSettings crowdedDocument).catalogue cl e.2)
        cs (declaredSchemas (.of crowdedSettings crowdedDocument) crowdedDocument.schemas
          ++ l.inlined) := by
  have hrun : ((parts (.of crowdedSettings crowdedDocument)).run.run {}).1.toOption.map
      (fun r => r.2.methods.map fun m => (m.name, m.params.map (·.name)))
        = some crowdedMethods := by
    decide +kernel
  obtain ⟨cs, i, l, l', hcontracts, hinterface, hmethods⟩ := exists_passes hrun
  exact ⟨cs, i, l, l', hcontracts, hinterface, hmethods,
    emission_distinct _ _ hcontracts hinterface⟩

end OpenApiClient.Generate
