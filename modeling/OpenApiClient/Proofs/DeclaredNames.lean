/-
Everything that is declared has an identifier for its name.

Names come from texts of any kind, but all of them are respelled, and a respelling that leaves
nothing is replaced by a fixed name.  All names but those of parameters are capital
(`Naming.IsCapital`), and no capital name is a reserved word.

A type without a name of its own is named after its owner, and here a name is built from other
names.  It could come out empty if the owner had no letter or digit in it.  But an owner begins
with the name of an operation or of another type, and these are capital.  So the names in the
ledger are capital as long as the run lasts (`capital_contracts`), as they have any property that
goes on from a name to those that begin with it (`goesOn_contracts`).
-/
import OpenApiClient.Proofs.Agreement
import OpenApiClient.Proofs.DistinctNames
import OpenApiClient.Proofs.EnumMembers

set_option autoImplicit false

namespace OpenApiClient

open CSharp
open Generate (Fault)

/-! ## Names of operations -/

theorem Operation.isCapital_pathName (o : Operation) : Naming.IsCapital o.pathName.toList := by
  unfold Operation.pathName
  dsimp only
  have hverb : Naming.IsCapital (Naming.pascalCase o.verb.name).toList := by
    refine Naming.isCapital_pascalCase ?_
    cases o.verb <;> decide
  rw [String.toList_append]
  refine hverb.append ?_
  rw [String.toList_join]
  intro c hc
  obtain ⟨segment, hsegment, hc⟩ := List.mem_flatMap.1 hc
  obtain ⟨piece, -, rfl⟩ := List.mem_map.1 hsegment
  rw [String.toList_ofList] at hc
  exact Naming.isSpelled_pascal _ c hc

/-- The name of an operation is capital, whatever its identifier and its path are. -/
theorem Operation.isCapital_name (o : Operation) : Naming.IsCapital o.name.toList := by
  unfold Operation.name
  dsimp only
  by_cases h : Naming.pascalCase (o.operationId.getD "") = ""
  · rw [if_pos h]
    exact o.isCapital_pathName
  · rw [if_neg h]
    exact Naming.isCapital_pascalCase h

namespace Schema

/-! ## Names in the ledger -/

/-- A letter or a digit stands in a text. -/
def HasWord (s : String) : Prop := ∃ c ∈ s.toList, Naming.isWordChar c

theorem HasWord.append {s : String} (h : HasWord s) (t : String) : HasWord (s ++ t) := by
  obtain ⟨c, hc, hword⟩ := h
  refine ⟨c, ?_, hword⟩
  rw [String.toList_append]
  exact List.mem_append_left _ hc

/-- An owner with a letter or a digit gives a capital name. -/
theorem isCapital_wantedName {owner : String} (h : HasWord owner) :
    Naming.IsCapital (wantedName owner).toList := by
  unfold wantedName
  by_cases hempty : owner = ""
  · rw [if_pos hempty]
    exact Naming.isCapital_cons (by decide) (Naming.isSpelled_of_all (by decide))
  · rw [if_neg hempty, Naming.pascalCase, String.toList_ofList]
    exact Naming.isCapital_pascal (Naming.words_ne_nil h)

/-- A property of names goes on to whatever is named after something that has it. -/
def GoesOn (N : String → Prop) : Prop :=
  ∀ name rest taken, N name → N (Naming.fresh taken (wantedName (name ++ rest)))

theorem goesOn_isCapital : GoesOn fun name => Naming.IsCapital name.toList := by
  intro name rest taken h
  exact Naming.isCapital_fresh taken (isCapital_wantedName (HasWord.append h.word rest))

/-- If all that types are asked for on behalf of has a property that goes on, the names in the
ledger keep it, since no other names are made. -/
theorem Asks.goesOn {c : Catalogue} {P : String → Value → Prop} {α : Type} {m : Build α}
    {N : String → Prop} (hm : Asks c P m) (hN : GoesOn N)
    (hP : ∀ owner v, P owner v → ∃ name rest, owner = name ++ rest ∧ N name) {a : α}
    {l l' : Ledger} (h : Returns m l a l') (hl : ∀ e ∈ l.inlined, N e.1) :
    ∀ e ∈ l'.inlined, N e.1 := by
  refine (hm.steps.returns h).entered (N := fun name _ => N name) (fun owner w hw taken => ?_) hl
  obtain ⟨v, hv, -⟩ := hw
  obtain ⟨name, rest, rfl, hname⟩ := hP owner v hv
  exact hN name rest taken hname

end Schema

namespace Generate

open Schema

section Run

variable {s : Settings} {d : Document}

/-- The type name of a schema name is its spelling as a type, numbered if it has to be. -/
theorem exists_fresh_typeName (schemas : List (String × Value)) (name : String) :
    ∃ key taken, (Catalogue.ofSchemas schemas).typeName name
      = Naming.fresh taken (Naming.schemaTypeName key) := by
  unfold Catalogue.typeName
  cases hlookup : (Catalogue.ofSchemas schemas).typeNames.lookup name with
  | none => exact ⟨name, [], (Naming.fresh_of_not_mem List.not_mem_nil).symm⟩
  | some type =>
    have hmem : type ∈ (Catalogue.ofSchemas schemas).typeNames.map (·.2) :=
      List.mem_map_of_mem (mem_of_lookup hlookup)
    rw [Catalogue.typeNames_map_snd] at hmem
    obtain ⟨wanted, hwanted, taken, rfl⟩ := Naming.exists_fresh_of_mem_freshAll hmem
    obtain ⟨key, -, rfl⟩ := List.mem_map.1 hwanted
    exact ⟨key, taken, rfl⟩

/-- The names of the types of named schemas are capital. -/
theorem isCapital_typeName (schemas : List (String × Value)) (name : String) :
    Naming.IsCapital ((Catalogue.ofSchemas schemas).typeName name).toList := by
  obtain ⟨key, taken, hfresh⟩ := exists_fresh_typeName schemas name
  rw [hfresh]
  exact Naming.isCapital_fresh taken (Naming.isCapital_schemaTypeName key)

/-- The owners of the schemas of an operation begin with its name. -/
theorem exists_rest_of_mem_ownedSchemas {o : Operation} {e : String × Value}
    (he : e ∈ ownedSchemas o) : ∃ rest, e.1 = o.name ++ rest := by
  unfold ownedSchemas at he
  rcases List.mem_append.1 he with he | he
  · rcases List.mem_append.1 he with he | he
    · obtain ⟨p, -, rfl⟩ := List.mem_map.1 he
      exact ⟨_, rfl⟩
    · obtain ⟨v, -, rfl⟩ := List.mem_map.1 he
      exact ⟨"Body", rfl⟩
  · obtain ⟨v, -, rfl⟩ := List.mem_map.1 he
    exact ⟨"Response", rfl⟩

/-- Working off the ledger names things after what is in it only. -/
theorem goesOn_inlineContracts {N : String → Prop} (hN : GoesOn N) {x : Context}
    {fuel index : Nat} {cs : List Contract} {l l' : Ledger} (hl : l.Sound x.catalogue x.pool)
    (hnames : ∀ e ∈ l.inlined, N e.1) (h : Returns (inlineContracts x fuel index) l cs l') :
    ∀ e ∈ l'.inlined, N e.1 := by
  induction fuel generalizing index cs l with
  | zero =>
    obtain ⟨-, rfl⟩ := returns_pure_iff.1 h
    exact hnames
  | succ fuel ih =>
    rw [inlineContracts] at h
    obtain ⟨k, k', hget, h⟩ := returns_bind_iff.1 h
    obtain ⟨hk, hk'⟩ := returns_get_iff.1 hget
    rw [hk, hk'] at h
    cases hat : l.inlined[index]? with
    | none =>
      rw [hat] at h
      obtain ⟨-, rfl⟩ := returns_pure_iff.1 h
      exact hnames
    | some e =>
      rw [hat] at h
      obtain ⟨c, l₁, hc, h⟩ := returns_bind_iff.1 h
      obtain ⟨cs', l₂, hrest, h⟩ := returns_bind_iff.1 h
      obtain ⟨rfl, rfl⟩ := returns_pure_iff.1 h
      have hmem : e ∈ l.inlined := List.mem_of_getElem? hat
      have hasks := asks_contract x.within_schemas e.1 (hl.objects e hmem).2
      -- what is asked for here is named after a type that is in the ledger already
      have hnames₁ : ∀ f ∈ l₁.inlined, N f.1 := hasks.goesOn hN (fun owner v howned => by
        obtain ⟨⟨rest, rfl⟩, -⟩ := howned
        exact ⟨e.1, rest, rfl, hnames e hmem⟩) hc hnames
      exact ih ((keeps_contract x.within_schemas e.1 (hl.objects e hmem).2 l c l₁ hc).2 hl)
        hnames₁ hrest

/-- If the names of the declared schemas and of the selected operations have a property that goes
on, all types without names of their own get names that have it. -/
theorem goesOn_contracts {N : String → Prop} (hN : GoesOn N) {cs : List Contract} {l : Ledger}
    (h : Returns (contracts (.of s d)) {} cs l)
    (hschemas : ∀ e ∈ d.schemas, e.2.isDeclared → N ((Context.of s d).catalogue.typeName e.1))
    (hoperations : ∀ ops, (Context.of s d).operations = .ok ops → ∀ o ∈ ops, N o.name) :
    ∀ e ∈ l.inlined, N e.1 := by
  obtain ⟨named, inlined, ops, l₁, l₂, u, hnamed, hops, hregister, hinlined, -⟩ :=
    returns_contracts_iff.1 h
  have hwithin := (Context.of s d).within_schemas
  -- the named schemas come first, then the operations, and then what the ledger holds by itself
  have hnames₁ : ∀ e ∈ l₁.inlined, N e.1 :=
    (asks_namedContracts hwithin hwithin).goesOn hN (fun owner v hasks => by
      obtain ⟨e, he, hdeclared, ⟨rest, rfl⟩, -⟩ := hasks
      exact ⟨_, rest, rfl, hschemas e he hdeclared⟩) hnamed (by simp)
  have hnames₂ : ∀ e ∈ l₂.inlined, N e.1 :=
    (asks_register (P := fun owner _ => ∃ name rest, owner = name ++ rest ∧ N name) fun e he => by
      obtain ⟨o, ho, he⟩ := List.mem_flatMap.1 he
      obtain ⟨rest, hrest⟩ := exists_rest_of_mem_ownedSchemas he
      exact ⟨o.name, rest, hrest, hoperations ops hops o ho⟩).goesOn hN (fun _ _ h => h)
      hregister hnames₁
  exact goesOn_inlineContracts hN (sound_register hnamed hops hregister) hnames₂ hinlined

/-- All types without names of their own get capital names. -/
theorem capital_contracts {cs : List Contract} {l : Ledger}
    (h : Returns (contracts (.of s d)) {} cs l) :
    ∀ e ∈ l.inlined, Naming.IsCapital e.1.toList :=
  goesOn_contracts goesOn_isCapital h (fun e _ _ => isCapital_typeName d.schemas e.1)
    fun _ _ o _ => o.isCapital_name

end Run

/-! ## Members of enumerations -/

/-- Digits behind some lines are a capital name. -/
theorem isCapital_lines (lines : String) (hlines : ∃ r, lines.toList = '_' :: r
    ∧ Naming.IsSpelled r) (k : Nat) : Naming.IsCapital (lines ++ toString k).toList := by
  obtain ⟨r, hr, hspelled⟩ := hlines
  obtain ⟨c, hc, hdigit⟩ := Naming.exists_digit k
  have hword : Naming.isWordChar c := by
    rw [Naming.isWordChar_eq, hdigit, Bool.or_true]
  rw [String.toList_append, hr, List.cons_append]
  refine ⟨?_, ⟨'_', _, rfl, .inr rfl⟩, ⟨c, ?_, hword⟩⟩
  · exact List.forall_mem_cons.2 ⟨by decide, hspelled.append (Naming.isSpelled_toString k)⟩
  · exact List.mem_cons_of_mem _ (List.mem_append_right _ hc)

/-- The name of a member for an integer begins with a line, and its digits follow. -/
theorem isCapital_integerMemberName (n : Int) :
    Naming.IsCapital (integerMemberName n).toList := by
  unfold integerMemberName
  by_cases hn : n < 0
  · rw [if_pos hn]
    exact isCapital_lines "__" ⟨['_'], rfl, Naming.isSpelled_of_all (by decide)⟩ _
  · rw [if_neg hn]
    obtain ⟨k, rfl⟩ := Int.eq_ofNat_of_zero_le (Int.not_lt.1 hn)
    exact isCapital_lines "_" ⟨[], rfl, Naming.isSpelled_of_all (by decide)⟩ k

theorem isCapital_textMemberName (v : Value) :
    Naming.IsCapital (textMemberName v).toList := by
  unfold textMemberName
  by_cases hempty : Naming.pascalCase v.display = ""
  · rw [if_pos hempty]
    exact Naming.isCapital_cons (by decide) (Naming.isSpelled_of_all (by decide))
  · rw [if_neg hempty]
    exact Naming.isCapital_pascalCase hempty

theorem IsMade.isCapital {taken : List String} {order : Nat} {isText : Bool} {v : Value}
    {m : EnumMember} (h : IsMade taken order isText v m) : Naming.IsCapital m.name.toList := by
  cases h with
  | text => exact Naming.isCapital_fresh taken (isCapital_textMemberName _)
  | integer => exact Naming.isCapital_fresh taken (isCapital_integerMemberName _)

/-! ## Properties -/

/-- A property has a capital name, and keeps it when it has to differ from its class. -/
theorem isCapital_propertyName (typeName : String) (key : Scalar) :
    Naming.IsCapital (propertyName typeName (keyWords key)).toList := by
  have hname : Naming.IsCapital
      (if keyWords key = "" then "Value" else keyWords key).toList := by
    by_cases hempty : keyWords key = ""
    · rw [if_pos hempty]
      exact Naming.isCapital_cons (by decide) (Naming.isSpelled_of_all (by decide))
    · rw [if_neg hempty]
      unfold keyWords at hempty ⊢
      split at hempty
      · exact Naming.isCapital_pascalCase hempty
      · exact absurd rfl hempty
  unfold propertyName
  dsimp only
  generalize (if keyWords key = "" then "Value" else keyWords key) = name at hname ⊢
  split
  · rw [String.toList_append]
    exact hname.append (Naming.isSpelled_of_all (by decide))
  · exact hname

/-! ## Declared types -/

/-- The identifiers that a declared type declares: its own name, and those of its properties or
members. -/
def Contract.identifiers : Contract → List String
  | .classDecl c => c.name :: c.properties.map (·.name)
  | .enumDecl e => e.name :: e.members.map (·.name)

/-- What is declared under a capital name has capital names in it. -/
theorem MadeFrom.isCapital {x : Context} {c : Contract} {e : String × Value}
    (h : MadeFrom x c e) (he : Naming.IsCapital e.1.toList) :
    ∀ name ∈ c.identifiers, Naming.IsCapital name.toList := by
  have hname := h.name
  cases c with
  | classDecl d =>
    obtain ⟨-, l, l', hd⟩ := h.classDecl
    obtain ⟨parts, l₁, l₂, -, hproperties, -, -⟩ := returns_classDecl hd
    refine List.forall_mem_cons.2 ⟨?_, ?_⟩
    · rw [← hname] at he
      exact he
    · rw [names_classProperties hproperties]
      refine Naming.isCapital_freshAll _ ?_
      intro wanted hwanted
      obtain ⟨m, -, rfl⟩ := List.mem_map.1 hwanted
      exact isCapital_propertyName e.1 m.1
  | enumDecl d =>
    obtain ⟨-, l, l', hd⟩ := h.enumDecl
    obtain ⟨values, l₁, l₂, -, hmembers, -⟩ := parts_of_enumDecl hd
    refine List.forall_mem_cons.2 ⟨?_, ?_⟩
    · rw [← hname] at he
      exact he
    · have hcapital := forall₂_enumMembers (R := fun _ m => Naming.IsCapital m.name.toList)
        IsMade.isCapital hmembers
      intro name hmem
      obtain ⟨m, hm, rfl⟩ := List.mem_map.1 hmem
      obtain ⟨v, -, hm⟩ := exists_left_of_mem hcapital hm
      exact hm

/-! ## The interface -/

theorem isCapital_withInterfaceLetter {name : String} (h : Naming.IsSpelled name.toList) :
    Naming.IsCapital (withInterfaceLetter name).toList := by
  have hletter : Naming.IsCapital ("I" ++ name).toList := by
    rw [String.toList_append]
    exact Naming.isCapital_cons (by decide) h
  unfold withInterfaceLetter
  split
  · rename_i c r hname
    split
    · rw [hname] at h ⊢
      exact Naming.isCapital_cons (by decide) fun d hd => h d (List.mem_cons_of_mem _ hd)
    · exact hletter
  · exact hletter

theorem isCapital_interfaceName (x : Context) : Naming.IsCapital (interfaceName x).toList := by
  unfold interfaceName
  dsimp only
  split
  · rw [String.toList_append]
    exact Naming.isCapital_cons (by decide) (Naming.isSpelled_pascalCase _)
  · refine isCapital_withInterfaceLetter ?_
    split
    · exact Naming.isSpelled_of_all (by decide)
    · exact Naming.isSpelled_pascalCase _

theorem AtMostFresh.isIdentifier {taken : List String} {wanted : String}
    {ps : List MethodParam} (h : AtMostFresh taken wanted ps)
    (hname : Naming.IsName wanted.toList) (hfree : wanted ∉ Naming.reservedWords) :
    ∀ p ∈ ps, Naming.IsIdentifier p.name := by
  intro p hp
  rcases h with rfl | h
  · cases hp
  · have hmem : p.name ∈ ps.map (·.name) := List.mem_map_of_mem hp
    rw [h, List.mem_singleton] at hmem
    rw [hmem]
    exact Naming.isIdentifier_fresh taken hname hfree

/-- The parameters of a method have identifiers: those of the operation are escaped where they
have to be, and the names of the body and the token are no reserved words. -/
theorem isIdentifier_params {x : Context} {name : String} {o : Operation} {m : MethodSig}
    {l l' : Ledger} (h : Returns (method x name o) l m l') :
    ∀ p ∈ m.params, Naming.IsIdentifier p.name := by
  obtain ⟨rows, taken, body, l₁, l₂, l₃, hrows, hbody, -, -, -, hparams⟩ := returns_method h
  obtain ⟨hnames, -⟩ := names_methodParams hrows
  have hplain : ∀ p ∈ rows.map (·.1), Naming.IsIdentifier p.name := by
    intro p hp
    have hmem : p.name ∈ rows.map (·.1.name) := by
      obtain ⟨row, hrow, rfl⟩ := List.mem_map.1 hp
      exact List.mem_map_of_mem hrow
    rw [hnames] at hmem
    obtain ⟨fresh, hfresh, heq⟩ := List.mem_map.1 hmem
    -- which names were taken at that point does not count
    obtain ⟨wanted, hwanted, taken', rfl⟩ := Naming.exists_fresh_of_mem_freshAll hfresh
    obtain ⟨e, -, rfl⟩ := List.mem_map.1 hwanted
    rw [← heq]
    exact Naming.isIdentifier_escapeKeyword
      (Naming.isName_fresh taken' (isName_wantedParameter e.2))
  rw [hparams]
  intro p hp
  have hmem := (params_perm _ body _).mem_iff.1 hp
  rcases List.mem_append.1 hmem with hmem | hmem
  · rcases List.mem_append.1 hmem with hmem | hmem
    · exact hplain p hmem
    · refine (names_bodyParam hbody).isIdentifier ?_ (by decide) p hmem
      exact ⟨'b', "ody".toList, rfl, by decide, Naming.isSpelled_of_all (by decide)⟩
  · refine (names_tokenParam _).isIdentifier ?_ (by decide) p hmem
    exact ⟨'c', "ancellationToken".toList, rfl, by decide, Naming.isSpelled_of_all (by decide)⟩

/-- The identifiers that an interface declares: its own name, and those of its methods and of
their parameters. -/
def interfaceIdentifiers (i : InterfaceDecl) : List String :=
  i.name :: i.methods.flatMap fun m => m.name :: m.params.map (·.name)

/-- When the contracts and then the interface are written, everything that is declared has an
identifier for its name: types, properties, members of enumerations, the interface, methods
and parameters. -/
theorem emission_identifiers (s : Settings) (d : Document) {cs : List Contract}
    {i : InterfaceDecl} {l l' : Ledger} (hcontracts : Returns (contracts (.of s d)) {} cs l)
    (hinterface : Returns (interfaceDecl (.of s d)) l i l') :
    ∀ name ∈ cs.flatMap Contract.identifiers ++ interfaceIdentifiers i,
      Naming.IsIdentifier name := by
  intro name hname
  rcases List.mem_append.1 hname with hname | hname
  · obtain ⟨c, hc, hname⟩ := List.mem_flatMap.1 hname
    obtain ⟨_, _, _, _, -, -, -, -, hmade⟩ := contracts_stages hcontracts
    obtain ⟨e, he, hce⟩ := exists_right_of_mem hmade hc
    refine (hce.isCapital ?_ name hname).isIdentifier
    -- the type is that of a named schema, or of an object with its name in the ledger
    rcases List.mem_append.1 he with he | he
    · obtain ⟨f, -, rfl⟩ := List.mem_map.1 he
      exact isCapital_typeName d.schemas f.1
    · exact capital_contracts hcontracts e he
  · obtain ⟨ops, -, hmethods, hi⟩ := returns_interfaceDecl hinterface
    obtain ⟨hfrom, hnames⟩ := methods_spec hmethods
    rcases List.mem_cons.1 hname with rfl | hname
    · rw [hi]
      exact (isCapital_interfaceName _).isIdentifier
    · obtain ⟨m, hm, hname⟩ := List.mem_flatMap.1 hname
      rcases List.mem_cons.1 hname with rfl | hname
      · have hmem : m.name ∈ i.methods.map (·.name) := List.mem_map_of_mem hm
        rw [hnames] at hmem
        refine (Naming.isCapital_freshAll [] ?_ m.name hmem).isIdentifier
        intro wanted hwanted
        obtain ⟨o, -, rfl⟩ := List.mem_map.1 hwanted
        exact o.isCapital_name
      · obtain ⟨p, hp, rfl⟩ := List.mem_map.1 hname
        obtain ⟨o, -, k, n, k', hmethod⟩ := exists_right_of_mem hfrom hm
        exact isIdentifier_params hmethod p hp

/-- All identifiers for the document in which many names are spelled alike. -/
def crowdedIdentifiers : List String :=
  ["Node", "NodeProperty", "NodeProperty2", "_9", "NodeProperty3", "Value", "Kind", "Empty",
    "Empty2", "Class", "Level", "_1", "__1", "IClass", "List", "@class", "class2", "body2", "body",
    "cancellationToken", "cancellationToken2", "List2", "cancellationToken"]

set_option maxRecDepth 10000 in
theorem emission_identifiers_crowded :
    ∃ cs i l l', Returns (contracts (.of crowdedSettings crowdedDocument)) {} cs l
      ∧ Returns (interfaceDecl (.of crowdedSettings crowdedDocument)) l i l'
      ∧ cs.flatMap Contract.identifiers ++ interfaceIdentifiers i = crowdedIdentifiers
      ∧ ∀ name ∈ cs.flatMap Contract.identifiers ++ interfaceIdentifiers i,
        Naming.IsIdentifier name := by
  have hrun : ((parts (.of crowdedSettings crowdedDocument)).run.run {}).1.toOption.map
      (fun r => r.1.flatMap Contract.identifiers ++ interfaceIdentifiers r.2)
        = some crowdedIdentifiers := by
    decide +kernel
  obtain ⟨cs, i, l, l', hcontracts, hinterface, hnames⟩ := exists_passes hrun
  exact ⟨cs, i, l, l', hcontracts, hinterface, hnames,
    emission_identifiers _ _ hcontracts hinterface⟩

end Generate

end OpenApiClient
