/-
The name of the interface and the names of the types.

The types get different names, since each one is made fresh among those before it.  The name of
the interface is made from the title or from the settings, and nothing is asked about other names:
it can be the name of a type that stands in the same namespace.

It begins with the letter of interfaces, though, and another capital or a line behind it.  So it
is the name of a type only if a schema or an operation is called like that: the first letters of a
name are kept when types are named after it (`Naming.IsStart.pascal`), and so a name that no
interface can have is passed on to such names (`goesOn_isApart`).
-/
import OpenApiClient.Proofs.DeclaredNames

set_option autoImplicit false

namespace OpenApiClient

/-! ## The first letters of a name -/

namespace Naming

theorem runs_cons {c : Char} (hc : isWordChar c) (r : List Char) :
    ∃ run rest, runs (c :: r) = (c :: run) :: rest := by
  rw [runs.eq_def]
  dsimp only
  rw [if_pos hc]
  cases r with
  | nil => exact ⟨[], [], rfl⟩
  | cons d r =>
    dsimp only
    split
    · split
      · exact ⟨[], [], rfl⟩
      · exact ⟨_, _, rfl⟩
    · exact ⟨[], _, rfl⟩

theorem runs_cons_cons {c d : Char} (hc : isWordChar c) (hd : isWordChar d) (r : List Char) :
    ∃ run rest, runs (c :: d :: r) = (c :: d :: run) :: rest := by
  obtain ⟨run, rest, hruns⟩ := runs_cons hd r
  refine ⟨run, rest, ?_⟩
  rw [runs.eq_def]
  dsimp only
  rw [if_pos hc, if_pos hd, hruns]

theorem cut_cons (c : Char) (r : List Char) : ∃ w ws, cut (c :: r) = (c :: w) :: ws := by
  rw [cut]
  cases cut r with
  | nil => exact ⟨[], [], rfl⟩
  | cons w ws =>
    dsimp only
    split
    · exact ⟨[], _, rfl⟩
    · exact ⟨w, ws, rfl⟩

theorem cut_cons_cons (c : Char) {d : Char} (hd : ¬ d.isUpper) (r : List Char) :
    ∃ w ws, cut (c :: d :: r) = (c :: d :: w) :: ws := by
  obtain ⟨w, ws, hcut⟩ := cut_cons d r
  have hseam : isSeam c (d :: w) = false := by
    rw [isSeam, Bool.eq_false_iff.2 hd, Bool.false_and]
  refine ⟨w, ws, ?_⟩
  rw [cut, hcut]
  dsimp only
  rw [hseam]
  rfl

/-- The first word of a text that begins with a letter or a digit begins with it. -/
theorem words_cons {c : Char} (hc : isWordChar c) (r : List Char) :
    ∃ w ws, words (c :: r) = (c :: w) :: ws := by
  obtain ⟨run, rest, hruns⟩ := runs_cons hc r
  obtain ⟨w, ws, hcut⟩ := cut_cons c run
  rw [words, hruns, List.flatMap_cons, hcut]
  exact ⟨w, _, rfl⟩

/-- A small letter or a digit does not begin another word. -/
theorem words_cons_cons {c d : Char} (hc : isWordChar c) (hd : d.isLower ∨ d.isDigit)
    (r : List Char) : ∃ w ws, words (c :: d :: r) = (c :: d :: w) :: ws := by
  obtain ⟨run, rest, hruns⟩ := runs_cons_cons hc (isWordChar_of_small hd) r
  obtain ⟨w, ws, hcut⟩ := cut_cons_cons c (not_isUpper_of_small hd) run
  rw [words, hruns, List.flatMap_cons, hcut]
  exact ⟨w, _, rfl⟩

/-- A line is in no word. -/
theorem words_line (r : List Char) : words ('_' :: r) = words r := by
  have hruns : runs ('_' :: r) = runs r := by
    rw [runs.eq_def]
    exact if_neg (by decide)
  rw [words, hruns, words]

theorem capitalize_cons {c : Char} (hc : ¬ c.isLower) (w : List Char) :
    ∃ w', capitalize (c :: w) = c :: w' := by
  unfold capitalize
  split
  · exact ⟨w, rfl⟩
  · refine ⟨w.map Char.toLower, ?_⟩
    dsimp only
    rw [toUpper_of_not_isLower hc]

theorem capitalize_cons_cons {c d : Char} (hc : ¬ c.isLower) (hd : ¬ d.isUpper) (w : List Char) :
    ∃ w', capitalize (c :: d :: w) = c :: d :: w' := by
  unfold capitalize
  split
  · exact ⟨w, rfl⟩
  · refine ⟨w.map Char.toLower, ?_⟩
    dsimp only
    rw [toUpper_of_not_isLower hc, List.map_cons, toLower_of_not_isUpper hd]

/-! ### Starts -/

/-- The start of a name that is spelled as a type: a capital, a capital with a small letter or a
digit behind it, or a digit with the line that is put before it. -/
inductive IsStart : List Char → Prop where
  | capital {c : Char} (hc : c.isUpper) : IsStart [c]
  | pair {c d : Char} (hc : c.isUpper) (hd : d.isLower ∨ d.isDigit) : IsStart [c, d]
  | guarded {d : Char} (hd : d.isDigit) : IsStart ['_', d]

theorem guardDigit_of_isUpper {c : Char} (hc : c.isUpper) (r : List Char) :
    guardDigit (c :: r) = c :: r := by
  refine if_neg fun hdigit => ?_
  exact not_isUpper_of_small (.inr hdigit) hc

/-- A start stays when the text that begins with it is spelled again. -/
theorem IsStart.pascal {p s : List Char} (hp : IsStart p) (h : p <+: s) : p <+: pascal s := by
  obtain ⟨t, rfl⟩ := h
  unfold Naming.pascal
  -- in each case the first word of the text begins as the start does
  cases hp with
  | @capital c hc =>
    obtain ⟨w, ws, hwords⟩ := words_cons (isWordChar_of_isUpper hc) t
    obtain ⟨w', hw'⟩ := capitalize_cons (not_isLower_of_isUpper hc) w
    rw [List.singleton_append, hwords, List.flatMap_cons, hw', List.cons_append,
      guardDigit_of_isUpper hc]
    exact ⟨_, rfl⟩
  | @pair c d hc hd =>
    obtain ⟨w, ws, hwords⟩ := words_cons_cons (isWordChar_of_isUpper hc) hd t
    obtain ⟨w', hw'⟩ :=
      capitalize_cons_cons (not_isLower_of_isUpper hc) (not_isUpper_of_small hd) w
    rw [List.cons_append, List.singleton_append, hwords, List.flatMap_cons, hw', List.cons_append,
      guardDigit_of_isUpper hc]
    exact ⟨_, rfl⟩
  | @guarded d hd =>
    have hsmall : ¬ d.isLower := by
      rw [Char.isDigit_iff_toNat] at hd
      rw [isLower_iff]
      have hnine : '9'.toNat = 57 := rfl
      omega
    obtain ⟨w, ws, hwords⟩ := words_cons (isWordChar_of_small (.inr hd)) t
    obtain ⟨w', hw'⟩ := capitalize_cons hsmall w
    rw [List.cons_append, List.singleton_append, words_line, hwords, List.flatMap_cons, hw',
      List.cons_append]
    refine ⟨w' ++ ws.flatMap capitalize, ?_⟩
    exact (if_pos hd).symm

/-- A name begins with a start. -/
def HasStart (s : List Char) : Prop := ∃ p, IsStart p ∧ p <+: s

theorem HasStart.append {s : List Char} (h : HasStart s) (t : List Char) : HasStart (s ++ t) := by
  obtain ⟨p, hp, hs⟩ := h
  exact ⟨p, hp, hs.trans (List.prefix_append s t)⟩

/-- Whatever is spelled as a type has a start, if there is anything to spell. -/
theorem hasStart_pascal {s : List Char} (h : Naming.pascal s ≠ []) :
    HasStart (Naming.pascal s) := by
  obtain ⟨w, ws, hws⟩ := List.exists_cons_of_ne_nil fun hwords => h (pascal_eq_nil hwords)
  have hmem : w ∈ words s := by
    rw [hws]
    exact List.mem_cons_self
  obtain ⟨c, r, hw, hword, hsmall⟩ := head_capitalize (ne_nil_of_mem_words hmem)
    fun c hc => isWordChar_of_mem_words hmem hc
  unfold Naming.pascal
  rw [hws, List.flatMap_cons, hw, List.cons_append]
  by_cases hdigit : c.isDigit
  · refine ⟨['_', c], .guarded hdigit, r ++ ws.flatMap capitalize, ?_⟩
    exact (if_pos hdigit).symm
  · have hupper : c.isUpper := by
      rw [isWordChar_eq, isAlpha_eq, Bool.or_eq_true, Bool.or_eq_true] at hword
      exact (hword.resolve_right hdigit).resolve_right hsmall
    rw [guardDigit_of_isUpper hupper]
    exact ⟨[c], .capital hupper, _, rfl⟩

theorem hasStart_pascalCase {s : String} (h : pascalCase s ≠ "") :
    HasStart (pascalCase s).toList := by
  rw [pascalCase, String.toList_ofList]
  refine hasStart_pascal fun hnil => h ?_
  rw [pascalCase, hnil, String.ofList_nil]

theorem hasStart_schemaTypeName (name : String) : HasStart (schemaTypeName name).toList := by
  unfold schemaTypeName
  by_cases ht : isTypeSpelling (Text.lastPiece '.' name.toList)
  · simp only [ht, if_true, String.toList_ofList]
    generalize Text.lastPiece '.' name.toList = s at ht
    cases s with
    | nil => cases ht
    | cons a r =>
      rw [isTypeSpelling, Bool.and_eq_true] at ht
      exact ⟨[a], .capital ht.1, r, rfl⟩
  · simp only [ht, Bool.false_eq_true, if_false]
    split
    · exact ⟨['M'], .capital (by decide), "odel".toList, rfl⟩
    · rename_i hne
      rw [String.toList_ofList]
      exact hasStart_pascal hne

theorem HasStart.fresh {name : String} (h : HasStart name.toList) (taken : List String) :
    HasStart (Naming.fresh taken name).toList := by
  rcases fresh_eq taken name with he | ⟨k, -, he⟩
  · rw [he]
    exact h
  · rw [he, numbered, String.toList_append]
    exact h.append _

/-! ### Names like those of interfaces -/

/-- A name begins like the one of an interface: with the letter of interfaces, and nothing, a
capital or a line behind it. -/
def isInterfaceLike : List Char → Bool
  | 'I' :: r => r.head?.all fun c => c.isUpper || c = '_'
  | _ => false

/-- A name begins otherwise, and so does what is named after it. -/
def IsApart (s : List Char) : Prop := ∃ p, IsStart p ∧ p ≠ ['I'] ∧ p <+: s

theorem IsApart.append {s : List Char} (h : IsApart s) (t : List Char) : IsApart (s ++ t) := by
  obtain ⟨p, hp, hne, hs⟩ := h
  exact ⟨p, hp, hne, hs.trans (List.prefix_append s t)⟩

theorem IsApart.pascal {s : List Char} (h : IsApart s) : IsApart (Naming.pascal s) := by
  obtain ⟨p, hp, hne, hs⟩ := h
  exact ⟨p, hp, hne, hp.pascal hs⟩

theorem IsApart.fresh {name : String} (h : IsApart name.toList) (taken : List String) :
    IsApart (Naming.fresh taken name).toList := by
  rcases fresh_eq taken name with he | ⟨k, -, he⟩
  · rw [he]
    exact h
  · rw [he, numbered, String.toList_append]
    exact h.append _

theorem isInterfaceLike_iff {s : List Char} :
    isInterfaceLike s ↔ ∃ r, s = 'I' :: r ∧ ∀ c ∈ r.head?, c.isUpper ∨ c = '_' := by
  unfold isInterfaceLike
  split
  · rename_i r
    simp [Option.all_eq_true]
  · rename_i hne
    simp only [Bool.false_eq_true, false_iff, not_exists, not_and]
    exact fun r hr => absurd hr (hne r)

theorem IsApart.not_interfaceLike {s : List Char} (h : IsApart s) : ¬ isInterfaceLike s := by
  obtain ⟨p, hp, hne, t, rfl⟩ := h
  rw [isInterfaceLike_iff]
  rintro ⟨r, hr, hhead⟩
  cases hp with
  | capital hc =>
    cases hr
    exact hne rfl
  | @pair c d hc hd =>
    cases hr
    rcases hhead d rfl with hupper | rfl
    · exact not_isUpper_of_small hd hupper
    · revert hd
      decide
  | guarded hd => cases hr

/-- A name with a start is apart from those of interfaces, unless it begins like one. -/
theorem HasStart.isApart {s : List Char} (h : HasStart s) (hs : IsSpelled s)
    (hlike : ¬ isInterfaceLike s) : IsApart s := by
  obtain ⟨p, hp, hprefix⟩ := h
  by_cases hne : p = ['I']
  · -- what stands behind the letter makes a longer start, since it is no capital and no line
    obtain ⟨t, rfl⟩ := hprefix
    rw [hne] at hs hlike ⊢
    cases t with
    | nil => exact absurd rfl hlike
    | cons d t =>
      refine ⟨['I', d], .pair (by decide) ?_, by simp, t, rfl⟩
      have hd : ¬ (d.isUpper ∨ d = '_') := fun hd => hlike (isInterfaceLike_iff.2 ⟨d :: t, rfl, by
        rintro _ ⟨⟩
        exact hd⟩)
      have hname := hs d (by simp)
      rw [isNameChar, isWordChar_eq, isAlpha_eq] at hname
      simp only [Bool.or_eq_true, decide_eq_true_eq] at hname
      tauto
  · exact ⟨p, hp, hne, hprefix⟩

end Naming

/-! ## Names after names -/

theorem Operation.hasStart_name (o : Operation) : Naming.HasStart o.name.toList := by
  unfold Operation.name
  dsimp only
  by_cases h : Naming.pascalCase (o.operationId.getD "") = ""
  · rw [if_pos h]
    unfold Operation.pathName
    dsimp only
    rw [String.toList_append]
    refine Naming.HasStart.append (Naming.hasStart_pascalCase ?_) _
    cases o.verb <;> decide
  · rw [if_neg h]
    exact Naming.hasStart_pascalCase h

namespace Schema

/-- What is named after something that is apart from interfaces is apart from them too. -/
theorem goesOn_isApart : GoesOn fun name => Naming.IsApart name.toList := by
  intro name rest taken h
  have howner : Naming.IsApart (name ++ rest).toList := by
    rw [String.toList_append]
    exact h.append _
  have hne : name ++ rest ≠ "" := by
    intro hempty
    rw [hempty] at howner
    obtain ⟨p, hp, -, hs⟩ := howner
    rw [List.prefix_nil.1 hs] at hp
    cases hp
  refine Naming.IsApart.fresh ?_ taken
  rw [wantedName, if_neg hne, Naming.pascalCase, String.toList_ofList]
  exact howner.pascal

end Schema

namespace Generate

open Schema
open CSharp

/-! ## The name of the interface -/

theorem interfaceLike_append {name : String} (h : Naming.IsCapital name.toList) :
    Naming.isInterfaceLike ("I" ++ name).toList := by
  obtain ⟨c, r, hcr, hc⟩ := h.head
  rw [String.toList_append, hcr]
  refine Naming.isInterfaceLike_iff.2 ⟨c :: r, rfl, ?_⟩
  rintro _ ⟨⟩
  exact hc

theorem interfaceLike_withInterfaceLetter {name : String} (h : Naming.IsCapital name.toList) :
    Naming.isInterfaceLike (withInterfaceLetter name).toList := by
  unfold withInterfaceLetter
  split
  · rename_i c r hname
    split
    · rename_i hupper
      rw [hname]
      refine Naming.isInterfaceLike_iff.2 ⟨c :: r, rfl, ?_⟩
      rintro _ ⟨⟩
      exact .inl hupper
    · exact interfaceLike_append h
  · exact interfaceLike_append h

theorem interfaceLike_interfaceName (x : Context) :
    Naming.isInterfaceLike (interfaceName x).toList := by
  unfold interfaceName
  dsimp only
  split
  · rename_i htitle
    simp only [Bool.and_eq_true, decide_eq_true_eq] at htitle
    exact interfaceLike_append (Naming.isCapital_pascalCase htitle.2)
  · refine interfaceLike_withInterfaceLetter ?_
    split
    · exact Naming.isCapital_cons (by decide) (Naming.isSpelled_of_all (by decide))
    · rename_i hset
      exact Naming.isCapital_pascalCase hset

/-- The type name of a schema is apart from the names of interfaces, unless it begins like one. -/
theorem isApart_typeName {schemas : List (String × Value)} {name : String}
    (h : ¬ Naming.isInterfaceLike ((Catalogue.ofSchemas schemas).typeName name).toList) :
    Naming.IsApart ((Catalogue.ofSchemas schemas).typeName name).toList := by
  refine Naming.HasStart.isApart ?_ (isCapital_typeName schemas name).spelled h
  obtain ⟨key, taken, hfresh⟩ := exists_fresh_typeName schemas name
  rw [hfresh]
  exact (Naming.hasStart_schemaTypeName key).fresh taken

/-- When the contracts and then the interface are written, the name of the interface differs from
those of all types exactly if no declared schema and no type in the ledger is called so.  Nothing
sees to that; but it is so if no declared schema and no selected operation is called like an
interface. -/
theorem interface_apart_iff (s : Settings) (d : Document) {cs : List Contract} {i : InterfaceDecl}
    {l l' : Ledger} (hcontracts : Returns (contracts (.of s d)) {} cs l)
    (hinterface : Returns (interfaceDecl (.of s d)) l i l') :
    (i.name ∉ cs.map Contract.name
        ↔ (∀ e ∈ d.schemas, e.2.isDeclared → (Context.of s d).catalogue.typeName e.1 ≠ i.name)
          ∧ ∀ e ∈ l.inlined, e.1 ≠ i.name)
      ∧ ((∀ e ∈ d.schemas, e.2.isDeclared →
            ¬ Naming.isInterfaceLike ((Context.of s d).catalogue.typeName e.1).toList) →
          (∀ ops, (Context.of s d).operations = .ok ops →
            ∀ o ∈ ops, ¬ Naming.isInterfaceLike o.name.toList) →
          i.name ∉ cs.map Contract.name) := by
  obtain ⟨ops, hops, -, hi⟩ := returns_interfaceDecl hinterface
  have hlike : Naming.isInterfaceLike i.name.toList := by
    rw [hi]
    exact interfaceLike_interfaceName _
  have hiff : i.name ∉ cs.map Contract.name
      ↔ (∀ e ∈ d.schemas, e.2.isDeclared → (Context.of s d).catalogue.typeName e.1 ≠ i.name)
        ∧ ∀ e ∈ l.inlined, e.1 ≠ i.name := by
    obtain ⟨_, _, _, _, -, -, -, -, hmade⟩ := contracts_stages hcontracts
    rw [map_name_eq hmade, List.map_append, declaredSchemas, List.map_map]
    simp only [List.mem_append, List.mem_map, List.mem_filter, Function.comp_apply, not_or,
      not_exists, not_and, and_imp, ne_eq]
  refine ⟨hiff, fun hschemas hoperations => hiff.2 ⟨?_, ?_⟩⟩
  · intro e he hdeclared heq
    rw [← heq] at hlike
    exact hschemas e he hdeclared hlike
  · -- a name in the ledger goes on from one that is not like an interface
    intro e he heq
    have hapart := goesOn_contracts goesOn_isApart hcontracts
      (fun e he hdeclared => isApart_typeName (hschemas e he hdeclared))
      (fun ops hops o ho => o.hasStart_name.isApart o.isCapital_name.spelled
        (hoperations ops hops o ho)) e he
    rw [← heq] at hlike
    exact hapart.not_interfaceLike hlike

theorem interface_apart_iff_crowded :
    ∃ cs i l l', Returns (contracts (.of crowdedSettings crowdedDocument)) {} cs l
      ∧ Returns (interfaceDecl (.of crowdedSettings crowdedDocument)) l i l'
      ∧ i.name = "IClass" ∧ i.name ∉ cs.map Contract.name := by
  have hrun : ((parts (.of crowdedSettings crowdedDocument)).run.run {}).1.toOption.map
      (fun r => r.2.name) = some "IClass" := by
    decide +kernel
  have hschemas : ∀ e ∈ crowdedDocument.schemas, e.2.isDeclared → ¬ Naming.isInterfaceLike
      ((Context.of crowdedSettings crowdedDocument).catalogue.typeName e.1).toList := by
    decide +kernel
  have hoperations : ∀ o ∈ crowdedDocument.operations,
      ¬ Naming.isInterfaceLike o.name.toList := by
    decide +kernel
  obtain ⟨cs, i, l, l', hcontracts, hinterface, hname⟩ := exists_passes hrun
  obtain ⟨-, hapart⟩ := interface_apart_iff _ _ hcontracts hinterface
  refine ⟨cs, i, l, l', hcontracts, hinterface, hname, hapart hschemas fun ops hops o ho => ?_⟩
  exact hoperations o (Context.operations_subset hops ho)

/-- A document with a type that is called like its interface. -/
def packDocument : Document where
  title := "Pack"
  schemas := [("IPack", .object 1 [(.text "properties", .object 2 [
    (.text "size", .object 3 [(.text "type", .text "integer")])])])]

/-- The settings for that document. -/
def packSettings : Settings := { openApiPath := "pack.json" }

/-- The interface is called like a type that is declared beside it. -/
theorem interface_called_like_type :
    ∃ cs i l l', Returns (contracts (.of packSettings packDocument)) {} cs l
      ∧ Returns (interfaceDecl (.of packSettings packDocument)) l i l'
      ∧ i.name ∈ cs.map Contract.name := by
  have hrun : ((parts (.of packSettings packDocument)).run.run {}).1.toOption.map
      (fun r => (r.2.name, r.1.map Contract.name)) = some ("IPack", ["IPack"]) := by
    decide +kernel
  obtain ⟨cs, i, l, l', hcontracts, hinterface, hnames⟩ := exists_passes hrun
  obtain ⟨hi, hcs⟩ := Prod.mk.inj hnames
  refine ⟨cs, i, l, l', hcontracts, hinterface, ?_⟩
  rw [hi, hcs]
  exact List.mem_singleton.2 rfl

end Generate

end OpenApiClient
