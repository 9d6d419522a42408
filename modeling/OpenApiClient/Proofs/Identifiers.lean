/-
Generated names are identifiers of the generated language.

Whatever text a name is made from, it comes out in one of two spellings.  A name of a type, a
method, a property or a member of an enumeration is *capital*: it begins with a capital or a
line, while all reserved words begin with a small letter.  A name of a parameter can be spelled
like a reserved word, and then it carries the sign.  Both are kept when a number is put behind
a name to make it different.

A capital name also has a letter or digit in it.  That is what names of types that are built
from it need: a name without words would be respelled as nothing.
-/
import OpenApiClient.Proofs.Spelling

set_option autoImplicit false

namespace OpenApiClient.Naming

/-! ## What an identifier is -/

/-- Whether a name can begin with a character: a letter or a line. -/
def isNameStart (c : Char) : Bool := c.isAlpha || c = '_'

/-- A letter or a line, and then letters, digits and lines. -/
def IsName (s : List Char) : Prop := ∃ c r, s = c :: r ∧ isNameStart c ∧ IsSpelled r

/-- The words that the language reserves, by what they are used for. -/
def reservedWords : List String :=
  ["bool", "byte", "char", "decimal", "double", "float", "int", "long", "object", "sbyte",
    "short", "string", "uint", "ulong", "ushort", "void"]
  ++ ["class", "delegate", "enum", "event", "interface", "namespace", "struct", "using"]
  ++ ["abstract", "const", "extern", "internal", "override", "private", "protected", "public",
    "readonly", "sealed", "static", "unsafe", "virtual", "volatile"]
  ++ ["in", "out", "params", "ref"]
  ++ ["break", "case", "catch", "continue", "default", "do", "else", "finally", "for", "foreach",
    "goto", "if", "lock", "return", "switch", "throw", "try", "while"]
  ++ ["checked", "fixed", "unchecked"]
  ++ ["as", "base", "false", "is", "new", "null", "sizeof", "stackalloc", "this", "true",
    "typeof"]
  ++ ["explicit", "implicit", "operator"]

/-- An identifier: a name that is no reserved word, or any name with the sign before it. -/
inductive IsIdentifier : String → Prop where
  | plain {name : String} (hname : IsName name.toList) (hfree : name ∉ reservedWords) :
    IsIdentifier name
  | signed {name : String} (hname : IsName name.toList) : IsIdentifier ("@" ++ name)

theorem IsName.isSpelled {s : List Char} (h : IsName s) : IsSpelled s := by
  obtain ⟨c, r, rfl, hc, hr⟩ := h
  refine List.forall_mem_cons.2 ⟨?_, hr⟩
  rw [isNameStart, Bool.or_eq_true] at hc
  rcases hc with hc | hc
  · refine isNameChar_of_isWordChar ?_
    rw [isWordChar_eq, hc, Bool.true_or]
  · rw [isNameChar, hc, Bool.or_true]

theorem IsName.append {s t : List Char} (hs : IsName s) (ht : IsSpelled t) : IsName (s ++ t) := by
  obtain ⟨c, r, rfl, hc, hr⟩ := hs
  exact ⟨c, r ++ t, rfl, hc, hr.append ht⟩

/-! ## Reserved words -/

theorem reservedWords_small :
    ∀ word ∈ reservedWords, (word.toList.head?.any Char.isLower) = true := by
  decide

theorem reservedWords_no_digit :
    ∀ word ∈ reservedWords, (word.toList.any Char.isDigit) = false := by
  decide +kernel

/-- All reserved words are escaped. -/
theorem reservedWords_subset : reservedWords ⊆ keywords := by
  decide +kernel

/-- A number is written with at least one digit. -/
theorem exists_digit (k : Nat) : ∃ c ∈ (toString k).toList, c.isDigit := by
  rw [Nat.toString_eq_repr, Nat.toList_repr]
  have hpos : 0 < (Nat.toDigits 10 k).length := Nat.length_toDigits_pos
  have hfirst := List.getElem_mem hpos
  exact ⟨_, hfirst, Nat.isDigit_of_mem_toDigits (by decide) (by decide) hfirst⟩

/-- A name with a number behind it has a digit in it, so it is no reserved word. -/
theorem numbered_not_reserved (name : String) (k : Nat) : numbered name k ∉ reservedWords := by
  intro hmem
  have hnone := reservedWords_no_digit _ hmem
  rw [numbered, String.toList_append, List.any_append, Bool.or_eq_false_iff] at hnone
  obtain ⟨c, hc, hdigit⟩ := exists_digit k
  exact List.any_eq_false.1 hnone.2 c hc hdigit

theorem isName_fresh {name : String} (taken : List String) (h : IsName name.toList) :
    IsName (fresh taken name).toList := by
  rcases fresh_eq taken name with he | ⟨k, -, he⟩
  · rw [he]
    exact h
  · rw [he, numbered, String.toList_append]
    exact h.append (isSpelled_toString k)

/-- A name that is no reserved word gives an identifier also when it has to be numbered. -/
theorem isIdentifier_fresh {name : String} (taken : List String) (hname : IsName name.toList)
    (hfree : name ∉ reservedWords) : IsIdentifier (fresh taken name) := by
  refine .plain (isName_fresh taken hname) ?_
  rcases fresh_eq taken name with he | ⟨k, -, he⟩
  · rw [he]
    exact hfree
  · rw [he]
    exact numbered_not_reserved name k

/-- Any name gives an identifier, with the sign if it is spelled like a reserved word. -/
theorem isIdentifier_escapeKeyword {name : String} (hname : IsName name.toList) :
    IsIdentifier (escapeKeyword name) := by
  unfold escapeKeyword
  by_cases hk : keywords.contains name
  · rw [if_pos hk]
    exact .signed hname
  · rw [if_neg hk]
    refine .plain hname fun hmem => hk ?_
    exact List.contains_iff_mem.2 (reservedWords_subset hmem)

/-! ## Capital names -/

/-- A name that begins with a capital or a line, and has a letter or digit in it. -/
structure IsCapital (s : List Char) : Prop where
  spelled : IsSpelled s
  head : ∃ c r, s = c :: r ∧ (c.isUpper ∨ c = '_')
  word : ∃ c ∈ s, isWordChar c

theorem IsCapital.append {s t : List Char} (hs : IsCapital s) (ht : IsSpelled t) :
    IsCapital (s ++ t) := by
  obtain ⟨c, r, hcr, hc⟩ := hs.head
  obtain ⟨w, hw, hword⟩ := hs.word
  exact ⟨hs.spelled.append ht, ⟨c, r ++ t, by rw [hcr, List.cons_append], hc⟩,
    ⟨w, List.mem_append_left _ hw, hword⟩⟩

/-- A capital letter makes a capital name of what is put behind it. -/
theorem isCapital_cons {c : Char} {r : List Char} (hc : c.isUpper) (hr : IsSpelled r) :
    IsCapital (c :: r) := by
  have hword : isWordChar c := by
    rw [isWordChar_eq, isAlpha_eq, hc, Bool.true_or, Bool.true_or]
  exact ⟨List.forall_mem_cons.2 ⟨isNameChar_of_isWordChar hword, hr⟩, ⟨c, r, rfl, .inl hc⟩,
    ⟨c, List.mem_cons_self, hword⟩⟩

theorem IsCapital.isName {s : List Char} (h : IsCapital s) : IsName s := by
  obtain ⟨c, r, rfl, hc⟩ := h.head
  refine ⟨c, r, rfl, ?_, fun d hd => h.spelled d (List.mem_cons_of_mem _ hd)⟩
  rcases hc with hc | rfl
  · rw [isNameStart, isAlpha_eq, hc, Bool.true_or, Bool.true_or]
  · decide

/-- A capital name is no reserved word. -/
theorem IsCapital.not_reserved {name : String} (h : IsCapital name.toList) :
    name ∉ reservedWords := by
  intro hmem
  obtain ⟨c, r, hcr, hc⟩ := h.head
  have hsmall := reservedWords_small _ hmem
  rw [hcr, List.head?_cons, Option.any_some] at hsmall
  rcases hc with hc | rfl
  · rw [isUpper_iff] at hc
    rw [isLower_iff] at hsmall
    omega
  · cases hsmall

theorem IsCapital.isIdentifier {name : String} (h : IsCapital name.toList) :
    IsIdentifier name :=
  .plain h.isName h.not_reserved

/-! ## The spelling of types -/

theorem ne_nil_of_mem_words {s w : List Char} (h : w ∈ words s) : w ≠ [] := by
  obtain ⟨run, -, hw⟩ := List.mem_flatMap.1 h
  exact ne_nil_of_mem_cut hw

/-- A word begins with a capital or a digit once it is capitalized. -/
theorem head_capitalize {w : List Char} (hw : w ≠ []) (h : ∀ c ∈ w, isWordChar c) :
    ∃ c r, capitalize w = c :: r ∧ isWordChar c ∧ ¬ c.isLower := by
  obtain ⟨a, r, rfl⟩ := List.exists_cons_of_ne_nil hw
  have ha := h a List.mem_cons_self
  unfold capitalize
  by_cases hacronym : isAcronym (a :: r)
  · -- an acronym has no small letter, so its first character is none either
    rw [if_pos hacronym]
    refine ⟨a, r, rfl, ha, ?_⟩
    simp only [isAcronym, Bool.and_eq_true, Bool.not_eq_true', List.any_cons,
      Bool.or_eq_false_iff] at hacronym
    rw [hacronym.1.2.1]
    exact Bool.false_ne_true
  · rw [if_neg hacronym]
    refine ⟨a.toUpper, r.map Char.toLower, rfl, isWordChar_toUpper ha, ?_⟩
    rw [isLower_iff, toNat_toUpper]
    split
    · rename_i hlower
      rw [isLower_iff] at hlower
      omega
    · rename_i hlower
      rwa [isLower_iff] at hlower

/-- The spelling of types gives a capital name, if there is anything to spell. -/
theorem isCapital_pascal {s : List Char} (h : words s ≠ []) : IsCapital (pascal s) := by
  obtain ⟨w, ws, hws⟩ := List.exists_cons_of_ne_nil h
  have hmem : w ∈ words s := by
    rw [hws]
    exact List.mem_cons_self
  obtain ⟨c, r, hw, hword, hsmall⟩ := head_capitalize (ne_nil_of_mem_words hmem)
    fun c hc => isWordChar_of_mem_words hmem hc
  have hspelled := isSpelled_pascal s
  unfold pascal at hspelled ⊢
  rw [hws, List.flatMap_cons, hw, List.cons_append] at hspelled ⊢
  generalize r ++ ws.flatMap capitalize = rest at hspelled ⊢
  unfold guardDigit at hspelled ⊢
  dsimp only at hspelled ⊢
  by_cases hdigit : c.isDigit
  · rw [if_pos hdigit] at hspelled ⊢
    exact ⟨hspelled, ⟨'_', c :: rest, rfl, .inr rfl⟩, ⟨c, by simp, hword⟩⟩
  · rw [if_neg hdigit] at hspelled ⊢
    refine ⟨hspelled, ⟨c, rest, rfl, .inl ?_⟩, ⟨c, List.mem_cons_self, hword⟩⟩
    rw [isWordChar_eq, isAlpha_eq, Bool.or_eq_true, Bool.or_eq_true] at hword
    exact (hword.resolve_right hdigit).resolve_right hsmall

theorem pascal_eq_nil {s : List Char} (h : words s = []) : pascal s = [] := by
  rw [pascal, h, List.flatMap_nil, guardDigit]

theorem isCapital_pascal_of_ne_nil {s : List Char} (h : pascal s ≠ []) : IsCapital (pascal s) :=
  isCapital_pascal fun hwords => h (pascal_eq_nil hwords)

theorem isCapital_pascalCase {s : String} (h : pascalCase s ≠ "") :
    IsCapital (pascalCase s).toList := by
  rw [pascalCase, String.toList_ofList]
  refine isCapital_pascal_of_ne_nil fun hnil => h ?_
  rw [pascalCase, hnil, String.ofList_nil]

theorem isCapital_schemaTypeName (name : String) :
    IsCapital (schemaTypeName name).toList := by
  unfold schemaTypeName
  by_cases ht : isTypeSpelling (Text.lastPiece '.' name.toList)
  · simp only [ht, if_true, String.toList_ofList]
    generalize Text.lastPiece '.' name.toList = s at ht
    cases s with
    | nil => cases ht
    | cons a r =>
      rw [isTypeSpelling, Bool.and_eq_true, List.all_eq_true] at ht
      exact isCapital_cons ht.1 fun c hc => isNameChar_of_isWordChar (ht.2 c hc)
  · simp only [ht, Bool.false_eq_true, if_false]
    split
    · exact isCapital_cons (by decide) (isSpelled_of_all (by decide))
    · rename_i hne
      rw [String.toList_ofList]
      exact isCapital_pascal_of_ne_nil hne

/-! ### Numbered and fresh names -/

theorem isCapital_fresh {name : String} (taken : List String) (h : IsCapital name.toList) :
    IsCapital (fresh taken name).toList := by
  rcases fresh_eq taken name with he | ⟨k, -, he⟩
  · rw [he]
    exact h
  · rw [he, numbered, String.toList_append]
    exact h.append (isSpelled_toString k)

theorem isCapital_freshAll {names : List String} (taken : List String)
    (h : ∀ n ∈ names, IsCapital n.toList) :
    ∀ n ∈ (freshAll taken names).1, IsCapital n.toList := by
  intro n hn
  obtain ⟨wanted, hwanted, taken', rfl⟩ := exists_fresh_of_mem_freshAll hn
  exact isCapital_fresh taken' (h wanted hwanted)

/-! ## The spelling of parameters -/

theorem isNameStart_toLower {c : Char} (h : c.isUpper ∨ c = '_') : isNameStart c.toLower := by
  rcases h with h | rfl
  · have hlower : c.toLower.isLower := by
      rw [isLower_iff, toNat_toLower, if_pos h]
      rw [isUpper_iff] at h
      omega
    rw [isNameStart, isAlpha_eq, hlower, Bool.or_true, Bool.true_or]
  · decide

theorem isNameChar_toLower {c : Char} (h : isNameChar c) : isNameChar c.toLower := by
  rw [isNameChar, Bool.or_eq_true] at h
  rcases h with h | h
  · exact isNameChar_of_isWordChar (isWordChar_toLower h)
  · rw [of_decide_eq_true h]
    decide

/-- A capital name is still a name when its first characters are made small. -/
theorem IsCapital.lowered {s : List Char} (h : IsCapital s) {n : Nat} (hn : 0 < n) :
    IsName ((s.take n).map Char.toLower ++ s.drop n) := by
  obtain ⟨c, r, rfl, hc⟩ := h.head
  obtain ⟨k, rfl⟩ := Nat.exists_eq_add_of_lt hn
  refine ⟨c.toLower, (r.take k).map Char.toLower ++ r.drop k, by simp, isNameStart_toLower hc, ?_⟩
  intro d hd
  rcases List.mem_append.1 hd with hd | hd
  · obtain ⟨b, hb, rfl⟩ := List.mem_map.1 hd
    exact isNameChar_toLower (h.spelled b (List.mem_cons_of_mem _ (List.mem_of_mem_take hb)))
  · exact h.spelled d (List.mem_cons_of_mem _ (List.mem_of_mem_drop hd))

/-- The spelling of parameters gives a name, if there is anything to spell. -/
theorem isName_camel {s : List Char} (h : camel s ≠ []) : IsName (camel s) := by
  have hcapital : pascal s ≠ [] → IsCapital (pascal s) := isCapital_pascal_of_ne_nil
  unfold camel at h ⊢
  generalize pascal s = p at h hcapital ⊢
  split
  · exact absurd rfl h
  · exact (hcapital (List.cons_ne_nil _ _)).isName
  · have hcapital := hcapital (List.cons_ne_nil _ _)
    dsimp only
    split
    · rename_i hlength
      exact hcapital.lowered (Nat.zero_lt_of_lt hlength)
    · exact hcapital.lowered Nat.one_pos

end OpenApiClient.Naming
