/-
How generated names are spelled.

A name that is made from a text of the document, whatever this text is, has ASCII letters,
digits and lines in it and nothing else.  In particular it has no point, so that it cannot be
taken for a qualified name of the system.
-/
import OpenApiClient.Proofs.FreshNames
import Mathlib.Tactic.Tauto

set_option autoImplicit false

namespace OpenApiClient.Naming

/-! ## Characters of names -/

/-- Whether a character can stand in a generated name. -/
def isNameChar (c : Char) : Bool := isWordChar c || c = '_'

/-- A text of characters that can stand in a generated name. -/
def IsSpelled (s : List Char) : Prop := ∀ c ∈ s, isNameChar c

theorem isSpelled_of_all {s : List Char} (h : s.all isNameChar = true) : IsSpelled s :=
  List.all_eq_true.1 h

theorem isNameChar_of_isWordChar {c : Char} (h : isWordChar c) : isNameChar c := by
  rw [isNameChar, h, Bool.true_or]

/-- A point stands in no generated name. -/
theorem IsSpelled.point_not_mem {s : List Char} (h : IsSpelled s) : '.' ∉ s := by
  intro hmem
  have hpoint := h '.' hmem
  revert hpoint
  decide

theorem IsSpelled.append {s t : List Char} (hs : IsSpelled s) (ht : IsSpelled t) :
    IsSpelled (s ++ t) := by
  intro c hc
  rcases List.mem_append.1 hc with hc | hc
  · exact hs c hc
  · exact ht c hc

/-! ## Words -/

/-- A word holds letters and digits only. -/
theorem isWordChar_of_mem_words {s w : List Char} {c : Char} (hw : w ∈ words s) (hc : c ∈ w) :
    isWordChar c := by
  have hmem : c ∈ (words s).flatten := List.mem_flatten.2 ⟨w, hw, hc⟩
  rw [flatten_words] at hmem
  exact (List.mem_filter.1 hmem).2

/-- A text with a letter or a digit has a word. -/
theorem words_ne_nil {s : List Char} (h : ∃ c ∈ s, isWordChar c) : words s ≠ [] := by
  obtain ⟨c, hc, hword⟩ := h
  intro hnil
  have hnone := flatten_words s
  rw [hnil, List.flatten_nil, eq_comm, List.filter_eq_nil_iff] at hnone
  exact hnone c hc hword

/-! ## Capitals and small letters -/

theorem isAlpha_eq (c : Char) : c.isAlpha = (c.isUpper || c.isLower) := rfl

theorem isWordChar_eq (c : Char) : isWordChar c = (c.isAlpha || c.isDigit) := rfl

theorem isUpper_iff_val {c : Char} : c.isUpper ↔ c.val ≥ 'A'.val ∧ c.val ≤ 'Z'.val :=
  decide_eq_true_iff

theorem isLower_iff_val {c : Char} : c.isLower ↔ c.val ≥ 'a'.val ∧ c.val ≤ 'z'.val := by
  show (decide (c.val ≥ 'a'.val) && decide (c.val ≤ 'z'.val)) = true ↔ _
  rw [Bool.and_eq_true, decide_eq_true_eq, decide_eq_true_eq]

theorem isUpper_iff {c : Char} : c.isUpper ↔ 65 ≤ c.toNat ∧ c.toNat ≤ 90 := by
  rw [isUpper_iff_val, ge_iff_le, UInt32.le_iff_toNat_le, UInt32.le_iff_toNat_le]
  rfl

theorem isLower_iff {c : Char} : c.isLower ↔ 97 ≤ c.toNat ∧ c.toNat ≤ 122 := by
  rw [isLower_iff_val, ge_iff_le, UInt32.le_iff_toNat_le, UInt32.le_iff_toNat_le]
  rfl

theorem isWordChar_iff {c : Char} :
    isWordChar c ↔ (65 ≤ c.toNat ∧ c.toNat ≤ 90) ∨ (97 ≤ c.toNat ∧ c.toNat ≤ 122)
      ∨ (48 ≤ c.toNat ∧ c.toNat ≤ 57) := by
  rw [isWordChar_eq, isAlpha_eq, Bool.or_eq_true, Bool.or_eq_true, isUpper_iff, isLower_iff,
    Char.isDigit_iff_toNat, or_assoc]
  rfl

/-- A small letter stands 32 places behind its capital. -/
theorem toNat_toUpper (c : Char) :
    c.toUpper.toNat = if c.isLower then c.toNat - 32 else c.toNat := by
  unfold Char.toUpper
  split
  · rename_i hlower
    rw [if_pos (isLower_iff_val.2 hlower)]
    rw [UInt32.le_iff_toNat_le, UInt32.le_iff_toNat_le] at hlower
    have ha : 'a'.val.toNat = 97 := rfl
    have hz : 'z'.val.toNat = 122 := rfl
    have hstep : ('A'.val - 'a'.val).toNat = 4294967264 := by decide
    rw [Char.toNat, UInt32.toNat_add, hstep]
    change (c.val.toNat + 4294967264) % 4294967296 = c.val.toNat - 32
    omega
  · rename_i hlower
    rw [if_neg (isLower_iff_val.not.2 hlower)]

/-- A capital stands 32 places before its small letter. -/
theorem toNat_toLower (c : Char) :
    c.toLower.toNat = if c.isUpper then c.toNat + 32 else c.toNat := by
  unfold Char.toLower
  split
  · rename_i hupper
    rw [if_pos (isUpper_iff_val.2 hupper)]
    rw [ge_iff_le, UInt32.le_iff_toNat_le, UInt32.le_iff_toNat_le] at hupper
    have hZ : 'Z'.val.toNat = 90 := rfl
    have hstep : ('a'.val - 'A'.val).toNat = 32 := by decide
    rw [Char.toNat, UInt32.toNat_add, hstep]
    change (c.val.toNat + 32) % 4294967296 = c.val.toNat + 32
    omega
  · rename_i hupper
    rw [if_neg (isUpper_iff_val.not.2 hupper)]

theorem isWordChar_toUpper {c : Char} (h : isWordChar c) : isWordChar c.toUpper := by
  rw [isWordChar_iff] at h ⊢
  rw [toNat_toUpper]
  split
  · rename_i hlower
    rw [isLower_iff] at hlower
    omega
  · exact h

theorem isWordChar_toLower {c : Char} (h : isWordChar c) : isWordChar c.toLower := by
  rw [isWordChar_iff] at h ⊢
  rw [toNat_toLower]
  split
  · rename_i hupper
    rw [isUpper_iff] at hupper
    omega
  · exact h

theorem toUpper_of_not_isLower {c : Char} (h : ¬ c.isLower) : c.toUpper = c := by
  refine Char.toNat_inj.1 ?_
  rw [toNat_toUpper, if_neg h]

theorem toLower_of_not_isUpper {c : Char} (h : ¬ c.isUpper) : c.toLower = c := by
  refine Char.toNat_inj.1 ?_
  rw [toNat_toLower, if_neg h]

theorem not_isLower_of_isUpper {c : Char} (h : c.isUpper) : ¬ c.isLower := by
  rw [isUpper_iff] at h
  rw [isLower_iff]
  omega

theorem not_isUpper_of_small {c : Char} (h : c.isLower ∨ c.isDigit) : ¬ c.isUpper := by
  rw [isLower_iff, Char.isDigit_iff_toNat] at h
  rw [isUpper_iff]
  have hnine : '9'.toNat = 57 := rfl
  omega

theorem isWordChar_of_isUpper {c : Char} (h : c.isUpper) : isWordChar c := by
  rw [isWordChar_eq, isAlpha_eq, h, Bool.true_or, Bool.true_or]

theorem isWordChar_of_small {c : Char} (h : c.isLower ∨ c.isDigit) : isWordChar c := by
  rw [isWordChar_eq, isAlpha_eq, Bool.or_eq_true, Bool.or_eq_true]
  exact h.imp_left .inr

theorem not_isLower_of_isDigit {d : Char} (hd : d.isDigit) : ¬ d.isLower := by
  rw [Char.isDigit_iff_toNat] at hd
  rw [isLower_iff]
  have hnine : '9'.toNat = 57 := rfl
  omega

theorem not_isUpper_toLower (c : Char) : ¬ c.toLower.isUpper := by
  rw [isUpper_iff, toNat_toLower]
  split
  · rename_i h
    rw [isUpper_iff] at h
    omega
  · rename_i h
    rwa [isUpper_iff] at h

/-! ## Names made from words -/

theorem isWordChar_of_mem_capitalize {w : List Char} (h : ∀ c ∈ w, isWordChar c) :
    ∀ c ∈ capitalize w, isWordChar c := by
  unfold capitalize
  by_cases ha : isAcronym w
  · rw [if_pos ha]
    exact h
  · rw [if_neg ha]
    cases w with
    | nil => simp
    | cons a r =>
      obtain ⟨hfirst, hrest⟩ := List.forall_mem_cons.1 h
      refine List.forall_mem_cons.2 ⟨isWordChar_toUpper hfirst, ?_⟩
      intro c hc
      obtain ⟨b, hb, rfl⟩ := List.mem_map.1 hc
      exact isWordChar_toLower (hrest b hb)

theorem isSpelled_guardDigit {s : List Char} (h : IsSpelled s) : IsSpelled (guardDigit s) := by
  unfold guardDigit
  cases s with
  | nil => exact h
  | cons a r =>
    by_cases hd : a.isDigit
    · simp only [hd, if_true]
      exact List.forall_mem_cons.2 ⟨by decide, h⟩
    · simp only [hd, Bool.false_eq_true, if_false]
      exact h

/-- The capitalized words of a text hold letters and digits only. -/
theorem isWordChar_of_mem_spelled {s : List Char} {c : Char}
    (h : c ∈ (words s).flatMap capitalize) : isWordChar c := by
  obtain ⟨w, hw, hc⟩ := List.mem_flatMap.1 h
  exact isWordChar_of_mem_capitalize (fun b hb => isWordChar_of_mem_words hw hb) c hc

theorem line_not_mem_words (s : List Char) : '_' ∉ (words s).flatMap capitalize := by
  intro hmem
  have hword := isWordChar_of_mem_spelled hmem
  revert hword
  decide

/-- The spelling of types and methods has name characters only, whatever the text is. -/
theorem isSpelled_pascal (s : List Char) : IsSpelled (pascal s) :=
  isSpelled_guardDigit fun _ hc => isNameChar_of_isWordChar (isWordChar_of_mem_spelled hc)

theorem isSpelled_pascalCase (s : String) : IsSpelled (pascalCase s).toList := by
  rw [pascalCase, String.toList_ofList]
  exact isSpelled_pascal _

theorem isSpelled_schemaTypeName (name : String) : IsSpelled (schemaTypeName name).toList := by
  unfold schemaTypeName
  by_cases ht : isTypeSpelling (Text.lastPiece '.' name.toList)
  · simp only [ht, if_true, String.toList_ofList]
    generalize Text.lastPiece '.' name.toList = s at ht
    cases s with
    | nil => cases ht
    | cons a r =>
      rw [isTypeSpelling, Bool.and_eq_true, List.all_eq_true] at ht
      refine List.forall_mem_cons.2 ⟨isNameChar_of_isWordChar ?_, ?_⟩
      · have hupper := ht.1
        rw [isWordChar_eq, isAlpha_eq, hupper, Bool.true_or, Bool.true_or]
      · intro c hc
        exact isNameChar_of_isWordChar (ht.2 c hc)
  · simp only [ht, Bool.false_eq_true, if_false]
    have hs := isSpelled_pascal (Text.lastPiece '.' name.toList)
    split
    · exact isSpelled_of_all (by decide)
    · rw [String.toList_ofList]
      exact hs

/-! ## Numbered and fresh names -/

theorem isSpelled_toString (k : Nat) : IsSpelled (toString k).toList := by
  rw [Nat.toString_eq_repr, Nat.toList_repr]
  intro c hc
  have hd := Nat.isDigit_of_mem_toDigits (by decide) (by decide) hc
  refine isNameChar_of_isWordChar ?_
  rw [isWordChar_eq, hd, Bool.or_true]

theorem isSpelled_numbered {name : String} (k : Nat) (h : IsSpelled name.toList) :
    IsSpelled (numbered name k).toList := by
  rw [numbered, String.toList_append]
  exact h.append (isSpelled_toString k)

theorem isSpelled_fresh {name : String} (taken : List String) (h : IsSpelled name.toList) :
    IsSpelled (fresh taken name).toList := by
  rcases fresh_eq taken name with he | ⟨k, -, he⟩
  · rw [he]
    exact h
  · rw [he]
    exact isSpelled_numbered k h

theorem isSpelled_freshAll {names : List String} (taken : List String)
    (h : ∀ n ∈ names, IsSpelled n.toList) :
    ∀ n ∈ (freshAll taken names).1, IsSpelled n.toList := by
  intro n hn
  obtain ⟨wanted, hwanted, taken', rfl⟩ := exists_fresh_of_mem_freshAll hn
  exact isSpelled_fresh taken' (h wanted hwanted)

end OpenApiClient.Naming
