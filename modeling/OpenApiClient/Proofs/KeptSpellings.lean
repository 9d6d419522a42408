/-
Names that stay as they are when they are spelled again.

A name that is spelled as a type is spelled once more when something is named after it, and when it
comes back in the settings.  One would expect that nothing happens to it then.  But the second
spelling starts from the words that are found in the name, and these need not be the words it was
made from: two short words of capitals that have met are one long word now, and a line that was put
before a digit is in no word at all.

Exactly two things can change a name that is spelled as a type (`pascal_eq_self_iff`): a line behind
its first character, and a word with several capitals that is no acronym.  The thing to check is
that nothing is lost in any other word.  A word ends before a capital that follows something else,
so its capitals stand at its beginning (`capitalsFirst_of_mem_cut`), and one that has at most one
capital is a capital with small letters behind it already.
-/
import OpenApiClient.Proofs.InterfaceNames

set_option autoImplicit false

namespace OpenApiClient.Naming

/-! ## Texts without separators -/

theorem runs_of_wordChars {s : List Char} (hne : s ≠ []) (h : ∀ c ∈ s, isWordChar c) :
    runs s = [s] := by
  induction s with
  | nil => exact absurd rfl hne
  | cons c r ih =>
    obtain ⟨hc, hr⟩ := List.forall_mem_cons.1 h
    rw [runs.eq_def]
    dsimp only
    rw [if_pos hc]
    cases r with
    | nil => rfl
    | cons d r =>
      dsimp only
      rw [if_pos (hr d List.mem_cons_self), ih (List.cons_ne_nil _ _) hr]

/-- A text of letters and digits is cut at its seams only. -/
theorem words_of_wordChars {s : List Char} (h : ∀ c ∈ s, isWordChar c) : words s = cut s := by
  cases s with
  | nil => rfl
  | cons c r =>
    rw [words, runs_of_wordChars (List.cons_ne_nil _ _) h, List.flatMap_singleton]

/-! ## The capitals of a word -/

/-- No capital stands behind another character. -/
def CapitalsFirst (w : List Char) : Prop := w.IsChain fun a b => b.isUpper → a.isUpper

theorem CapitalsFirst.not_isUpper {c : Char} {w : List Char} (h : CapitalsFirst (c :: w))
    (hc : ¬ c.isUpper) : ∀ a ∈ w, ¬ a.isUpper := by
  induction w generalizing c with
  | nil => exact fun a ha => absurd ha List.not_mem_nil
  | cons b w ih =>
    obtain ⟨hb, hw⟩ := List.isChain_cons_cons.1 h
    exact List.forall_mem_cons.2 ⟨fun hupper => hc (hb hupper), ih hw fun hupper => hc (hb hupper)⟩

/-- Where no word ends, a capital follows a capital only. -/
theorem isUpper_of_not_isSeam {a b : Char} {r : List Char} (ha : isWordChar a)
    (h : ¬ isSeam a (b :: r)) (hb : b.isUpper) : a.isUpper := by
  rw [isWordChar_eq, isAlpha_eq, Bool.or_eq_true, Bool.or_eq_true] at ha
  rw [isSeam, hb, Bool.true_and, Bool.or_eq_true, Bool.or_eq_true, not_or, not_or] at h
  tauto

theorem capitalsFirst_of_mem_cut {s : List Char} (h : ∀ c ∈ s, isWordChar c) :
    ∀ w ∈ cut s, CapitalsFirst w := by
  induction s with
  | nil => exact fun w hw => absurd hw List.not_mem_nil
  | cons a r ih =>
    obtain ⟨ha, hr⟩ := List.forall_mem_cons.1 h
    have hrest := ih hr
    rw [cut]
    split
    · exact List.forall_mem_singleton.2 (List.IsChain.singleton a)
    · rename_i w ws hcut
      rw [hcut] at hrest
      split
      · exact List.forall_mem_cons.2 ⟨List.IsChain.singleton a, hrest⟩
      · rename_i hseam
        obtain ⟨hw, hws⟩ := List.forall_mem_cons.1 hrest
        refine List.forall_mem_cons.2 ⟨?_, hws⟩
        cases w with
        | nil => exact List.IsChain.singleton a
        | cons b w => exact List.isChain_cons_cons.2 ⟨isUpper_of_not_isSeam ha hseam, hw⟩

/-- Every piece but the first one begins with a capital. -/
theorem isUpper_head_of_mem_tail_cut {s : List Char} :
    ∀ w ∈ (cut s).tail, ∀ c ∈ w.head?, c.isUpper := by
  induction s with
  | nil => exact fun w hw => absurd hw List.not_mem_nil
  | cons a r ih =>
    rw [cut]
    split
    · exact fun w hw => absurd hw List.not_mem_nil
    · rename_i w ws hcut
      rw [hcut] at ih
      split
      · rename_i hseam
        refine List.forall_mem_cons.2 ⟨?_, ih⟩
        cases w with
        | nil => exact fun c hc => absurd hc (Option.not_mem_none c)
        | cons b w =>
          rw [isSeam, Bool.and_eq_true] at hseam
          rintro _ ⟨⟩
          exact hseam.1
      · exact ih

/-! ## Words that keep their spelling -/

theorem length_capitalize (w : List Char) : (capitalize w).length = w.length := by
  unfold capitalize
  split
  · rfl
  · cases w with
    | nil => rfl
    | cons c r => rw [List.length_cons, List.length_cons, List.length_map]

theorem length_flatMap_capitalize (ws : List (List Char)) :
    (ws.flatMap capitalize).length = ws.flatten.length := by
  induction ws with
  | nil => rfl
  | cons w ws ih =>
    rw [List.flatMap_cons, List.flatten_cons, List.length_append, List.length_append, ih,
      length_capitalize]

theorem toLower_eq_self_iff {c : Char} : c.toLower = c ↔ ¬ c.isUpper := by
  refine ⟨fun h hupper => ?_, toLower_of_not_isUpper⟩
  have hnat := congrArg Char.toNat h
  rw [toNat_toLower, if_pos hupper] at hnat
  omega

theorem map_toLower_eq_self_iff {r : List Char} :
    r.map Char.toLower = r ↔ ∀ c ∈ r, ¬ c.isUpper := by
  induction r with
  | nil => exact iff_of_true rfl fun c hc => absurd hc List.not_mem_nil
  | cons c r ih =>
    rw [List.map_cons, List.cons_eq_cons, toLower_eq_self_iff, ih, List.forall_mem_cons]

/-- A word that begins with no small letter stays if it is an acronym or has one capital at
most. -/
theorem capitalize_eq_self_iff {c : Char} {r : List Char} (h : CapitalsFirst (c :: r))
    (hc : ¬ c.isLower) :
    capitalize (c :: r) = c :: r ↔ (1 < (c :: r).countP Char.isUpper → isAcronym (c :: r)) := by
  unfold capitalize
  by_cases ha : isAcronym (c :: r)
  · rw [if_pos ha]
    exact iff_of_true rfl fun _ => ha
  · rw [if_neg ha]
    dsimp only
    rw [toUpper_of_not_isLower hc, List.cons_eq_cons, map_toLower_eq_self_iff]
    have hcount : (∀ a ∈ r, ¬ a.isUpper) ↔ ¬ 1 < (c :: r).countP Char.isUpper := by
      by_cases hupper : c.isUpper
      · rw [List.countP_cons_of_pos hupper, ← List.countP_eq_zero]
        omega
      · have hnone := h.not_isUpper hupper
        rw [List.countP_cons_of_neg hupper, List.countP_eq_zero.2 hnone]
        exact iff_of_true hnone (by omega)
    rw [hcount]
    tauto

theorem flatMap_eq_flatten_iff {f : List Char → List Char} (hf : ∀ w, (f w).length = w.length)
    {ws : List (List Char)} : ws.flatMap f = ws.flatten ↔ ∀ w ∈ ws, f w = w := by
  induction ws with
  | nil => exact iff_of_true rfl fun w hw => absurd hw List.not_mem_nil
  | cons w ws ih =>
    rw [List.flatMap_cons, List.flatten_cons, List.forall_mem_cons, ← ih]
    constructor
    · exact fun h => List.append_inj h (hf w)
    · rintro ⟨hw, hws⟩
      rw [hw, hws]

/-- The capitals of a word are those of an acronym, or there is one at most. -/
def isPlainWord (w : List Char) : Bool := w.countP Char.isUpper ≤ 1 || isAcronym w

theorem isPlainWord_iff {w : List Char} :
    isPlainWord w ↔ (1 < w.countP Char.isUpper → isAcronym w) := by
  rw [isPlainWord, Bool.or_eq_true, decide_eq_true_eq]
  constructor
  · exact fun h hmany => h.resolve_left (Nat.not_le.2 hmany)
  · exact fun h => (Nat.lt_or_ge 1 (w.countP Char.isUpper)).elim (fun hmany => .inr (h hmany)) .inl

theorem flatMap_capitalize_cut_iff {c : Char} {r : List Char} (hc : ¬ c.isLower)
    (h : ∀ a ∈ c :: r, isWordChar a) :
    (cut (c :: r)).flatMap capitalize = c :: r ↔ ∀ w ∈ cut (c :: r), isPlainWord w := by
  have hflat : (cut (c :: r)).flatMap capitalize = c :: r
      ↔ ∀ w ∈ cut (c :: r), capitalize w = w := by
    rw [← flatMap_eq_flatten_iff length_capitalize, flatten_cut]
  have hfirst := capitalsFirst_of_mem_cut h
  have htail := isUpper_head_of_mem_tail_cut (s := c :: r)
  rw [hflat]
  obtain ⟨w, ws, hcut⟩ := cut_cons c r
  rw [hcut] at hfirst htail ⊢
  refine forall₂_congr fun v hv => ?_
  rw [isPlainWord_iff]
  rcases List.mem_cons.1 hv with rfl | hmem
  · exact capitalize_eq_self_iff (hfirst _ hv) hc
  · -- a piece behind a seam begins with a capital, so with no small letter
    have hne : v ≠ [] := ne_nil_of_mem_cut (s := c :: r) (by rw [hcut]; exact hv)
    obtain ⟨b, v, rfl⟩ := List.exists_cons_of_ne_nil hne
    exact capitalize_eq_self_iff (hfirst _ hv) (not_isLower_of_isUpper (htail _ hmem b rfl))

/-! ## Names that keep their spelling -/

/-- A name spells itself: no line stands behind its first character, and each of its words is an
acronym or has one capital at most. -/
def SpellsItself (s : List Char) : Prop := '_' ∉ s.tail ∧ ∀ w ∈ words s, isPlainWord w

instance (s : List Char) : Decidable (SpellsItself s) :=
  inferInstanceAs (Decidable ('_' ∉ s.tail ∧ ∀ w ∈ words s, isPlainWord w))

/-- A name with a start begins with a capital, or with a digit that is guarded by a line. -/
theorem HasStart.head {s : List Char} (h : HasStart s) :
    (∃ c r, s = c :: r ∧ c.isUpper) ∨ ∃ d r, s = '_' :: d :: r ∧ d.isDigit := by
  obtain ⟨p, hp, t, rfl⟩ := h
  cases hp with
  | capital hc => exact .inl ⟨_, _, rfl, hc⟩
  | pair hc _ => exact .inl ⟨_, _, rfl, hc⟩
  | guarded hd => exact .inr ⟨_, _, rfl, hd⟩

theorem IsSpelled.isWordChar {s : List Char} (h : IsSpelled s) (hline : '_' ∉ s) :
    ∀ c ∈ s, isWordChar c := by
  intro c hc
  have hname := h c hc
  rw [isNameChar, Bool.or_eq_true, decide_eq_true_eq] at hname
  exact hname.resolve_right fun heq => hline (heq ▸ hc)

/-- Where no other line stands in such a name, all that follows the guard are letters and digits. -/
theorem HasStart.chars {s : List Char} (h : HasStart s) (hs : IsSpelled s) (hline : '_' ∉ s.tail) :
    (∃ c r, s = c :: r ∧ c.isUpper ∧ ∀ a ∈ c :: r, Naming.isWordChar a)
      ∨ ∃ d r, s = '_' :: d :: r ∧ d.isDigit ∧ ∀ a ∈ d :: r, Naming.isWordChar a := by
  have htail : ∀ {c r}, s = c :: r → ∀ a ∈ r, Naming.isWordChar a := by
    rintro c r rfl
    exact IsSpelled.isWordChar (List.forall_mem_cons.1 hs).2 hline
  rcases h.head with ⟨c, r, heq, hc⟩ | ⟨d, r, heq, hd⟩
  · exact .inl ⟨c, r, heq, hc, List.forall_mem_cons.2 ⟨isWordChar_of_isUpper hc, htail heq⟩⟩
  · exact .inr ⟨d, r, heq, hd, htail heq⟩

/-- A name with a capital at its start is its words, spelled one by one. -/
theorem pascal_of_isUpper {c : Char} (hc : c.isUpper) (r : List Char) :
    pascal (c :: r) = (words (c :: r)).flatMap capitalize := by
  obtain ⟨w, ws, hwords⟩ := words_cons (isWordChar_of_isUpper hc) r
  obtain ⟨w', hw'⟩ := capitalize_cons (not_isLower_of_isUpper hc) w
  rw [pascal, hwords, List.flatMap_cons, hw', List.cons_append, guardDigit_of_isUpper hc]

/-- A name with a guarded digit at its start gets the line back. -/
theorem pascal_of_isDigit {d : Char} (hd : d.isDigit) (r : List Char) :
    pascal ('_' :: d :: r) = '_' :: (words (d :: r)).flatMap capitalize := by
  obtain ⟨w, ws, hwords⟩ := words_cons (isWordChar_of_small (.inr hd)) r
  obtain ⟨w', hw'⟩ := capitalize_cons (not_isLower_of_isDigit hd) w
  rw [pascal, words_line, hwords, List.flatMap_cons, hw', List.cons_append]
  exact if_pos hd

/-- The only line of a spelled name is the one before its first digit. -/
theorem line_not_mem_tail_pascal (s : List Char) : '_' ∉ (pascal s).tail := by
  unfold pascal guardDigit
  split
  · exact List.not_mem_nil
  · split
    · exact line_not_mem_words s
    · exact fun hmem => line_not_mem_words s (List.mem_of_mem_tail hmem)

theorem length_pascal {s : List Char} (hstart : HasStart s) (hs : IsSpelled s)
    (hline : '_' ∉ s.tail) : (pascal s).length = s.length := by
  rcases hstart.chars hs hline with ⟨c, r, rfl, hc, hchars⟩ | ⟨d, r, rfl, hd, hchars⟩
  · rw [pascal_of_isUpper hc, length_flatMap_capitalize, words_of_wordChars hchars, flatten_cut]
  · rw [pascal_of_isDigit hd, List.length_cons, length_flatMap_capitalize,
      words_of_wordChars hchars, flatten_cut, List.length_cons (a := '_')]

/-- A name with a start is spelled as it stands exactly if it spells itself. -/
theorem pascal_eq_self_iff {s : List Char} (hstart : HasStart s) (hs : IsSpelled s) :
    pascal s = s ↔ SpellsItself s := by
  have hline : pascal s = s → '_' ∉ s.tail := by
    intro h
    rw [← h]
    exact line_not_mem_tail_pascal s
  suffices h : '_' ∉ s.tail → (pascal s = s ↔ ∀ w ∈ words s, isPlainWord w) by
    unfold SpellsItself
    tauto
  intro htail
  rcases hstart.chars hs htail with ⟨c, r, rfl, hc, hchars⟩ | ⟨d, r, rfl, hd, hchars⟩
  · rw [pascal_of_isUpper hc, words_of_wordChars hchars]
    exact flatMap_capitalize_cut_iff (not_isLower_of_isUpper hc) hchars
  · rw [pascal_of_isDigit hd, words_line, words_of_wordChars hchars, List.cons_eq_cons,
      flatMap_capitalize_cut_iff (not_isLower_of_isDigit hd) hchars]
    exact and_iff_right rfl

theorem pascalCase_eq_self_iff {s : String} (hstart : HasStart s.toList)
    (hs : IsSpelled s.toList) : pascalCase s = s ↔ SpellsItself s.toList := by
  rw [← pascal_eq_self_iff hstart hs, ← String.toList_inj, pascalCase, String.toList_ofList]

/-! ### With something behind -/

/-- If what stands behind a spelled name makes it begin with the name it was spelled from, then
nothing has changed in it. -/
theorem pascal_eq_self_of_append {s u v : List Char} (hstart : HasStart s) (hs : IsSpelled s)
    (hu : '_' ∉ u) (h : pascal s ++ u = s ++ v) : pascal s = s := by
  have hne : pascal s ≠ [] := by
    obtain ⟨p, hp, hprefix⟩ := hstart
    intro hnil
    have hkept := hp.pascal hprefix
    rw [hnil, List.prefix_nil] at hkept
    rw [hkept] at hp
    cases hp
  have hline : '_' ∉ s.tail := by
    intro hmem
    have hall : '_' ∈ (pascal s ++ u).tail := by
      rw [h]
      cases s with
      | nil => exact absurd hmem List.not_mem_nil
      | cons c r => exact List.mem_append_left v hmem
    rw [List.tail_append_of_ne_nil hne, List.mem_append] at hall
    exact hall.elim (line_not_mem_tail_pascal s) hu
  exact (List.append_inj h (length_pascal hstart hs hline)).1

theorem line_not_mem_toString (k : Nat) : '_' ∉ (toString k).toList := by
  rw [Nat.toString_eq_repr, Nat.toList_repr]
  intro hmem
  have hdigit := Nat.isDigit_of_mem_toDigits (by decide) (by decide) hmem
  revert hdigit
  decide

/-- A free name for a spelled one is the name it was spelled from, with or without a number, exactly
if this spells itself. -/
theorem fresh_pascalCase_iff {s : String} (taken : List String) (hstart : HasStart s.toList)
    (hs : IsSpelled s.toList) :
    (fresh taken (pascalCase s) = s ∨ ∃ n, fresh taken (pascalCase s) = numbered s n)
      ↔ SpellsItself s.toList := by
  rw [← pascalCase_eq_self_iff hstart hs]
  constructor
  · intro h
    -- the free name is the spelled one with nothing or a number behind it, and begins with `s`
    obtain ⟨u, hu, hfresh⟩ : ∃ u, '_' ∉ u
        ∧ (fresh taken (pascalCase s)).toList = (pascalCase s).toList ++ u := by
      rcases fresh_eq taken (pascalCase s) with he | ⟨k, -, he⟩
      · exact ⟨[], List.not_mem_nil, by rw [he, List.append_nil]⟩
      · exact ⟨_, line_not_mem_toString k, by rw [he, numbered, String.toList_append]⟩
    obtain ⟨v, hv⟩ : ∃ v, (fresh taken (pascalCase s)).toList = s.toList ++ v := by
      rcases h with he | ⟨n, he⟩
      · exact ⟨[], by rw [he, List.append_nil]⟩
      · exact ⟨_, by rw [he, numbered, String.toList_append]⟩
    rw [hfresh, pascalCase, String.toList_ofList] at hv
    rw [pascalCase, pascal_eq_self_of_append hstart hs hu hv, String.ofList_toList]
  · intro h
    rw [h]
    rcases fresh_eq taken s with he | ⟨k, -, he⟩
    · exact .inl he
    · exact .inr ⟨k, he⟩

end OpenApiClient.Naming
