/-
The letter of interfaces, when a name comes back.

A name in the settings gets the letter of interfaces, unless it stands there already.  One would
expect that the name of an interface can be put into the settings and stays what it is.  But it is
spelled as a type before the letter is looked for, and this may take away the capital behind the
letter, by which the letter is known: `IHTTPClient` is one long word of capitals and a word, and
comes out as `Ihttp` and `Client`.  Then the letter is put before it a second time.

So two things are told apart here.  The name comes back as it is exactly if it spells itself, and
the letter is doubled exactly if its first word is no plain one or a line stands behind it
(`givenInterfaceName_again`).  The thing to check is the second character of the name that is
spelled again (`IsLettered.pascal`), since nothing else of it is looked at.
-/
import OpenApiClient.Proofs.KeptSpellings

set_option autoImplicit false

namespace OpenApiClient

namespace Naming

/-! ## Names with the letter -/

/-- The letter of interfaces before a capital, or before a digit that is guarded by a line. -/
inductive IsLettered : List Char → Prop where
  | capital {c : Char} {r : List Char} (hc : c.isUpper) (hr : ∀ a ∈ r, isWordChar a) :
    IsLettered ('I' :: c :: r)
  | guarded {d : Char} {r : List Char} (hd : d.isDigit) (hr : ∀ a ∈ r, isWordChar a) :
    IsLettered ('I' :: '_' :: d :: r)

theorem IsLettered.cons {s : List Char} (hstart : HasStart s) (hs : IsSpelled s)
    (hline : '_' ∉ s.tail) : IsLettered ('I' :: s) := by
  rcases hstart.chars hs hline with ⟨c, r, rfl, hc, hchars⟩ | ⟨d, r, rfl, hd, hchars⟩
  · exact .capital hc (List.forall_mem_cons.1 hchars).2
  · exact .guarded hd (List.forall_mem_cons.1 hchars).2

theorem IsLettered.spelled {c : Char} {r : List Char} (hc : c.isUpper)
    (hs : IsSpelled ('I' :: c :: r)) (hline : '_' ∉ ('I' :: c :: r).tail) :
    IsLettered ('I' :: c :: r) := by
  obtain ⟨-, hr⟩ := List.forall_mem_cons.1 (List.forall_mem_cons.1 hs).2
  exact .capital hc (IsSpelled.isWordChar hr fun hmem => hline (List.mem_cons_of_mem c hmem))

theorem IsLettered.hasStart {s : List Char} (h : IsLettered s) : HasStart s := by
  cases h with
  | capital _ _ => exact ⟨['I'], .capital (by decide), _, rfl⟩
  | guarded _ _ => exact ⟨['I'], .capital (by decide), _, rfl⟩

theorem IsLettered.isSpelled {s : List Char} (h : IsLettered s) : IsSpelled s := by
  have hletter : isNameChar 'I' := by decide
  cases h with
  | capital hc hr =>
    exact List.forall_mem_cons.2 ⟨hletter, List.forall_mem_cons.2
      ⟨isNameChar_of_isWordChar (isWordChar_of_isUpper hc), fun a ha =>
        isNameChar_of_isWordChar (hr a ha)⟩⟩
  | guarded hd hr =>
    exact List.forall_mem_cons.2 ⟨hletter, List.forall_mem_cons.2 ⟨by decide,
      List.forall_mem_cons.2 ⟨isNameChar_of_isWordChar (isWordChar_of_small (.inr hd)),
        fun a ha => isNameChar_of_isWordChar (hr a ha)⟩⟩⟩

/-! ## The second spelling -/

/-- Nothing takes the letter of interfaces from what stands behind it: no line does, and the word
it is in is a plain one. -/
def keepsLetter (s : List Char) : Bool := !s.contains '_' && (words s).head?.all isPlainWord

theorem words_letter_line (r : List Char) : words ('I' :: '_' :: r) = ['I'] :: words r := by
  have hruns : runs ('I' :: '_' :: r) = ['I'] :: runs ('_' :: r) := by
    rw [runs.eq_def]
    rfl
  have hline := words_line r
  rw [words] at hline
  rw [words, hruns, List.flatMap_cons, hline]
  rfl

/-- A word of two capitals at least is spelled with a capital behind the first one exactly if it
is an acronym. -/
theorem capitalize_pair {c d : Char} (hc : c.isUpper) (hd : d.isUpper) (w : List Char) :
    ∃ b w', capitalize (c :: d :: w) = c :: b :: w'
      ∧ (b.isUpper ↔ isPlainWord (c :: d :: w)) := by
  have hcount : 1 < (c :: d :: w).countP Char.isUpper := by
    rw [List.countP_cons_of_pos hc, List.countP_cons_of_pos hd]
    omega
  rw [isPlainWord_iff]
  unfold capitalize
  by_cases ha : isAcronym (c :: d :: w)
  · exact ⟨d, w, if_pos ha, iff_of_true hd fun _ => ha⟩
  · refine ⟨d.toLower, w.map Char.toLower, ?_, ?_⟩
    · rw [if_neg ha]
      dsimp only
      rw [toUpper_of_not_isLower (not_isLower_of_isUpper hc), List.map_cons]
    · exact iff_of_false (not_isUpper_toLower d) fun h => ha (h hcount)

theorem isWordChar_letter {c : Char} {r : List Char} (hc : c.isUpper)
    (hr : ∀ a ∈ r, isWordChar a) : ∀ a ∈ 'I' :: c :: r, isWordChar a :=
  List.forall_mem_cons.2 ⟨by decide, List.forall_mem_cons.2 ⟨isWordChar_of_isUpper hc, hr⟩⟩

/-- A letter before a capital is a word of its own, or the first of several capitals. -/
theorem pascal_letter_capital {c : Char} {r : List Char} (hc : c.isUpper)
    (hr : ∀ a ∈ r, isWordChar a) :
    ∃ b t, pascal ('I' :: c :: r) = 'I' :: b :: t ∧ (b.isUpper ↔ keepsLetter ('I' :: c :: r)) := by
  have hchars := isWordChar_letter hc hr
  have hline : ('I' :: c :: r).contains '_' = false := by
    rw [Bool.eq_false_iff, ne_eq, List.contains_iff_mem]
    intro hmem
    exact absurd (hchars _ hmem) (by decide)
  have hflat := flatten_cut ('I' :: c :: r)
  obtain ⟨w, ws, hcut⟩ := cut_cons 'I' (c :: r)
  have hkeeps : keepsLetter ('I' :: c :: r) = isPlainWord ('I' :: w) := by
    rw [keepsLetter, hline, words_of_wordChars hchars, hcut]
    rfl
  rw [hkeeps, pascal_of_isUpper (by decide), words_of_wordChars hchars, hcut, List.flatMap_cons]
  rw [hcut, List.flatten_cons, List.cons_append, List.cons_eq_cons] at hflat
  cases w with
  | nil =>
    -- the next word begins with the capital
    cases ws with
    | nil => cases hflat.2
    | cons v vs =>
      have hne : v ≠ [] := ne_nil_of_mem_cut (s := 'I' :: c :: r) (by rw [hcut]; simp)
      obtain ⟨b, v, rfl⟩ := List.exists_cons_of_ne_nil hne
      obtain ⟨rfl, -⟩ := List.cons_eq_cons.1 hflat.2
      obtain ⟨v', hv'⟩ := capitalize_cons (not_isLower_of_isUpper hc) v
      refine ⟨b, v' ++ vs.flatMap capitalize, ?_, iff_of_true hc (by decide)⟩
      rw [List.flatMap_cons, hv']
      rfl
  | cons b w =>
    obtain ⟨rfl, -⟩ := List.cons_eq_cons.1 hflat.2
    obtain ⟨b', w', hcap, hupper⟩ := capitalize_pair (c := 'I') (by decide) hc w
    refine ⟨b', w' ++ ws.flatMap capitalize, ?_, hupper⟩
    rw [hcap]
    rfl

/-- A letter before a guarded digit is a word of its own, and the line is lost behind it. -/
theorem pascal_letter_guarded {d : Char} (hd : d.isDigit) (r : List Char) :
    ∃ t, pascal ('I' :: '_' :: d :: r) = 'I' :: d :: t := by
  obtain ⟨w, ws, hwords⟩ := words_cons (isWordChar_of_small (.inr hd)) r
  obtain ⟨w', hw'⟩ := capitalize_cons (not_isLower_of_isDigit hd) w
  refine ⟨w' ++ ws.flatMap capitalize, ?_⟩
  rw [pascal_of_isUpper (by decide), words_letter_line, hwords, List.flatMap_cons,
    List.flatMap_cons, hw']
  rfl

/-- The second spelling begins with the letter too, and has a capital behind it exactly if nothing
takes the letter from it. -/
theorem IsLettered.pascal {s : List Char} (h : IsLettered s) :
    ∃ c r, Naming.pascal s = 'I' :: c :: r ∧ (c.isUpper ↔ keepsLetter s) := by
  cases h with
  | capital hc hr => exact pascal_letter_capital hc hr
  | @guarded d r hd _ =>
    obtain ⟨t, hpascal⟩ := pascal_letter_guarded hd r
    refine ⟨d, t, hpascal, iff_of_false (not_isUpper_of_small (.inr hd)) ?_⟩
    rw [keepsLetter]
    simp

/-- A name with a letter too many is another name. -/
theorem IsLettered.cons_pascal_ne {s : List Char} (h : IsLettered s) :
    'I' :: Naming.pascal s ≠ s := by
  cases h with
  | @capital c r hc hr =>
    have hlength : (Naming.pascal ('I' :: c :: r)).length = ('I' :: c :: r).length := by
      rw [pascal_of_isUpper (by decide), length_flatMap_capitalize,
        words_of_wordChars (isWordChar_letter hc hr), flatten_cut]
    intro heq
    have hcons := congrArg List.length heq
    rw [List.length_cons, hlength] at hcons
    omega
  | @guarded d r hd _ =>
    obtain ⟨t, hpascal⟩ := pascal_letter_guarded hd r
    rw [hpascal]
    intro heq
    cases heq

/-- A name with the letter that spells itself keeps the letter. -/
theorem keepsLetter_of_spellsItself {s : List Char} (hs : IsLettered s) (h : SpellsItself s) :
    keepsLetter s := by
  obtain ⟨hline, hwords⟩ := h
  have hnone : s.contains '_' = false := by
    rw [Bool.eq_false_iff, ne_eq, List.contains_iff_mem]
    cases hs with
    | capital _ _ => exact List.not_mem_cons_of_ne_of_not_mem (by decide) hline
    | guarded _ _ => exact List.not_mem_cons_of_ne_of_not_mem (by decide) hline
  rw [keepsLetter, hnone, Bool.not_false, Bool.true_and, Option.all_eq_true]
  intro w hw
  exact hwords w (List.mem_of_mem_head? hw)

end Naming

namespace Generate

/-! ## The name of the interface -/

/-- The name of the interface if the settings name it. -/
def givenInterfaceName (s : Settings) (d : Document) (name : String) : String :=
  interfaceName (.of { s with naming := { useOpenApiTitle := false, interfaceName := name } } d)

theorem givenInterfaceName_eq (s : Settings) (d : Document) (name : String) :
    givenInterfaceName s d name = withInterfaceLetter
      (if Naming.pascalCase name = "" then "ApiClient" else Naming.pascalCase name) := by
  unfold givenInterfaceName interfaceName
  exact if_neg Bool.false_ne_true

theorem withInterfaceLetter_of_toList {name : String} {c : Char} {r : List Char}
    (h : name.toList = 'I' :: c :: r) :
    withInterfaceLetter name = if c.isUpper then name else "I" ++ name := by
  rw [withInterfaceLetter, h]
  rfl

theorem toList_letter (name : String) : ("I" ++ name).toList = 'I' :: name.toList := by
  rw [String.toList_append]
  rfl

theorem isLettered_withInterfaceLetter {name : String} (hstart : Naming.HasStart name.toList)
    (hs : Naming.IsSpelled name.toList) (hline : '_' ∉ name.toList.tail) :
    Naming.IsLettered (withInterfaceLetter name).toList := by
  have hput : Naming.IsLettered ("I" ++ name).toList := by
    rw [toList_letter]
    exact .cons hstart hs hline
  unfold withInterfaceLetter
  split
  · rename_i c r hname
    split
    · rename_i hupper
      rw [hname] at hs hline ⊢
      exact .spelled hupper hs hline
    · exact hput
  · exact hput

theorem isLettered_givenInterfaceName (s : Settings) (d : Document) (name : String) :
    Naming.IsLettered (givenInterfaceName s d name).toList := by
  rw [givenInterfaceName_eq]
  by_cases hempty : Naming.pascalCase name = ""
  · rw [if_pos hempty]
    refine isLettered_withInterfaceLetter ⟨['A'], .capital (by decide), _, rfl⟩ ?_ (by decide)
    exact Naming.isSpelled_of_all (by decide)
  · rw [if_neg hempty]
    refine isLettered_withInterfaceLetter (Naming.hasStart_pascalCase hempty)
      (Naming.isSpelled_pascalCase name) ?_
    rw [Naming.pascalCase, String.toList_ofList]
    exact Naming.line_not_mem_tail_pascal _

/-- The name of the interface is put into the settings.  It comes out as it is exactly if it spells
itself: no line stands in it, and each of its words is an acronym or has one capital at most.
Spelled again it begins with the letter in any case.  Still the letter is put before it a second
time, exactly if something takes the letter from what stands behind it: a line, or the first word,
if this has several capitals and is no acronym. -/
theorem givenInterfaceName_again (s : Settings) (d : Document) (name : String) :
    (givenInterfaceName s d (givenInterfaceName s d name) = givenInterfaceName s d name
        ↔ Naming.SpellsItself (givenInterfaceName s d name).toList)
      ∧ (Naming.pascalCase (givenInterfaceName s d name)).toList.head? = some 'I'
      ∧ givenInterfaceName s d (givenInterfaceName s d name)
        = (if Naming.keepsLetter (givenInterfaceName s d name).toList then "" else "I")
          ++ Naming.pascalCase (givenInterfaceName s d name) := by
  -- the letter is there after the first time, so from then on only the spelling counts
  have hlettered := isLettered_givenInterfaceName s d name
  generalize givenInterfaceName s d name = y at hlettered
  obtain ⟨c, r, hpascal, hkeeps⟩ := hlettered.pascal
  have hchars : (Naming.pascalCase y).toList = 'I' :: c :: r := by
    rw [Naming.pascalCase, String.toList_ofList, hpascal]
  have hne : Naming.pascalCase y ≠ "" := by
    intro hempty
    rw [hempty] at hchars
    cases hchars
  have hagain : givenInterfaceName s d y
      = (if Naming.keepsLetter y.toList then "" else "I") ++ Naming.pascalCase y := by
    rw [givenInterfaceName_eq, if_neg hne, withInterfaceLetter_of_toList hchars]
    by_cases hk : Naming.keepsLetter y.toList
    · rw [if_pos (hkeeps.2 hk), if_pos hk, String.empty_append]
    · rw [if_neg fun h => hk (hkeeps.1 h), if_neg hk]
  refine ⟨?_, by rw [hchars]; rfl, hagain⟩
  rw [hagain]
  by_cases hk : Naming.keepsLetter y.toList
  · rw [if_pos hk, String.empty_append]
    exact Naming.pascalCase_eq_self_iff hlettered.hasStart hlettered.isSpelled
  · rw [if_neg hk]
    refine iff_of_false (fun heq => hlettered.cons_pascal_ne ?_) fun hself => hk ?_
    · have hlist := congrArg String.toList heq
      rwa [toList_letter, Naming.pascalCase, String.toList_ofList] at hlist
    · exact Naming.keepsLetter_of_spellsItself hlettered hself

/-- A name of the interface that is put into the settings gets the letter once more. -/
theorem interface_letter_doubled :
    givenInterfaceName packSettings packDocument "HTTPClient" = "IHTTPClient"
      ∧ givenInterfaceName packSettings packDocument "IHTTPClient" = "IIhttpClient" := by
  decide +kernel

end Generate

end OpenApiClient
