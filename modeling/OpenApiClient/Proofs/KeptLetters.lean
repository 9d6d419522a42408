/-
What a spelling keeps of a text.

Two texts may be spelled alike, so a spelling does lose something: everything that is no ASCII
letter or digit, and which of the letters were capitals.  What is said here is that it loses nothing
else and makes nothing up.  Small letters apart, a spelled name is the row of letters and digits of
its text, with a line before it if the row begins with a digit.

The text is cut twice on the way, into runs and the runs into words, and both cuts keep all letters
and digits in order (`flatten_words`).  What is done to a word changes capitals and nothing else
(`map_toLower_capitalize`), and so does what makes a parameter out of the name of a type
(`camel_eq`).  So the two spellings are treated as one: `Keeps` is said of both, and they differ in
the kind of letter they begin with.
-/
import Mathlib
import OpenApiClient.Proofs.Identifiers

set_option autoImplicit false

namespace OpenApiClient.Naming

/-! ## Letters -/

/-- A character that is no small letter is known by the small one. -/
theorem eq_toUpper_of_toLower_eq {c d : Char} (hc : ¬ c.isLower) (h : c.toLower = d.toLower) :
    c = d.toUpper :=
  calc c = c.toUpper := (toUpper_of_not_isLower hc).symm
    _ = c.toLower.toUpper := (Char.toUpper_toLower_eq_toUpper c).symm
    _ = d.toLower.toUpper := by rw [h]
    _ = d.toUpper := Char.toUpper_toLower_eq_toUpper d

theorem isDigit_toUpper (c : Char) : c.toUpper.isDigit = c.isDigit := by
  rw [Bool.eq_iff_iff, Char.isDigit_iff_toNat, Char.isDigit_iff_toNat, toNat_toUpper]
  simp only [isLower_iff]
  have hnine : '9'.toNat = 57 := rfl
  split_ifs <;> omega

theorem toLower_eq_line_iff {c : Char} : c.toLower = '_' ↔ c = '_' := by
  rw [← Char.toNat_inj, ← Char.toNat_inj, toNat_toLower]
  simp only [isUpper_iff]
  have hline : '_'.toNat = 95 := rfl
  split_ifs <;> omega

/-! ## The row of letters and digits -/

/-- The ASCII letters and digits of a text, in order, all letters small. -/
def letterRow (s : List Char) : List Char := (s.filter Char.isAlphanum).map Char.toLower

/-- In a word only capitals change. -/
theorem map_toLower_capitalize (w : List Char) :
    (capitalize w).map Char.toLower = w.map Char.toLower := by
  unfold capitalize
  split
  · rfl
  · cases w with
    | nil => rfl
    | cons c r => simp

/-- The capitalized words of a text, put together, are its row of letters and digits. -/
theorem map_toLower_words (s : List Char) :
    ((words s).flatMap capitalize).map Char.toLower = letterRow s :=
  calc ((words s).flatMap capitalize).map Char.toLower
      = (words s).flatMap fun w => (capitalize w).map Char.toLower := List.map_flatMap
    _ = (words s).flatMap fun w => w.map Char.toLower := by simp only [map_toLower_capitalize]
    _ = (words s).flatten.map Char.toLower := by rw [List.map_flatten, List.flatMap_def]
    _ = letterRow s := by rw [flatten_words]; rfl

/-! ## The first character -/

/-- The first word begins with the first letter or digit of the text, as a capital. -/
theorem head?_words (s : List Char) :
    ((words s).flatMap capitalize).head? = (s.find? Char.isAlphanum).map Char.toUpper := by
  have hrow := congrArg List.head? (map_toLower_words s)
  rw [letterRow, List.head?_map, List.head?_map, List.head?_filter] at hrow
  -- what stands first is no small letter, so its case is known too
  have hcapital : ∀ c ∈ ((words s).flatMap capitalize).head?, ¬ c.isLower := by
    cases hwords : words s with
    | nil => simp
    | cons w ws =>
      have hmem : w ∈ words s := hwords ▸ List.mem_cons_self
      obtain ⟨c, r, hw, -, hsmall⟩ := head_capitalize (ne_nil_of_mem_words hmem)
        fun c hc => isWordChar_of_mem_words hmem hc
      simp [hw, hsmall]
  generalize ((words s).flatMap capitalize).head? = first at hrow hcapital ⊢
  generalize s.find? Char.isAlphanum = wanted at hrow ⊢
  cases first with
  | none => cases wanted <;> simp_all
  | some c =>
    cases wanted with
    | none => simp at hrow
    | some d =>
      have hsame : c.toLower = d.toLower := by simpa using hrow
      rw [Option.map_some, eq_toUpper_of_toLower_eq (hcapital c rfl) hsame]

theorem head?_guardDigit (s : List Char) :
    (guardDigit s).head? = s.head?.map fun c => if c.isDigit then '_' else c := by
  cases s with
  | nil => rfl
  | cons c r =>
    rw [guardDigit]
    by_cases hc : c.isDigit <;> simp [hc]

theorem head?_pascal (s : List Char) :
    (pascal s).head?
      = (s.find? Char.isAlphanum).map fun c => if c.isDigit then '_' else c.toUpper := by
  rw [pascal, head?_guardDigit, head?_words, Option.map_map]
  congr 1
  funext c
  rw [Function.comp_apply, isDigit_toUpper]

/-! ## The spelling of parameters -/

/-- A parameter is spelled like a type, but for its first characters, which are small. -/
theorem camel_eq (s : List Char) :
    ∃ n, 0 < n ∧ camel s = ((pascal s).take n).map Char.toLower ++ (pascal s).drop n := by
  unfold camel
  generalize pascal s = p
  split
  · exact ⟨1, Nat.one_pos, rfl⟩
  · -- the line is no capital
    exact ⟨1, Nat.one_pos, rfl⟩
  · rename_i c r _
    dsimp only
    split
    · exact ⟨acronymLength (c :: r), by omega, rfl⟩
    · exact ⟨1, Nat.one_pos, rfl⟩

theorem map_toLower_camel (s : List Char) :
    (camel s).map Char.toLower = (pascal s).map Char.toLower := by
  obtain ⟨n, -, hcamel⟩ := camel_eq s
  have htwice : Char.toLower ∘ Char.toLower = Char.toLower := funext Char.toLower_toLower_eq_toLower
  rw [hcamel, List.map_append, List.map_map, htwice, ← List.map_append, List.take_append_drop]

theorem head?_camel (s : List Char) :
    (camel s).head?
      = (s.find? Char.isAlphanum).map fun c => if c.isDigit then '_' else c.toLower := by
  obtain ⟨n, hn, hcamel⟩ := camel_eq s
  have hfirst : (camel s).head? = (pascal s).head?.map Char.toLower := by
    obtain ⟨k, rfl⟩ := Nat.exists_eq_add_of_lt hn
    rw [hcamel]
    cases pascal s <;> simp
  rw [hfirst, head?_pascal, Option.map_map]
  congr 1
  funext c
  rw [Function.comp_apply, apply_ite Char.toLower, Char.toLower_toUpper_eq_toLower]
  rfl

/-! ## The line before a digit -/

/-- A name without the line at its start, if there is one. -/
def withoutLine : List Char → List Char
  | [] => []
  | c :: r => if c = '_' then r else c :: r

theorem withoutLine_guardDigit {s : List Char} (h : '_' ∉ s) : withoutLine (guardDigit s) = s := by
  cases s with
  | nil => rfl
  | cons c r =>
    have hc : c ≠ '_' := fun heq => h (heq ▸ List.mem_cons_self)
    rw [guardDigit]
    by_cases hdigit : c.isDigit <;> simp [hdigit, withoutLine, hc]

theorem withoutLine_map_toLower (s : List Char) :
    withoutLine (s.map Char.toLower) = (withoutLine s).map Char.toLower := by
  cases s with
  | nil => rfl
  | cons c r =>
    rw [List.map_cons, withoutLine, withoutLine]
    by_cases hc : c = '_'
    · rw [if_pos hc, if_pos (toLower_eq_line_iff.2 hc)]
    · rw [if_neg hc, if_neg (mt toLower_eq_line_iff.1 hc), List.map_cons]

theorem withoutLine_pascal (s : List Char) :
    (withoutLine (pascal s)).map Char.toLower = letterRow s := by
  rw [pascal, withoutLine_guardDigit (line_not_mem_words s), map_toLower_words]

theorem withoutLine_camel (s : List Char) :
    (withoutLine (camel s)).map Char.toLower = letterRow s := by
  rw [← withoutLine_map_toLower, map_toLower_camel, withoutLine_map_toLower, withoutLine_pascal]

/-! ## What both spellings keep -/

/-- What a spelling `t` keeps of a text `s`.  It has the row of letters and digits of `s` in it and
nothing else; it is empty exactly if the row is; and the row tells how it begins: with a line before
a digit, and with a letter of one kind otherwise. -/
structure Keeps (isFirst : Char → Bool) (s t : List Char) : Prop where
  row : (withoutLine t).map Char.toLower = letterRow s
  empty : t = [] ↔ ∀ c ∈ s, ¬ c.isAlphanum
  line : t.head? = some '_' ↔ ∃ c ∈ s.find? Char.isAlphanum, c.isDigit
  letter : (∃ c ∈ t.head?, isFirst c) ↔ ∃ c ∈ s.find? Char.isAlphanum, c.isAlpha

/-- A letter is no digit. -/
theorem isAlpha_iff_not_isDigit {c : Char} (h : c.isAlphanum) : c.isAlpha ↔ ¬ c.isDigit := by
  rw [← isWordChar, isWordChar_eq, Bool.or_eq_true] at h
  refine ⟨fun hletter hdigit => ?_, fun hdigit => h.resolve_right hdigit⟩
  rw [isAlpha_eq, Bool.or_eq_true] at hletter
  rcases hletter with hupper | hlower
  · exact not_isUpper_of_small (.inr hdigit) hupper
  · exact not_isLower_of_isDigit hdigit hlower

/-- All but the row is settled by the first character. -/
theorem Keeps.of_head? {isFirst : Char → Bool} {f : Char → Char} {s t : List Char}
    (hrow : (withoutLine t).map Char.toLower = letterRow s)
    (hhead : t.head? = (s.find? Char.isAlphanum).map fun c => if c.isDigit then '_' else f c)
    (hf : ∀ c : Char, c.isAlpha → isFirst (f c)) (hline : isFirst '_' = false) :
    Keeps isFirst s t := by
  have hempty : t = [] ↔ ∀ c ∈ s, ¬ c.isAlphanum := by
    rw [← List.head?_eq_none_iff, hhead, Option.map_eq_none_iff, List.find?_eq_none]
  refine ⟨hrow, hempty, ?_, ?_⟩
  all_goals
    rw [hhead]
    cases hfind : s.find? Char.isAlphanum with
    | none => simp
    | some c =>
      have hletter := isAlpha_iff_not_isDigit (List.find?_some hfind)
      by_cases hdigit : c.isDigit
      · simp_all
      · have hfirst := hf c (hletter.2 hdigit)
        -- a first letter is no line
        have hne : f c ≠ '_' := by
          intro heq
          rw [heq, hline] at hfirst
          cases hfirst
        simp_all

/-- Nothing is lost and nothing made up when a text is spelled as a type or as a parameter.  Without
the line at its start and with small letters the name is the row of ASCII letters and digits of the
text, these with small letters too.  It is empty exactly if the text has none; a line stands at its
start exactly if the first of them is a digit; and it begins with a capital, or with a small letter
if it is a parameter, exactly if the first of them is a letter. -/
theorem spellings_keep (s : String) :
    Keeps Char.isUpper s.toList (pascalCase s).toList
      ∧ Keeps Char.isLower s.toList (camelCase s).toList := by
  rw [pascalCase, camelCase, String.toList_ofList, String.toList_ofList]
  constructor
  · exact .of_head? (withoutLine_pascal _) (head?_pascal _) (by simp) (by decide)
  · exact .of_head? (withoutLine_camel _) (head?_camel _) (by simp) (by decide)

/-- Accents and signs are dropped, and a digit at the start is guarded. -/
example : (pascalCase "2é naïve-URLs", camelCase "HTTPServer_no 1")
    = ("_2NaVeURLs", "httpServerNo1")
    := by decide +kernel

end OpenApiClient.Naming
