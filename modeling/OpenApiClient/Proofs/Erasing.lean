/-
Taking words out of a text, one word after the other.

Every occurrence of a word goes, wherever it stands, so nothing is known about the result in
general.  Three things are.  What the word does not touch stays, and `Touches` says when a word
touches the beginning of a text: it occurs there, or it begins there and goes on behind it
(`erase_append`).  A word without a separator does not reach across one, so the pieces between
separators can be looked at one by one (`erase_append_separator`).  And a text gets shorter when
something is taken out of it (`length_erase_lt`), so it is the same afterwards only if nothing was.

The last two carry over to several words, although each of them is looked for in what the ones
before it have left.  A text that comes out as it went in has kept its length at every step, so
it was the same text at every step (`eraseEach_eq_self_iff`).
-/
import OpenApiClient.Imports
import Mathlib.Data.List.Infix

set_option autoImplicit false

namespace OpenApiClient

namespace Text

variable {w s r line : List Char} {c : Char}

/-! ## Words at the start of a text -/

theorem dropWord?_eq_some_iff : dropWord? w s = some r ↔ s = w ++ r := by
  constructor
  · exact append_of_dropWord?
  · rintro rfl
    exact dropWord?_append w r

theorem dropWord?_eq_none_iff : dropWord? w s = none ↔ ¬ w <+: s := by
  constructor
  · rintro h ⟨t, rfl⟩
    rw [dropWord?_append] at h
    cases h
  · intro h
    cases hd : dropWord? w s with
    | none => rfl
    | some t =>
      have hs : s = w ++ t := append_of_dropWord? hd
      exact absurd (hs ▸ List.prefix_append w t) h

/-- A word without a separator that stands at the start of a text stands before the first
separator. -/
theorem prefix_of_prefix_separator (hc : c ∉ w) (h : w <+: s ++ c :: r) : w <+: s := by
  rcases List.prefix_or_prefix_of_prefix h (List.prefix_append s (c :: r)) with hws | hsw
  · exact hws
  · -- the word goes past the text, so that the separator is one of its characters
    obtain ⟨t, rfl⟩ := hsw
    have htail : t <+: c :: r := (List.prefix_append_right_inj s).1 h
    cases t with
    | nil => rw [List.append_nil]
    | cons a t =>
      have hac : a = c := (List.cons_prefix_cons.1 htail).1
      rw [hac] at hc
      simp at hc

/-! ## One word -/

theorem erase_nil (w : List Char) : erase w [] = [] := by
  cases w with
  | nil => rw [erase]
  | cons a w =>
    rw [erase]
    simp

theorem erase_append_word (hw : w ≠ []) (r : List Char) : erase w (w ++ r) = erase w r := by
  cases w with
  | nil => exact absurd rfl hw
  | cons a w =>
    have hd := dropWord?_append (a :: w) r
    rw [List.cons_append] at hd ⊢
    rw [erase]
    split
    · rename_i r' hr'
      rw [hd] at hr'
      rw [Option.some.inj hr']
    · rename_i hnone
      rw [hd] at hnone
      cases hnone

theorem erase_cons (hw : w ≠ []) (h : ¬ w <+: c :: r) : erase w (c :: r) = c :: erase w r := by
  cases w with
  | nil => exact absurd rfl hw
  | cons a w =>
    have hd := dropWord?_eq_none_iff.2 h
    rw [erase]
    split
    · rename_i r' hr'
      rw [hd] at hr'
      cases hr'
    · rfl

/-- The way in which a text is gone through for a word: at each place either the word stands
there or the next character stays. -/
theorem erase_induction (hw : w ≠ []) {P : List Char → Prop} (nil : P [])
    (word : ∀ r, P r → P (w ++ r)) (char : ∀ c r, ¬ w <+: c :: r → P r → P (c :: r))
    (s : List Char) : P s := by
  induction hn : s.length using Nat.strong_induction_on generalizing s with
  | h n ih =>
    by_cases hs : w <+: s
    · obtain ⟨r, rfl⟩ := hs
      have hpos : 0 < w.length := List.length_pos_of_ne_nil hw
      rw [List.length_append] at hn
      exact word r (ih r.length (by omega) r rfl)
    · cases s with
      | nil => exact nil
      | cons c r =>
        rw [List.length_cons] at hn
        exact char c r hs (ih r.length (by omega) r rfl)

/-- A word that occurs nowhere takes nothing out. -/
theorem erase_of_absent (hw : w ≠ []) (h : ¬ w <:+: s) : erase w s = s := by
  induction s with
  | nil => exact erase_nil w
  | cons c r ih =>
    rw [List.infix_cons_iff, not_or] at h
    rw [erase_cons hw h.1, ih h.2]

theorem length_erase_le (hw : w ≠ []) (s : List Char) : (erase w s).length ≤ s.length := by
  induction s using erase_induction hw with
  | nil => rw [erase_nil]
  | word r ih =>
    rw [erase_append_word hw, List.length_append]
    omega
  | char c r h ih =>
    rw [erase_cons hw h, List.length_cons, List.length_cons]
    omega

theorem length_erase_lt (hw : w ≠ []) (h : w <:+: s) : (erase w s).length < s.length := by
  induction s using erase_induction hw with
  | nil => exact absurd (List.infix_nil.1 h) hw
  | word r _ =>
    have hpos : 0 < w.length := List.length_pos_of_ne_nil hw
    have hle := length_erase_le hw r
    rw [erase_append_word hw, List.length_append]
    omega
  | char c r hstart ih =>
    have hr : w <:+: r := (List.infix_cons_iff.1 h).resolve_left hstart
    have hlt := ih hr
    rw [erase_cons hw hstart, List.length_cons, List.length_cons]
    omega

/-- A character that is not in the word stays, everywhere. -/
theorem count_erase (hw : w ≠ []) (hc : c ∉ w) (s : List Char) :
    (erase w s).count c = s.count c := by
  induction s using erase_induction hw with
  | nil => rw [erase_nil]
  | word r ih =>
    rw [erase_append_word hw, List.count_append, List.count_eq_zero_of_not_mem hc, ih]
    omega
  | char d r h ih => rw [erase_cons hw h, List.count_cons, List.count_cons, ih]

/-- A word does not reach across a separator that is not in it. -/
theorem erase_append_separator (hw : w ≠ []) (hc : c ∉ w) (s r : List Char) :
    erase w (s ++ c :: r) = erase w s ++ c :: erase w r := by
  have hcons : ∀ t, ¬ w <+: c :: t := by
    intro t h
    exact hw (List.prefix_nil.1 (prefix_of_prefix_separator (s := []) hc h))
  induction s using erase_induction hw with
  | nil => rw [List.nil_append, erase_cons hw (hcons r), erase_nil, List.nil_append]
  | word t ih => rw [List.append_assoc, erase_append_word hw, erase_append_word hw, ih]
  | char d t h ih =>
    have h' : ¬ w <+: d :: t ++ c :: r := fun hpre => h (prefix_of_prefix_separator hc hpre)
    rw [List.cons_append] at h' ⊢
    rw [erase_cons hw h', erase_cons hw h, ih, List.cons_append]

/-! ### What a word touches -/

/-- A word that is looked for in a text which begins with `line` can take something out of that
beginning: it occurs in it, or it begins in it and goes on behind it. -/
def Touches (w line : List Char) : Prop :=
  ∃ p, p <:+ line ∧ p ≠ [] ∧ (w <+: p ∨ p <+: w)

/-- A beginning that the word does not touch stays. -/
theorem erase_append (hw : w ≠ []) (h : ¬ Touches w line) (r : List Char) :
    erase w (line ++ r) = line ++ erase w r := by
  induction line with
  | nil => rfl
  | cons c line ih =>
    have hrest : ¬ Touches w line := by
      rintro ⟨p, hp, hne, hor⟩
      exact h ⟨p, hp.trans (List.suffix_cons c line), hne, hor⟩
    have hstart : ¬ w <+: c :: (line ++ r) := by
      intro hpre
      have hor := List.prefix_or_prefix_of_prefix hpre (List.prefix_append (c :: line) r)
      exact h ⟨c :: line, List.suffix_refl _, List.cons_ne_nil _ _, hor⟩
    rw [List.cons_append, erase_cons hw hstart, ih hrest, List.cons_append]

/-- A word without a separator touches a piece with its separator exactly if it occurs in the
piece. -/
theorem touches_separator_iff (hc : c ∉ w) :
    Touches w (line ++ [c]) ↔ w <:+: line := by
  constructor
  · rintro ⟨p, ⟨s, hs⟩, hne, hor⟩
    -- what remains of the piece ends with the separator, so it is not part of the word
    have hp : p.getLast hne = c := by
      have hlast := congrArg List.getLast? hs
      rw [List.getLast?_append_of_ne_nil _ hne, List.getLast?_concat,
        List.getLast?_eq_getLast_of_ne_nil hne] at hlast
      exact Option.some.inj hlast
    obtain ⟨q, rfl⟩ : ∃ q, p = q ++ [c] := by
      refine ⟨p.dropLast, ?_⟩
      rw [← hp, List.dropLast_append_getLast hne]
    have hline : s ++ q = line := by
      rw [← List.append_assoc] at hs
      exact (List.append_inj' hs rfl).1
    rcases hor with hpre | hpre
    · have hwq : w <+: q := prefix_of_prefix_separator hc hpre
      exact hline ▸ hwq.isInfix.trans (List.suffix_append s q).isInfix
    · exact absurd (hpre.subset (List.mem_append_right q List.mem_cons_self)) hc
  · rintro ⟨s, t, rfl⟩
    refine ⟨w ++ t ++ [c], ⟨s, by simp⟩, by simp, .inl ?_⟩
    rw [List.append_assoc]
    exact List.prefix_append _ _

/-! ## Several words -/

/-- The text without several words, taken out one after the other. -/
def eraseEach (ws : List (List Char)) (s : List Char) : List Char :=
  ws.foldl (fun s w => erase w s) s

variable {ws : List (List Char)}

theorem eraseEach_cons (w : List Char) (ws : List (List Char)) (s : List Char) :
    eraseEach (w :: ws) s = eraseEach ws (erase w s) := rfl

theorem length_eraseEach_le (hws : ∀ w ∈ ws, w ≠ []) (s : List Char) :
    (eraseEach ws s).length ≤ s.length := by
  induction ws generalizing s with
  | nil => exact Nat.le_refl _
  | cons w ws ih =>
    obtain ⟨hw, hrest⟩ := List.forall_mem_cons.1 hws
    exact (ih hrest (erase w s)).trans (length_erase_le hw s)

/-- A text stays as it is exactly if none of the words occurs in it. -/
theorem eraseEach_eq_self_iff (hws : ∀ w ∈ ws, w ≠ []) :
    eraseEach ws s = s ↔ ∀ w ∈ ws, ¬ w <:+: s := by
  induction ws with
  | nil => simp [eraseEach]
  | cons w ws ih =>
    obtain ⟨hw, hrest⟩ := List.forall_mem_cons.1 hws
    rw [eraseEach_cons, List.forall_mem_cons]
    constructor
    · intro heq
      -- no step has made the text shorter, so the first one has left it as it was
      have hfirst : ¬ w <:+: s := by
        intro hin
        have hlt := length_erase_lt hw hin
        have hle := length_eraseEach_le hrest (erase w s)
        rw [heq] at hle
        omega
      rw [erase_of_absent hw hfirst] at heq
      exact ⟨hfirst, (ih hrest).1 heq⟩
    · rintro ⟨hfirst, hothers⟩
      rw [erase_of_absent hw hfirst]
      exact (ih hrest).2 hothers

theorem count_eraseEach (hws : ∀ w ∈ ws, w ≠ [] ∧ c ∉ w) (s : List Char) :
    (eraseEach ws s).count c = s.count c := by
  induction ws generalizing s with
  | nil => rfl
  | cons w ws ih =>
    obtain ⟨⟨hw, hc⟩, hrest⟩ := List.forall_mem_cons.1 hws
    rw [eraseEach_cons, ih hrest, count_erase hw hc]

/-- Words without a separator are taken out of the pieces one by one. -/
theorem eraseEach_append_separator (hws : ∀ w ∈ ws, w ≠ [] ∧ c ∉ w) (s r : List Char) :
    eraseEach ws (s ++ c :: r) = eraseEach ws s ++ c :: eraseEach ws r := by
  induction ws generalizing s r with
  | nil => rfl
  | cons w ws ih =>
    obtain ⟨⟨hw, hc⟩, hrest⟩ := List.forall_mem_cons.1 hws
    rw [eraseEach_cons, eraseEach_cons, eraseEach_cons, erase_append_separator hw hc, ih hrest]

/-- A beginning that none of the words touches stays. -/
theorem prefix_eraseEach (hws : ∀ w ∈ ws, w ≠ [] ∧ ¬ Touches w line) (r : List Char) :
    line <+: eraseEach ws (line ++ r) := by
  induction ws generalizing r with
  | nil => exact List.prefix_append line r
  | cons w ws ih =>
    obtain ⟨⟨hw, hline⟩, hrest⟩ := List.forall_mem_cons.1 hws
    rw [eraseEach_cons, erase_append hw hline]
    exact ih hrest (erase w r)

/-- Of two texts with equally many separators before the separator at which they are cut, the
first parts are equal if the whole texts are. -/
theorem eq_of_append_separator {t u : List Char} (hcount : s.count c = t.count c)
    (h : s ++ c :: r = t ++ c :: u) : s = t := by
  induction s generalizing t with
  | nil =>
    cases t with
    | nil => rfl
    | cons a t =>
      -- the text that is left over would begin with a separator too many
      rw [List.nil_append, List.cons_append] at h
      rw [← (List.cons.inj h).1] at hcount
      simp at hcount
  | cons a s ih =>
    cases t with
    | nil =>
      rw [List.nil_append, List.cons_append] at h
      rw [(List.cons.inj h).1] at hcount
      simp at hcount
    | cons b t =>
      obtain ⟨rfl, htail⟩ := List.cons.inj h
      rw [List.count_cons, List.count_cons] at hcount
      rw [ih (by omega) htail]

/-- Words without a separator leave a piece and its separator at the start of a text exactly if
none of them occurs in the piece. -/
theorem prefix_eraseEach_iff (hws : ∀ w ∈ ws, w ≠ [] ∧ c ∉ w) (r : List Char) :
    line ++ [c] <+: eraseEach ws (line ++ c :: r) ↔ ∀ w ∈ ws, ¬ w <:+: line := by
  rw [← eraseEach_eq_self_iff fun w hw => (hws w hw).1, eraseEach_append_separator hws]
  constructor
  · rintro ⟨u, hu⟩
    rw [List.append_assoc, List.singleton_append] at hu
    exact (eq_of_append_separator (count_eraseEach hws line).symm hu).symm
  · intro heq
    rw [heq]
    exact ⟨eraseEach ws r, by simp⟩

end Text

/-! ## Namespaces -/

namespace Imports

/-- What is taken out of the code for a namespace. -/
def stripped (name : String) : List Char := name.toList ++ ['.']

theorem stripped_ne_nil (name : String) : stripped name ≠ [] := by
  unfold stripped
  simp

/-- What is taken out for a namespace without a line feed has none either. -/
theorem stripped_without_lineFeed {names : List String} (h : ∀ n ∈ names, '\n' ∉ n.toList) :
    ∀ w ∈ names.map stripped, w ≠ [] ∧ '\n' ∉ w := by
  intro w hw
  obtain ⟨n, hn, rfl⟩ := List.mem_map.1 hw
  refine ⟨stripped_ne_nil n, ?_⟩
  simpa [stripped] using h n hn

theorem toList_strip (code name : String) :
    (strip code name).toList = Text.erase (stripped name) code.toList := by
  unfold strip Text.eraseAll stripped
  rw [String.toList_ofList, String.toList_append]
  rfl

theorem toList_stripAll (code : String) (names : List String) :
    (stripAll code names).toList = Text.eraseEach (names.map stripped) code.toList := by
  unfold stripAll
  induction names generalizing code with
  | nil => rfl
  | cons name names ih =>
    rw [List.foldl_cons, ih, toList_strip, List.map_cons, Text.eraseEach_cons]

end Imports

end OpenApiClient
