/-
What is left of a text when a prefix has been taken out of it.

Taking out is one pass from left to right.  What it leaves are the pieces between the occurrences
(`flatten_splitWord`), and no piece has an occurrence in it, since the pass would have found it.
But the pieces are put side by side, and where they meet the end of one, some whole ones and the
beginning of another can be the word again.  That is the only way in which the word can occur in
the result (`infix_erase_iff`), and only then does a second pass find anything.  Such a text can
be given for every namespace that is not made of points alone (`strip_again_iff`).

Lines are another matter.  A namespace without a line feed never reaches across one, so no pass
mixes two lines, and several passes do to a text what they do to each of its lines
(`stripAll_lines`).
-/
import Mathlib.Data.List.Forall2
import OpenApiClient.Proofs.Erasing

set_option autoImplicit false

namespace OpenApiClient

namespace Text

variable {w s r p : List Char} {c : Char}

/-! ## The pieces between the occurrences of a word -/

theorem splitWord_nil (w : List Char) : splitWord w [] = [[]] := rfl

/-- The characters that belong to an occurrence are passed over. -/
theorem splitWordFrom_append (w t r : List Char) :
    splitWordFrom w t.length (t ++ r) = splitWordFrom w 0 r := by
  induction t with
  | nil => rfl
  | cons c t ih => rw [List.cons_append, List.length_cons, splitWordFrom, ih]

theorem splitWord_append_word (hw : w ≠ []) (r : List Char) :
    splitWord w (w ++ r) = [] :: splitWord w r := by
  obtain ⟨a, w', rfl⟩ := List.exists_cons_of_ne_nil hw
  have hstart : (dropWord? (a :: w') (a :: (w' ++ r))).isSome := by
    rw [← List.cons_append, dropWord?_append, Option.isSome_some]
  rw [splitWord, List.cons_append, splitWordFrom, if_pos hstart, List.length_cons,
    Nat.add_sub_cancel, splitWordFrom_append, splitWord]

/-- A character at which the word does not stand goes to the piece behind it. -/
theorem splitWord_cons (h : ¬ w <+: c :: r) :
    ∃ p ps, splitWord w r = p :: ps ∧ splitWord w (c :: r) = (c :: p) :: ps := by
  have hstart : ¬ (dropWord? w (c :: r)).isSome := by
    rw [dropWord?_eq_none_iff.2 h]
    simp
  have hpieces : splitWord w r ≠ [] := by
    unfold splitWord
    cases r with
    | nil => simp [splitWordFrom]
    | cons d r =>
      rw [splitWordFrom]
      split
      · simp
      · split <;> simp
  obtain ⟨p, ps, hp⟩ := List.exists_cons_of_ne_nil hpieces
  refine ⟨p, ps, hp, ?_⟩
  unfold splitWord at hp ⊢
  rw [splitWordFrom, if_neg hstart, hp]

/-- Nothing but the occurrences lies between the pieces. -/
theorem joinWith_splitWord (hw : w ≠ []) (s : List Char) : joinWith w (splitWord w s) = s := by
  induction s using erase_induction hw with
  | nil => rfl
  | word r ih =>
    obtain ⟨p, ps, hp⟩ : ∃ p ps, splitWord w r = p :: ps := by
      cases hr : splitWord w r with
      | nil =>
        rw [hr] at ih
        rw [← ih, joinWith, splitWord_nil] at hr
        cases hr
      | cons p ps => exact ⟨p, ps, rfl⟩
    rw [splitWord_append_word hw, hp, joinWith, ← hp, ih, List.nil_append]
  | char c r h ih =>
    obtain ⟨p, ps, hr, hcr⟩ := splitWord_cons h
    rw [hr] at ih
    rw [hcr, ← ih]
    cases ps <;> simp [joinWith]

/-- What is left of a text are its pieces. -/
theorem flatten_splitWord (hw : w ≠ []) (s : List Char) : (splitWord w s).flatten = erase w s := by
  induction s using erase_induction hw with
  | nil => rw [splitWord_nil, erase_nil, List.flatten_singleton]
  | word r ih =>
    rw [splitWord_append_word hw, erase_append_word hw, List.flatten_cons, List.nil_append, ih]
  | char c r h ih =>
    obtain ⟨p, ps, hr, hcr⟩ := splitWord_cons h
    rw [hr] at ih
    rw [hcr, erase_cons hw h, ← ih]
    rfl

/-- The word does not occur within a piece. -/
theorem not_infix_of_mem_splitWord (hw : w ≠ []) (h : p ∈ splitWord w s) : ¬ w <:+: p := by
  induction s using erase_induction hw generalizing p with
  | nil =>
    rw [splitWord_nil, List.mem_singleton] at h
    rw [h, List.infix_nil]
    exact hw
  | word r ih =>
    rw [splitWord_append_word hw, List.mem_cons] at h
    obtain rfl | h := h
    · rwa [List.infix_nil]
    · exact ih h
  | char c r hstart ih =>
    obtain ⟨q, ps, hr, hcr⟩ := splitWord_cons hstart
    rw [hcr, List.mem_cons] at h
    obtain rfl | h := h
    · -- the first piece is where the text begins, and there the word would have been found
      have hbegins : q <+: r := by
        rw [← joinWith_splitWord hw r, hr]
        cases ps with
        | nil => exact List.prefix_refl q
        | cons q' ps => exact ⟨w ++ joinWith w (q' :: ps), by rw [joinWith, List.append_assoc]⟩
      rw [List.infix_cons_iff, not_or]
      refine ⟨fun hpre => hstart (hpre.trans ?_), ih (by rw [hr]; exact List.mem_cons_self)⟩
      exact (List.prefix_cons_inj c).2 hbegins
    · exact ih (by rw [hr]; exact List.mem_cons_of_mem _ h)

/-! ## Where pieces meet -/

/-- A word lies across pieces that stand side by side: it is the end of one of them, whole
pieces, and the beginning of a later one. -/
def LiesAcross (w : List Char) (pieces : List (List Char)) : Prop :=
  ∃ before p between q after a b, pieces = before ++ p :: (between ++ q :: after)
    ∧ a ≠ [] ∧ b ≠ [] ∧ a <:+ p ∧ b <+: q ∧ w = a ++ between.flatten ++ b

/-- What stands at the beginning of pieces that are put together consists of whole pieces and the
beginning of the next one. -/
theorem exists_of_prefix_flatten {t : List Char} {pieces : List (List Char)} (ht : t ≠ [])
    (h : t <+: pieces.flatten) :
    ∃ between q after b, pieces = between ++ q :: after ∧ b ≠ [] ∧ b <+: q
      ∧ t = between.flatten ++ b := by
  induction pieces generalizing t with
  | nil => exact absurd (List.prefix_nil.1 h) ht
  | cons p ps ih =>
    rw [List.flatten_cons] at h
    rcases List.prefix_or_prefix_of_prefix h (List.prefix_append p ps.flatten) with htp | ⟨u, rfl⟩
    · exact ⟨[], p, ps, t, rfl, ht, htp, rfl⟩
    · by_cases hu : u = []
      · rw [hu, List.append_nil] at ht ⊢
        exact ⟨[], p, ps, p, rfl, ht, List.prefix_refl p, rfl⟩
      · obtain ⟨between, q, after, b, rfl, hb, hbq, rfl⟩ :=
          ih hu ((List.prefix_append_right_inj p).1 h)
        exact ⟨p :: between, q, after, b, rfl, hb, hbq,
          by rw [List.flatten_cons, List.append_assoc]⟩

/-- Pieces without the word, put together, hold it only where they meet. -/
theorem infix_flatten_iff {pieces : List (List Char)} (h : ∀ p ∈ pieces, ¬ w <:+: p)
    (hw : w ≠ []) : w <:+: pieces.flatten ↔ LiesAcross w pieces := by
  constructor
  · intro hin
    induction pieces with
    | nil => exact absurd (List.infix_nil.1 hin) hw
    | cons p ps ih =>
      obtain ⟨hp, hps⟩ := List.forall_mem_cons.1 h
      rw [List.flatten_cons, List.infix_append_iff_ne_nil] at hin
      rcases hin with hin | hin | ⟨a, t, ha, ht, rfl, hap, htps⟩
      · exact absurd hin hp
      · obtain ⟨before, p', between, q, after, a, b, rfl, hrest⟩ := ih hps hin
        exact ⟨p :: before, p', between, q, after, a, b, rfl, hrest⟩
      · -- the word begins in the first piece and goes on behind it
        obtain ⟨between, q, after, b, rfl, hb, hbq, rfl⟩ := exists_of_prefix_flatten ht htps
        refine ⟨[], p, between, q, after, a, b, rfl, ha, hb, hap, hbq, ?_⟩
        rw [List.append_assoc]
  · rintro ⟨before, p, between, q, after, a, b, rfl, -, -, ⟨u, rfl⟩, ⟨v, rfl⟩, rfl⟩
    refine ⟨before.flatten ++ u, v ++ after.flatten, ?_⟩
    simp only [List.flatten_append, List.flatten_cons, List.append_assoc]

/-- A word is left in a text that it has been taken out of exactly where pieces meet. -/
theorem infix_erase_iff (hw : w ≠ []) (s : List Char) :
    w <:+: erase w s ↔ LiesAcross w (splitWord w s) := by
  rw [← flatten_splitWord hw]
  exact infix_flatten_iff (fun p hp => not_infix_of_mem_splitWord hw hp) hw

/-! ## A second pass -/

theorem erase_eq_self_iff (hw : w ≠ []) : erase w s = s ↔ ¬ w <:+: s := by
  constructor
  · intro heq hin
    have hlt := length_erase_lt hw hin
    rw [heq] at hlt
    exact Nat.lt_irrefl _ hlt
  · exact erase_of_absent hw

/-- A word that begins one place behind another of its occurrences has one character only. -/
theorem eq_of_prefix_cons (h : w <+: c :: w) : ∀ d ∈ w, d = c := by
  induction w with
  | nil => simp
  | cons a w ih =>
    obtain ⟨rfl, hw⟩ := List.cons_prefix_cons.1 h
    rw [List.forall_mem_cons]
    exact ⟨rfl, ih hw⟩

/-- A row of one character at the beginning of what is left was there before, if it is no longer
than the word. -/
theorem prefix_of_prefix_erase {m n : Nat} (hmn : m ≤ n + 1)
    (h : List.replicate m c <+: erase (List.replicate (n + 1) c) s) :
    List.replicate m c <+: s := by
  have hw : List.replicate (n + 1) c ≠ [] := by simp
  induction s using erase_induction hw generalizing m with
  | nil => rwa [erase_nil] at h
  | word r _ =>
    have hrow : List.replicate m c <+: List.replicate (n + 1) c := by
      rw [List.prefix_replicate_iff]
      simpa using hmn
    exact hrow.trans (List.prefix_append _ r)
  | char d r hstart ih =>
    cases m with
    | zero => exact List.nil_prefix
    | succ m =>
      rw [erase_cons hw hstart, List.replicate_succ, List.cons_prefix_cons] at h
      rw [List.replicate_succ, List.cons_prefix_cons]
      exact ⟨h.1, ih (by omega) h.2⟩

/-- A word of one character, however often, is not left in any text. -/
theorem not_infix_erase_replicate (n : Nat) (c : Char) (s : List Char) :
    ¬ List.replicate (n + 1) c <:+: erase (List.replicate (n + 1) c) s := by
  have hw : List.replicate (n + 1) c ≠ [] := by simp
  induction s using erase_induction hw with
  | nil =>
    rw [erase_nil, List.infix_nil]
    exact hw
  | word r ih => rwa [erase_append_word hw]
  | char d r hstart ih =>
    rw [erase_cons hw hstart, List.infix_cons_iff, not_or]
    refine ⟨fun hpre => hstart ?_, ih⟩
    -- the row that is left begins with `d`, and the rest of it stood behind `d` before
    rw [List.replicate_succ, List.cons_prefix_cons] at hpre ⊢
    exact ⟨hpre.1, prefix_of_prefix_erase (Nat.le_succ n) hpre.2⟩

/-- Around an occurrence of a word with two different characters the word can stand once more: the
first character before it, and the others behind it. -/
theorem exists_erase_eq_self (hw : w ≠ []) (h : ∃ c ∈ w, ∃ d ∈ w, c ≠ d) :
    ∃ s, erase w s = w := by
  obtain ⟨a, rest, rfl⟩ := List.exists_cons_of_ne_nil hw
  have hstart : ¬ a :: rest <+: a :: (a :: rest ++ rest) := by
    intro hpre
    have hshift : a :: rest <+: a :: (a :: rest) := by
      refine List.prefix_of_prefix_length_le hpre ?_ (by simp)
      exact (List.prefix_cons_inj a).2 (List.prefix_append _ _)
    obtain ⟨c, hc, d, hd, hne⟩ := h
    exact hne ((eq_of_prefix_cons hshift c hc).trans (eq_of_prefix_cons hshift d hd).symm)
  have habsent : ¬ a :: rest <:+: rest := by
    intro hin
    have hle := hin.length_le
    rw [List.length_cons] at hle
    omega
  refine ⟨a :: (a :: rest ++ rest), ?_⟩
  rw [erase_cons hw hstart, erase_append_word hw, erase_of_absent hw habsent]

/-! ## Lines -/

theorem erase_sublist (hw : w ≠ []) (s : List Char) : (erase w s).Sublist s := by
  induction s using erase_induction hw with
  | nil => rw [erase_nil]
  | word r ih =>
    rw [erase_append_word hw]
    exact ih.trans (List.sublist_append_right w r)
  | char c r h ih =>
    rw [erase_cons hw h]
    exact ih.cons_cons c

theorem eraseEach_sublist {ws : List (List Char)} (hws : ∀ w ∈ ws, w ≠ []) (s : List Char) :
    (eraseEach ws s).Sublist s := by
  induction ws generalizing s with
  | nil => exact List.Sublist.refl s
  | cons w ws ih =>
    obtain ⟨hw, hrest⟩ := List.forall_mem_cons.1 hws
    rw [eraseEach_cons]
    exact (ih hrest _).trans (erase_sublist hw s)

/-- Words without a separator are taken out of each of the pieces between the separators. -/
theorem splitOn_eraseEach {ws : List (List Char)} (hws : ∀ w ∈ ws, w ≠ [] ∧ c ∉ w)
    (s : List Char) : splitOn c (eraseEach ws s) = (splitOn c s).map (eraseEach ws) := by
  have hplain : ∀ t, c ∉ t → splitOn c (eraseEach ws t) = [eraseEach ws t] := by
    intro t ht
    apply splitOn_of_not_mem
    intro hc
    exact ht ((eraseEach_sublist (fun w hw => (hws w hw).1) t).subset hc)
  induction hn : s.count c generalizing s with
  | zero =>
    have hs : c ∉ s := List.count_eq_zero.1 hn
    rw [hplain s hs, splitOn_of_not_mem hs, List.map_singleton]
  | succ n ih =>
    -- the text is cut at its first separator, where no word reaches across
    have hs : c ∈ s := List.count_pos_iff.1 (by omega)
    obtain ⟨t, r, rfl, ht⟩ := List.eq_append_cons_of_mem hs
    have hr : r.count c = n := by
      rw [List.count_append, List.count_cons_self, List.count_eq_zero.2 ht] at hn
      omega
    rw [eraseEach_append_separator hws, splitOn_append, splitOn_append, List.map_append,
      hplain t ht, splitOn_of_not_mem ht, ih r hr, List.map_singleton]

end Text

/-! ## Namespaces -/

namespace Imports

open Text (LiesAcross splitWord)

variable {names : List String}

theorem strip_eq_iff {code name other : String} :
    strip code name = other ↔ Text.erase (stripped name) code.toList = other.toList := by
  rw [← String.toList_inj, toList_strip]

/-- Taking a namespace out a second time changes nothing exactly if its prefix is not left, and it
is left exactly where pieces meet that stood apart before.  There are such texts for every
namespace but those of points alone. -/
theorem strip_again_iff (code name : String) :
    (strip (strip code name) name = strip code name
        ↔ ¬ stripped name <:+: (strip code name).toList)
      ∧ (stripped name <:+: (strip code name).toList
        ↔ LiesAcross (stripped name) (splitWord (stripped name) code.toList))
      ∧ ((∀ text, strip (strip text name) name = strip text name)
        ↔ ∀ c ∈ name.toList, c = '.') := by
  have hne := stripped_ne_nil name
  have hagain : ∀ text, strip (strip text name) name = strip text name
      ↔ ¬ stripped name <:+: (strip text name).toList := fun text => by
    rw [strip_eq_iff, Text.erase_eq_self_iff hne]
  refine ⟨hagain code, ?_, ?_⟩
  · rw [toList_strip]
    exact Text.infix_erase_iff hne code.toList
  · constructor
    · intro hall c hc
      by_contra hpoint
      -- the prefix has another character besides its point, so some text becomes the prefix
      obtain ⟨s, hs⟩ := Text.exists_erase_eq_self hne
        ⟨c, by simp [stripped, hc], '.', by simp [stripped], hpoint⟩
      have hnot := (hagain (.ofList s)).1 (hall _)
      rw [toList_strip, String.toList_ofList, hs] at hnot
      exact hnot (List.infix_refl _)
    · intro hpoints text
      have hrow : stripped name = List.replicate (name.toList.length + 1) '.' := by
        rw [stripped, List.eq_replicate_of_mem hpoints, List.length_replicate,
          List.replicate_succ']
      rw [hagain, toList_strip, hrow]
      exact Text.not_infix_erase_replicate _ _ _

/-- A prefix that stands inside the same prefix leaves that one behind. -/
theorem strip_not_idempotent :
    strip (strip "FoFoo.o.Bar" "Foo") "Foo" ≠ strip "FoFoo.o.Bar" "Foo" := by
  decide +kernel

/-! ## Lines -/

/-- The lines of some code, without the line feeds that end them. -/
def linesOf (code : String) : List String := (Text.splitOn '\n' code.toList).map .ofList

/-- Namespaces without a line feed are taken out of each line by itself: there are as many lines
as before, each of them keeps a part of what it was, in order, and what becomes of a line does not
depend on the others. -/
theorem stripAll_lines (code : String) (h : ∀ n ∈ names, '\n' ∉ n.toList) :
    linesOf (stripAll code names) = (linesOf code).map (stripAll · names)
      ∧ (linesOf (stripAll code names)).length = (linesOf code).length
      ∧ List.Forall₂ (fun line line' => line.toList.Sublist line'.toList)
        (linesOf (stripAll code names)) (linesOf code)
      ∧ ∀ (other : String) (i : Nat), (linesOf other)[i]? = (linesOf code)[i]? →
        (linesOf (stripAll other names))[i]? = (linesOf (stripAll code names))[i]? := by
  have hws := stripped_without_lineFeed h
  have hlines : ∀ text, linesOf (stripAll text names) = (linesOf text).map (stripAll · names) := by
    intro text
    have hline : ∀ s, stripAll (.ofList s) names
        = String.ofList (Text.eraseEach (names.map stripped) s) := fun s => by
      rw [← String.toList_inj, toList_stripAll, String.toList_ofList, String.toList_ofList]
    simp only [linesOf, toList_stripAll, Text.splitOn_eraseEach hws, List.map_map,
      Function.comp_def, hline]
  refine ⟨hlines code, ?_, ?_, fun other i hsame => ?_⟩
  · rw [hlines, List.length_map]
  · rw [hlines, List.forall₂_map_left_iff, List.forall₂_same]
    intro line _
    rw [toList_stripAll]
    exact Text.eraseEach_sublist (fun w hw => (hws w hw).1) line.toList
  · rw [hlines, hlines, List.getElem?_map, List.getElem?_map, hsame]

/-- A prefix that a line end cuts in two stays, and so does an empty line. -/
theorem stripAll_lines_cut :
    (∀ n ∈ ["Foo.Bar", "Foo"], '\n' ∉ n.toList)
      ∧ linesOf (stripAll "Foo.Bar.Baz\n\nFoo\n.Bar Foo.X" ["Foo.Bar", "Foo"])
        = ["Baz", "", "Foo", ".Bar X"] := by
  have h : ∀ n ∈ ["Foo.Bar", "Foo"], '\n' ∉ n.toList := by decide
  refine ⟨h, ?_⟩
  rw [(stripAll_lines _ h).1]
  decide +kernel

end Imports

end OpenApiClient
