/-
What stands behind the mark of a comment.

A comment reaches from its mark to the end of the line, and where a line ends is for the language
to say: it has five characters for that (`isLineEnd`).  A text of the document that is written
into a comment must not have one of them in it, unless what follows is marked too.

The summary is cut into lines before it is written, and all of these ends are among those that
it is cut at, so that nothing of it can stand outside the comment.  What is said of a parameter
and of the result is not cut.  It stands on the line that it begins on, and a further line of it
is a comment only if the text marks it itself (`comment_marked_iff`).

Blanks before a line do not count once a comment has been moved to the right.  They are put before
those lines only that a line feed ends, and not before an empty one, so the lines of the moved
text are the lines of the text, some of them behind blanks.

The thing to check is the tail: `Continues` asks for the lines of a text but the first.
-/
import OpenApiClient.Proofs.Literals
import Mathlib.Data.List.Forall2

set_option autoImplicit false

namespace OpenApiClient.CSharp

/-! ## Lines of code -/

/-- The lines of a text, as the language tells them apart.  An empty text has none. -/
def codeLines (s : List Char) : List (List Char) := if s = [] then [] else s.splitOnP isLineEnd

/-- A line that is a comment from its beginning on. -/
def IsMarked (line : List Char) : Prop := "///".toList <+: line

/-- A line that is a comment, but for blanks at its beginning. -/
def IsMarkedBehind (line : List Char) : Prop := IsMarked (line.dropWhile (· == ' '))

instance (line : List Char) : Decidable (IsMarked line) := inferInstanceAs (Decidable (_ <+: _))

instance (line : List Char) : Decidable (IsMarkedBehind line) :=
  inferInstanceAs (Decidable (IsMarked _))

/-- That a text stands on one line can be computed. -/
theorem forall_of_all_isLineEnd {s : List Char} (h : s.all (fun c => !isLineEnd c) = true) :
    ∀ c ∈ s, isLineEnd c = false := by
  simpa using h

theorem forall_tail_codeLines_iff {M : List Char → Prop} (s : List Char) :
    (∀ line ∈ (codeLines s).tail, M line) ↔ ∀ line ∈ (s.splitOnP isLineEnd).tail, M line := by
  unfold codeLines
  by_cases h : s = []
  · rw [if_pos h, h, List.splitOnP_nil]
    rfl
  · rw [if_neg h]

/-- Rows with a text in them are a text. -/
theorem intercalate_ne_nil {sep row : String} (h : row.toList ≠ []) (rows : List String) :
    (sep.intercalate (row :: rows)).toList ≠ [] := by
  cases rows with
  | nil =>
    rw [String.intercalate_singleton]
    exact h
  | cons next rows =>
    rw [String.intercalate_cons_cons, String.toList_append, String.toList_append]
    simp [h]

/-- The lines of rows that stand one below the other are the lines of the rows. -/
theorem forall_codeLines_rows_iff {M : List Char → Prop} {rows : List String}
    (hrows : ∀ row ∈ rows, row.toList ≠ []) :
    (∀ line ∈ codeLines ("\n".intercalate rows).toList, M line)
      ↔ ∀ row ∈ rows, ∀ line ∈ row.toList.splitOnP isLineEnd, M line := by
  induction rows with
  | nil => simp [codeLines]
  | cons row rows ih =>
    obtain ⟨hrow, hrest⟩ := List.forall_mem_cons.1 hrows
    cases rows with
    | nil =>
      rw [String.intercalate_singleton, codeLines, if_neg hrow]
      simp
    | cons next rows =>
      -- the first row ends where the line feed stands
      have hsplit : ("\n".intercalate (row :: next :: rows)).toList
          = row.toList ++ '\n' :: ("\n".intercalate (next :: rows)).toList := by
        rw [String.intercalate_cons_cons, String.toList_append, String.toList_append,
          List.append_assoc]
        rfl
      have hbelow : ("\n".intercalate (next :: rows)).toList ≠ [] :=
        intercalate_ne_nil (hrest next List.mem_cons_self) rows
      have hlines := ih hrest
      rw [codeLines, if_neg hbelow] at hlines
      rw [hsplit, codeLines, if_neg (by simp), List.splitOnP_append_cons _ _ (by decide),
        List.forall_mem_append, List.forall_mem_cons, hlines]

/-! ## Markup -/

/-- What may stand behind a text in a comment: nothing, or a tag. -/
def IsTag (s : List Char) : Prop := s = [] ∨ ∃ r, s = '<' :: r

/-- A character is written as it is, or it is one of three that are not. -/
theorem escapeMarkup_cases (c : Char) :
    escapeMarkup c = [c] ∨ (c ∈ ['&', '<', '>']
      ∧ ∃ r, escapeMarkup c = '&' :: r ∧ ∀ d ∈ r, isLineEnd d = false) := by
  unfold escapeMarkup
  split
  · rename_i h
    rw [h]
    exact .inr ⟨by simp, _, rfl, forall_of_all_isLineEnd rfl⟩
  split
  · rename_i h
    rw [h]
    exact .inr ⟨by simp, _, rfl, forall_of_all_isLineEnd rfl⟩
  split
  · rename_i h
    rw [h]
    exact .inr ⟨by simp, _, rfl, forall_of_all_isLineEnd rfl⟩
  · exact .inl rfl

theorem markup_cons (c : Char) (s : List Char) : markup (c :: s) = escapeMarkup c ++ markup s :=
  List.flatMap_cons

/-- How many slashes a line begins with is not changed by markup and a tag behind it. -/
theorem replicate_isPrefix_markup_iff (n : Nat) (line : List Char) {closing : List Char}
    (hclosing : IsTag closing) :
    List.replicate n '/' <+: markup line ++ closing ↔ List.replicate n '/' <+: line := by
  induction line generalizing n with
  | nil =>
    rcases hclosing with rfl | ⟨r, rfl⟩
    · rfl
    · cases n with
      | zero => simp
      | succ n => simp [List.replicate_succ, markup]
  | cons c line ih =>
    cases n with
    | zero => simp
    | succ n =>
      rw [List.replicate_succ, markup_cons, List.cons_prefix_cons]
      rcases escapeMarkup_cases c with h | ⟨hc, r, h, -⟩
      · rw [h, List.singleton_append, List.cons_append, List.cons_prefix_cons, ih]
      -- neither side begins with a slash, since a slash is written as it is
      · have hne : '/' ≠ c := by
          rintro rfl
          revert hc
          decide
        rw [h, List.cons_append, List.cons_append, List.cons_prefix_cons]
        simp [hne]

/-- The blanks that a line begins with are not changed by markup and a tag behind it. -/
theorem dropWhile_markup (line : List Char) {closing : List Char} (hclosing : IsTag closing) :
    (markup line ++ closing).dropWhile (· == ' ')
      = markup (line.dropWhile (· == ' ')) ++ closing := by
  induction line with
  | nil =>
    rcases hclosing with rfl | ⟨r, rfl⟩ <;> rfl
  | cons c line ih =>
    rw [markup_cons, List.append_assoc]
    -- an escaped character becomes a word without blanks, and any other stays as it is
    rcases escapeMarkup_cases c with h | ⟨hc, r, h, -⟩
    · rw [h, List.singleton_append]
      by_cases hblank : c = ' '
      · simp [hblank, ih]
      · simp [h, hblank, markup_cons]
    · have hne : c ≠ ' ' := by
        rintro rfl
        revert hc
        decide
      simp [h, hne, markup_cons]

/-- A test of lines that marked lines pass, and for which markup and tags do not count. -/
structure IsTest (M : List Char → Prop) : Prop where
  marked : ∀ {line}, IsMarked line → M line
  markup_iff : ∀ (line : List Char) {closing : List Char}, IsTag closing →
    (M (markup line ++ closing) ↔ M line)

theorem isTest_isMarked : IsTest IsMarked where
  marked h := h
  markup_iff line _ hclosing := replicate_isPrefix_markup_iff 3 line hclosing

theorem isTest_isMarkedBehind : IsTest IsMarkedBehind where
  marked := by
    rintro _ ⟨r, rfl⟩
    exact ⟨r, rfl⟩
  markup_iff line _ hclosing := by
    unfold IsMarkedBehind
    rw [dropWhile_markup line hclosing]
    exact isTest_isMarked.markup_iff _ hclosing

/-! ## Rows -/

/-- Tests that agree on what stands side by side agree on the lists. -/
theorem forall_iff_of_forall₂ {α β : Type} {R : α → β → Prop} {P : α → Prop} {Q : β → Prop}
    {as : List α} {bs : List β} (h : List.Forall₂ R as bs) (hPQ : ∀ a b, R a b → (P a ↔ Q b)) :
    (∀ b ∈ bs, Q b) ↔ ∀ a ∈ as, P a := by
  induction h with
  | nil => simp
  | cons hab _ ih => rw [List.forall_mem_cons, List.forall_mem_cons, hPQ _ _ hab, ih]

/-- What is put before a text stands on its first line. -/
theorem splitOnP_append_of_forall {opening : List Char}
    (h : ∀ c ∈ opening, isLineEnd c = false) (s : List Char) :
    (opening ++ s).splitOnP isLineEnd = (s.splitOnP isLineEnd).modifyHead (opening ++ ·) := by
  induction opening with
  | nil =>
    obtain ⟨line, lines, hlines⟩ := List.exists_cons_of_ne_nil (List.splitOnP_ne_nil isLineEnd s)
    rw [List.nil_append, hlines]
    rfl
  | cons c opening ih =>
    obtain ⟨hc, hrest⟩ := List.forall_mem_cons.1 h
    rw [List.cons_append, List.splitOnP_cons_eq_if_modifyHead, if_neg (by simp [hc]), ih hrest,
      List.modifyHead_modifyHead]
    rfl

/-- The lines of a text, and those of the text in markup with a tag behind it. -/
theorem forall₂_splitOnP_markup (text : List Char) {closing : List Char}
    (hclosing : ∀ c ∈ closing, isLineEnd c = false) (htag : IsTag closing) :
    List.Forall₂ (fun line written => ∃ tag, IsTag tag ∧ written = markup line ++ tag)
      (text.splitOnP isLineEnd) ((markup text ++ closing).splitOnP isLineEnd) := by
  induction text with
  | nil =>
    have hwritten : (markup [] ++ closing).splitOnP isLineEnd = [closing] :=
      List.splitOnP_eq_singleton hclosing
    rw [hwritten, List.splitOnP_nil]
    exact .cons ⟨closing, htag, rfl⟩ .nil
  | cons c text ih =>
    rw [markup_cons, List.append_assoc, List.splitOnP_cons_eq_if_modifyHead]
    by_cases hend : isLineEnd c
    · have hplain : escapeMarkup c = [c] := by
        rcases escapeMarkup_cases c with h | ⟨hc, -⟩
        · exact h
        · -- none of the three ends a line
          have hnone : ∀ d ∈ ['&', '<', '>'], isLineEnd d = false := forall_of_all_isLineEnd rfl
          rw [hnone c hc] at hend
          cases hend
      -- nothing stands before this end of a line, and no tag either
      rw [if_pos hend, hplain, List.singleton_append, List.splitOnP_cons_eq_if_modifyHead,
        if_pos hend]
      exact .cons ⟨[], .inl rfl, rfl⟩ ih
    · have hescape : ∀ d ∈ escapeMarkup c, isLineEnd d = false := by
        rcases escapeMarkup_cases c with h | ⟨-, r, h, hr⟩
        · simpa [h] using hend
        · rw [h]
          exact List.forall_mem_cons.2 ⟨by decide, hr⟩
      -- the character belongs to the first of the lines that are left, on both sides
      obtain ⟨line, lines, hlines⟩ :=
        List.exists_cons_of_ne_nil (List.splitOnP_ne_nil isLineEnd text)
      obtain ⟨row, rows, hrows⟩ := List.exists_cons_of_ne_nil
        (List.splitOnP_ne_nil isLineEnd (markup text ++ closing))
      rw [hlines, hrows] at ih
      obtain ⟨⟨tag, htag, hline⟩, hrest⟩ := List.forall₂_cons.1 ih
      rw [if_neg hend, splitOnP_append_of_forall hescape, hlines, hrows]
      refine .cons ⟨tag, htag, ?_⟩ hrest
      rw [hline, markup_cons, List.append_assoc]

/-- A row with a text in it is a comment if all lines of the text but the first are. -/
theorem forall_row_iff {M : List Char → Prop} (hM : IsTest M) {opening closing : List Char}
    (text : List Char) (hmark : IsMarked opening) (hopening : ∀ c ∈ opening, isLineEnd c = false)
    (hclosing : ∀ c ∈ closing, isLineEnd c = false) (htag : IsTag closing) :
    (∀ line ∈ (opening ++ (markup text ++ closing)).splitOnP isLineEnd, M line)
      ↔ ∀ line ∈ (text.splitOnP isLineEnd).tail, M line := by
  have hwritten := forall₂_splitOnP_markup text hclosing htag
  obtain ⟨line, lines, hlines⟩ := List.exists_cons_of_ne_nil (List.splitOnP_ne_nil isLineEnd text)
  obtain ⟨row, rows, hrows⟩ := List.exists_cons_of_ne_nil
    (List.splitOnP_ne_nil isLineEnd (markup text ++ closing))
  rw [hlines, hrows] at hwritten
  rw [splitOnP_append_of_forall hopening, hlines, hrows]
  -- the first line is marked before the text begins
  have hfirst : M (opening ++ row) := hM.marked (hmark.trans (List.prefix_append opening row))
  have hrest := forall_iff_of_forall₂ (P := M) (Q := M) (List.forall₂_cons.1 hwritten).2 (by
    rintro line _ ⟨tag, htag, rfl⟩
    exact (hM.markup_iff line htag).symm)
  change (∀ line ∈ (opening ++ row) :: rows, M line) ↔ ∀ line ∈ lines, M line
  rw [List.forall_mem_cons, hrest]
  exact and_iff_right hfirst

/-! ## Comments -/

/-- The lines of the descriptions and of what is said of the result pass a test, but for the first
of each. -/
def DocComment.Continues (d : DocComment) (M : List Char → Prop) : Prop :=
  (∀ p ∈ d.params, ∀ line ∈ (codeLines (Text.trim p.text.toList)).tail, M line)
    ∧ ∀ line ∈ (codeLines (d.returns.getD "").toList).tail, M line

/-- A text on one line that is marked is a comment. -/
theorem forall_line_of_marked {M : List Char → Prop} (hM : IsTest M) {row : List Char}
    (hmark : IsMarked row) (hrow : ∀ c ∈ row, isLineEnd c = false) :
    ∀ line ∈ row.splitOnP isLineEnd, M line := by
  rw [List.splitOnP_eq_singleton hrow]
  simpa using hM.marked hmark

/-- The ends of lines that a summary is cut at are all that the language has. -/
theorem isLineEnd_of_text {c : Char} (h : Text.isLineEnd c = false) : isLineEnd c = false := by
  by_contra hend
  rw [Bool.not_eq_false, isLineEnd, List.contains_iff_mem] at hend
  have hall : ['\n', '\r', '\u0085', '\u2028', '\u2029'].all Text.isLineEnd = true := rfl
  rw [List.all_eq_true.1 hall c hend] at h
  cases h

theorem mem_of_mem_trim {s : List Char} {c : Char} (h : c ∈ Text.trim s) : c ∈ s := by
  unfold Text.trim Text.trimEnd Text.trimStart at h
  rw [List.mem_reverse] at h
  have hend := (List.dropWhile_sublist _).subset h
  rw [List.mem_reverse] at hend
  exact (List.dropWhile_sublist _).subset hend

theorem isLineEnd_markup {s : List Char} (h : ∀ c ∈ s, isLineEnd c = false) :
    ∀ c ∈ markup s, isLineEnd c = false := by
  intro c hc
  obtain ⟨d, hd, hc⟩ := List.mem_flatMap.1 hc
  rcases escapeMarkup_cases d with hplain | ⟨-, r, hr, hends⟩
  · rw [hplain, List.mem_singleton] at hc
    rw [hc]
    exact h d hd
  · rw [hr] at hc
    rcases List.mem_cons.1 hc with rfl | hc
    · decide
    · exact hends c hc

/-- A line of a summary is marked, and one line. -/
theorem summaryLine_spec {line : List Char} (h : ∀ c ∈ line, Text.isLineEnd c = false) :
    IsMarked (summaryLine line).toList ∧ ∀ c ∈ (summaryLine line).toList, isLineEnd c = false := by
  have hends : ∀ c ∈ markup (Text.trim line), isLineEnd c = false :=
    isLineEnd_markup fun c hc => isLineEnd_of_text (h c (mem_of_mem_trim hc))
  unfold summaryLine
  split
  · exact ⟨List.prefix_refl _, forall_of_all_isLineEnd rfl⟩
  · rw [String.toList_ofList]
    have hmark : IsMarked "/// ".toList := by decide
    refine ⟨hmark.trans (List.prefix_append _ _), ?_⟩
    rw [List.forall_mem_append]
    exact ⟨forall_of_all_isLineEnd rfl, hends⟩

theorem summaryLines_spec (d : DocComment) :
    ∀ row ∈ d.summaryLines, IsMarked row.toList ∧ ∀ c ∈ row.toList, isLineEnd c = false := by
  have hopening : IsMarked "/// <summary>".toList
      ∧ ∀ c ∈ "/// <summary>".toList, isLineEnd c = false :=
    ⟨by decide, forall_of_all_isLineEnd rfl⟩
  have hclosing : IsMarked "/// </summary>".toList
      ∧ ∀ c ∈ "/// </summary>".toList, isLineEnd c = false :=
    ⟨by decide, forall_of_all_isLineEnd rfl⟩
  unfold DocComment.summaryLines
  split
  · simp
  · intro row hrow
    rcases List.mem_append.1 hrow with hrow | hrow
    · rcases List.mem_cons.1 hrow with rfl | hrow
      · exact hopening
      · obtain ⟨line, hline, rfl⟩ := List.mem_map.1 hrow
        exact summaryLine_spec (Text.lines_noLineEnd _ line hline)
    · rw [List.mem_singleton.1 hrow]
      exact hclosing

/-- The row about a parameter is a comment if all lines of the description but the first are. -/
theorem forall_paramLine_iff {M : List Char → Prop} (hM : IsTest M) (p : ParamNote)
    (hname : ∀ c ∈ p.name.toList, isLineEnd c = false) :
    (∀ line ∈ (DocComment.paramLine p).toList.splitOnP isLineEnd, M line)
      ↔ ∀ line ∈ (codeLines (Text.trim p.text.toList)).tail, M line := by
  -- the text stands between an opening that is marked and a closing tag
  have hrow : (DocComment.paramLine p).toList
      = ("/// <param name=\"".toList ++ p.name.toList ++ "\">".toList)
        ++ (markup (Text.trim p.text.toList) ++ "</param>".toList) := by
    have htext : (String.ofList (markup (Text.trim p.text.toList))).toList
        = markup (Text.trim p.text.toList) := String.toList_ofList
    unfold DocComment.paramLine
    rw [String.toList_append, String.toList_append, String.toList_append, String.toList_append,
      htext, List.append_assoc]
  have hopening : ∀ c ∈ "/// <param name=\"".toList ++ p.name.toList ++ "\">".toList,
      isLineEnd c = false := by
    rw [List.forall_mem_append, List.forall_mem_append]
    exact ⟨⟨forall_of_all_isLineEnd rfl, hname⟩, forall_of_all_isLineEnd rfl⟩
  have hmark : IsMarked "/// <param name=\"".toList := by decide
  have htag : IsTag "</param>".toList := .inr ⟨"/param>".toList, by decide⟩
  rw [hrow, forall_tail_codeLines_iff]
  refine forall_row_iff hM _ ?_ hopening (forall_of_all_isLineEnd rfl) htag
  rw [List.append_assoc]
  exact hmark.trans (List.prefix_append _ _)

/-- The row about the result is a comment if all lines of what is said there but the first are. -/
theorem forall_returnsLines_iff {M : List Char → Prop} (hM : IsTest M) (d : DocComment) :
    (∀ row ∈ d.returnsLines, ∀ line ∈ row.toList.splitOnP isLineEnd, M line)
      ↔ ∀ line ∈ (codeLines (d.returns.getD "").toList).tail, M line := by
  unfold DocComment.returnsLines
  split
  · rename_i hempty
    rw [hempty]
    simp [codeLines]
  · have hrow : ("/// <returns>" ++ String.ofList (markup (d.returns.getD "").toList)
        ++ "</returns>").toList
        = "/// <returns>".toList
          ++ (markup (d.returns.getD "").toList ++ "</returns>".toList) := by
      have htext : (String.ofList (markup (d.returns.getD "").toList)).toList
          = markup (d.returns.getD "").toList := String.toList_ofList
      rw [String.toList_append, String.toList_append, htext, List.append_assoc]
    have htag : IsTag "</returns>".toList := .inr ⟨"/returns>".toList, by decide⟩
    rw [List.forall_mem_singleton, hrow, forall_tail_codeLines_iff]
    exact forall_row_iff hM _ (by decide) (forall_of_all_isLineEnd rfl)
      (forall_of_all_isLineEnd rfl) htag

/-- A comment is one line for line if the texts of the document continue it as one. -/
theorem forall_render_iff {M : List Char → Prop} (hM : IsTest M) (d : DocComment)
    (hnames : ∀ p ∈ d.params, ∀ c ∈ p.name.toList, isLineEnd c = false) :
    (∀ line ∈ codeLines d.render.toList, M line) ↔ d.Continues M := by
  -- no row is empty, so the lines of the comment are the lines of its rows
  have hrows : ∀ row ∈ d.summaryLines ++ d.params.map DocComment.paramLine ++ d.returnsLines,
      row.toList ≠ [] := by
    rw [List.forall_mem_append, List.forall_mem_append, List.forall_mem_map]
    refine ⟨⟨fun row hrow => ?_, fun p _ => ?_⟩, ?_⟩
    · obtain ⟨r, hr⟩ := (summaryLines_spec d row hrow).1
      rw [← hr]
      simp
    · unfold DocComment.paramLine
      simp
    · unfold DocComment.returnsLines
      split <;> simp
  have hsummary : ∀ row ∈ d.summaryLines, ∀ line ∈ row.toList.splitOnP isLineEnd, M line := by
    intro row hrow
    obtain ⟨hmark, hline⟩ := summaryLines_spec d row hrow
    exact forall_line_of_marked hM hmark hline
  have hparams : (∀ row ∈ d.params.map DocComment.paramLine,
      ∀ line ∈ row.toList.splitOnP isLineEnd, M line)
        ↔ ∀ p ∈ d.params, ∀ line ∈ (codeLines (Text.trim p.text.toList)).tail, M line := by
    rw [List.forall_mem_map]
    exact forall₂_congr fun p hp => forall_paramLine_iff hM p (hnames p hp)
  rw [DocComment.render, forall_codeLines_rows_iff hrows, List.forall_mem_append,
    List.forall_mem_append, forall_returnsLines_iff hM, hparams, DocComment.Continues]
  exact and_congr_left fun _ => and_iff_right hsummary

/-! ## Moving a comment -/

/-- A line behind some levels of blanks, or as it is. -/
def IsMoved (n : Nat) (line moved : List Char) : Prop :=
  moved = line ∨ moved = indentation n ++ line

/-- The lines of a text that is moved to the right are moved lines of it; its first one is only
moved if the text begins with it. -/
theorem splitOnP_shift (n : Nat) (start : Bool) (s : List Char) :
    ∃ first lines first' lines', s.splitOnP isLineEnd = first :: lines
      ∧ (shift n start s).splitOnP isLineEnd = first' :: lines'
      ∧ (first' = first ∨ start ∧ first' = indentation n ++ first)
      ∧ List.Forall₂ (IsMoved n) lines lines' := by
  induction s generalizing start with
  | nil => exact ⟨[], [], [], [], rfl, rfl, .inl rfl, .nil⟩
  | cons c s ih =>
    by_cases hc : c = '\n'
    · obtain ⟨first, lines, first', lines', h, h', hfirst, hlines⟩ := ih true
      have hend : isLineEnd '\n' := by decide
      rw [hc, shift_newline, List.splitOnP_cons_eq_if_modifyHead, if_pos hend, h,
        List.splitOnP_cons_eq_if_modifyHead, if_pos hend, h']
      exact ⟨_, _, _, _, rfl, rfl, .inl rfl, .cons (hfirst.imp id And.right) hlines⟩
    · -- behind its first character the text is within a line, which begins as it did
      obtain ⟨first, lines, first', lines', h, h', hfirst, hlines⟩ := ih false
      obtain rfl : first' = first := by simpa using hfirst
      have hblanks : ∀ d ∈ (if start then indentation n else []), isLineEnd d = false := by
        intro d hd
        split at hd
        · rw [eq_blank_of_mem_indentation hd]
          decide
        · cases hd
      have hmoved : ∀ line : List Char, (if start then indentation n else []) ++ line = line
          ∨ start ∧ (if start then indentation n else []) ++ line = indentation n ++ line := by
        intro line
        cases start <;> simp
      rw [shift_cons hc, splitOnP_append_of_forall hblanks, List.splitOnP_cons_eq_if_modifyHead,
        List.splitOnP_cons_eq_if_modifyHead, h, h']
      by_cases hend : isLineEnd c
      · rw [if_pos hend, if_pos hend]
        exact ⟨_, _, _, _, rfl, rfl, hmoved [], .cons (.inl rfl) hlines⟩
      · rw [if_neg hend, if_neg hend]
        exact ⟨_, _, _, _, rfl, rfl, hmoved (c :: first'), hlines⟩

theorem isMarkedBehind_iff_of_isMoved {n : Nat} {line moved : List Char}
    (h : IsMoved n line moved) : IsMarkedBehind moved ↔ IsMarkedBehind line := by
  rcases h with rfl | rfl
  · rfl
  · unfold IsMarkedBehind
    rw [List.dropWhile_append_of_pos]
    intro c hc
    rw [eq_blank_of_mem_indentation hc]
    rfl

/-- Behind blanks, a text that is moved to the right has the same lines. -/
theorem forall_indent_iff (level : Nat) (code : String) :
    (∀ line ∈ codeLines (indent level code).toList, IsMarkedBehind line)
      ↔ ∀ line ∈ codeLines code.toList, IsMarkedBehind line := by
  rw [toList_indent]
  generalize code.toList = s
  obtain ⟨first, lines, first', lines', h, h', hfirst, hlines⟩ := splitOnP_shift level true s
  have hhead : IsMoved level first first' := hfirst.imp id And.right
  have hall := List.Forall₂.cons hhead hlines
  -- an empty text has no lines, and is not moved
  have hempty : shift level true s = [] ↔ s = [] := by
    cases s with
    | nil => simp [shift]
    | cons c s =>
      rw [shift]
      split <;> simp
  unfold codeLines
  by_cases hs : s = []
  · rw [if_pos hs, if_pos (hempty.2 hs)]
  · rw [if_neg hs, if_neg (mt hempty.1 hs), h, h']
    exact forall_iff_of_forall₂ hall fun line moved hmoved =>
      (isMarkedBehind_iff_of_isMoved hmoved).symm

/-- A comment stays one, line for line, exactly if the descriptions of its parameters and what is
said of the result do: every further line of such a text has to bring the mark with it.  The
summary does not count, whatever is in it, and neither do the blanks that stand before the lines
when the comment is moved to the right, as long as they are allowed in the texts too. -/
theorem comment_marked_iff (d : DocComment)
    (hnames : ∀ p ∈ d.params, ∀ c ∈ p.name.toList, isLineEnd c = false) :
    ((∀ line ∈ codeLines d.render.toList, IsMarked line) ↔ d.Continues IsMarked)
      ∧ ∀ level, (∀ line ∈ codeLines (indent level d.render).toList, IsMarkedBehind line)
        ↔ d.Continues IsMarkedBehind := by
  refine ⟨forall_render_iff isTest_isMarked d hnames, fun level => ?_⟩
  rw [forall_indent_iff]
  exact forall_render_iff isTest_isMarkedBehind d hnames

/-- A comment with ends of lines in its summary, and a description that goes on as a comment. -/
def petComment : DocComment where
  summary := some "A pet.\u2028It has\r\na name;\u0085and an <age>."
  params := [⟨"id", "The id.\r/// Required."⟩]
  returns := some "The pet."

theorem comment_marked_iff_pet :
    (∀ line ∈ codeLines petComment.render.toList, IsMarked line)
      ∧ ∀ line ∈ codeLines (indent 2 petComment.render).toList, IsMarkedBehind line := by
  have hnames : ∀ p ∈ petComment.params, ∀ c ∈ p.name.toList, isLineEnd c = false :=
    List.forall_mem_singleton.2 (forall_of_all_isLineEnd rfl)
  obtain ⟨hrender, hindent⟩ := comment_marked_iff petComment hnames
  have hplain : petComment.Continues IsMarked := by
    unfold DocComment.Continues
    decide +kernel
  have hbehind : petComment.Continues IsMarkedBehind := by
    unfold DocComment.Continues
    decide +kernel
  exact ⟨hrender.2 hplain, (hindent 2).2 hbehind⟩

/-- The second line of a description stands in the code. -/
theorem comment_left :
    let d : DocComment := { params := [⟨"id", "The id.\nRequired."⟩] }
    "Required.</param>".toList ∈ codeLines d.render.toList
      ∧ ¬ IsMarked "Required.</param>".toList
      ∧ "    Required.</param>".toList ∈ codeLines (indent 1 d.render).toList
      ∧ ¬ IsMarkedBehind "    Required.</param>".toList := by
  decide +kernel

end OpenApiClient.CSharp
