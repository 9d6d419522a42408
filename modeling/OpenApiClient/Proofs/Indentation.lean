/-
Indentation, line by line and one character at a time.

`indent` cuts a text into lines, moves each of them and joins them again.  Read from left to
right it is a scan with one bit of state: whether the next character is the first of its line.
In that form it is clear that levels add up when a text is moved again (`shift_shift`), and what
becomes of a text with a mark after it (`shift_append_cons`).

Such a text need not be one line itself.  `moved` is what the scan makes of it: every line of it
but the first has blanks before it, and so has the last one if it is empty, because the mark
stands on it.

Line by line, what matters is that cutting and joining are inverse: the lines of a moved text are
the moved lines (`splitOn_indentChars`).  A declaration moves its members, and is moved itself when
it comes to stand in a namespace, so this happens several times to one text.  The weak spot are
empty lines, of which a block may consist and with which it may begin or end.  They stay empty at
every level.  That is why blocks with empty lines between them can be moved one by one
(`indent_intercalate`), and why a text can be moved back: blanks stand where there was something to
move, and only there.
-/
import OpenApiClient.CSharp.Declaration

set_option autoImplicit false

namespace OpenApiClient.CSharp

/-! ## Blanks -/

theorem eq_blank_of_mem_indentation {n : Nat} {c : Char} (h : c ∈ indentation n) : c = ' ' := by
  induction n with
  | zero => cases h
  | succ n ih =>
    rcases List.mem_append.1 h with h | h
    · simpa [indentUnit] using h
    · exact ih h

theorem length_indentation (n : Nat) : (indentation n).length = 4 * n := by
  induction n with
  | zero => rfl
  | succ n ih =>
    rw [indentation, List.length_append, ih]
    have hunit : indentUnit.length = 4 := rfl
    omega

theorem indentation_append (m n : Nat) : indentation m ++ indentation n = indentation (n + m) := by
  induction m with
  | zero => rfl
  | succ m ih => rw [indentation, List.append_assoc, ih, ← Nat.add_assoc, indentation]

theorem indentation_eq_replicate (level : Nat) :
    indentation level = List.replicate (4 * level) ' ' :=
  List.eq_replicate_iff.2 ⟨length_indentation level, fun _ => eq_blank_of_mem_indentation⟩

theorem newline_not_mem_indentation (n : Nat) : '\n' ∉ indentation n := by
  intro h
  have heq := eq_blank_of_mem_indentation h
  revert heq
  decide

/-! ## The scan -/

/-- A text moved to the right by a number of levels; `start` says whether its first character is
the first one of its line. -/
def shift (n : Nat) : Bool → List Char → List Char
  | _, [] => []
  | start, c :: r =>
    if c = '\n' then '\n' :: shift n true r
    else (if start then indentation n else []) ++ c :: shift n false r

theorem shift_newline (n : Nat) (start : Bool) (r : List Char) :
    shift n start ('\n' :: r) = '\n' :: shift n true r := by
  rw [shift, if_pos rfl]

theorem shift_cons {c : Char} (h : c ≠ '\n') (n : Nat) (start : Bool) (r : List Char) :
    shift n start (c :: r) = (if start then indentation n else []) ++ c :: shift n false r := by
  rw [shift, if_neg h]

/-- Within a line nothing moves. -/
theorem shift_of_newline_not_mem {s : List Char} (h : '\n' ∉ s) (n : Nat) (t : List Char) :
    shift n false (s ++ t) = s ++ shift n false t := by
  induction s with
  | nil => rfl
  | cons c s ih =>
    rw [List.mem_cons, not_or] at h
    rw [List.cons_append, shift_cons (Ne.symm h.1), ih h.2]
    rfl

/-- Blanks at the start of a line move with it. -/
theorem shift_indentation {c : Char} (hc : c ≠ '\n') (m n : Nat) (t : List Char) :
    shift m true (indentation n ++ c :: t) = indentation (n + m) ++ c :: shift m false t := by
  cases n with
  | zero => rw [Nat.zero_add, indentation, List.nil_append, shift_cons hc, if_pos rfl]
  | succ n =>
    have hline : '\n' ∉ indentation (n + 1) ++ [c] := by
      rw [List.mem_append, List.mem_singleton, not_or]
      exact ⟨newline_not_mem_indentation _, Ne.symm hc⟩
    have hsplit : indentation (n + 1) ++ c :: t = (indentation (n + 1) ++ [c]) ++ t := by
      rw [List.append_assoc, List.singleton_append]
    -- the first blank is the first character of the line, and the rest is within it
    have hfirst : ∀ r, shift m true (indentation (n + 1) ++ r)
        = indentation m ++ shift m false (indentation (n + 1) ++ r) := fun r => by
      change shift m true (' ' :: _) = indentation m ++ shift m false (' ' :: _)
      rw [shift_cons (by decide), shift_cons (by decide)]
      rfl
    rw [hfirst, hsplit, shift_of_newline_not_mem hline, ← List.append_assoc, ← List.append_assoc,
      indentation_append, List.append_assoc, List.singleton_append]

/-- Levels add up. -/
theorem shift_shift (m n : Nat) (start : Bool) (s : List Char) :
    shift m start (shift n start s) = shift (n + m) start s := by
  induction s generalizing start with
  | nil => rfl
  | cons c s ih =>
    by_cases h : c = '\n'
    · rw [h, shift_newline, shift_newline, shift_newline, ih]
    · rw [shift_cons h, shift_cons h]
      cases start with
      | false =>
        change shift m false (c :: shift n false s) = _
        rw [shift_cons h, ih]
        rfl
      | true => rw [if_pos rfl, if_pos rfl, shift_indentation h, ih]

theorem shift_append_newline (n : Nat) (start : Bool) (s t : List Char) :
    shift n start (s ++ '\n' :: t) = shift n start s ++ '\n' :: shift n true t := by
  induction s generalizing start with
  | nil => exact shift_newline n start t
  | cons c s ih =>
    by_cases hc : c = '\n'
    · rw [hc, List.cons_append, shift_newline, shift_newline, ih, List.cons_append]
    · rw [List.cons_append, shift_cons hc, shift_cons hc, ih, List.append_assoc, List.cons_append]

/-- Line feeds do not move, and what follows them is moved from the start of a line. -/
theorem shift_append_newlines (n k : Nat) (start : Bool) (s t : List Char) :
    shift n start (s ++ (List.replicate (k + 1) '\n' ++ t))
      = shift n start s ++ (List.replicate (k + 1) '\n' ++ shift n true t) := by
  induction k generalizing start s with
  | zero => exact shift_append_newline n start s t
  | succ k ih =>
    have hempty := ih true []
    rw [List.replicate_succ, List.cons_append, shift_append_newline]
    exact congrArg (fun r => shift n start s ++ '\n' :: r) hempty

/-! ## Lines -/

theorem joinWith_append_cons (sep a p : List Char) (ps : List (List Char)) :
    Text.joinWith sep ((a ++ p) :: ps) = a ++ Text.joinWith sep (p :: ps) := by
  cases ps with
  | nil => rfl
  | cons q qs => simp only [Text.joinWith, List.append_assoc]

/-- The lines of a text, of which all or all but the first are moved. -/
theorem joinWith_indentLine {s p : List Char} {ps : List (List Char)} (n : Nat)
    (h : Text.splitOn '\n' s = p :: ps) :
    Text.joinWith ['\n'] (p :: ps.map (indentLine n)) = shift n false s
      ∧ Text.joinWith ['\n'] ((p :: ps).map (indentLine n)) = shift n true s := by
  induction s generalizing p ps with
  | nil =>
    cases h
    exact ⟨rfl, rfl⟩
  | cons c s ih =>
    obtain ⟨q, qs, hq⟩ := List.exists_cons_of_ne_nil (Text.splitOn_ne_nil '\n' s)
    obtain ⟨hfalse, htrue⟩ := ih hq
    rw [Text.splitOn, hq] at h
    by_cases hc : c = '\n'
    · rw [if_pos hc] at h
      cases h
      rw [hc, shift_newline, shift_newline, ← htrue]
      exact ⟨rfl, rfl⟩
    · rw [if_neg hc] at h
      cases h
      rw [shift_cons hc, shift_cons hc, ← hfalse]
      refine ⟨joinWith_append_cons _ [c] q _, ?_⟩
      have hline : indentLine n (c :: q) = (indentation n ++ [c]) ++ q := by
        rw [List.append_assoc]
        rfl
      rw [List.map_cons, hline, joinWith_append_cons, List.append_assoc]
      rfl

/-- Moving the lines of a text is the scan that begins at the start of a line. -/
theorem indentChars_eq_shift (n : Nat) (s : List Char) : indentChars n s = shift n true s := by
  obtain ⟨p, ps, hp⟩ := List.exists_cons_of_ne_nil (Text.splitOn_ne_nil '\n' s)
  rw [indentChars, hp, (joinWith_indentLine n hp).2]

theorem toList_indent (n : Nat) (code : String) :
    (indent n code).toList = shift n true code.toList := by
  rw [indent, String.toList_ofList, indentChars_eq_shift]

theorem indentLine_eq_nil_iff {level : Nat} {line : List Char} :
    indentLine level line = [] ↔ line = [] := by
  cases line <;> simp [indentLine]

theorem newline_not_mem_indentLine {level : Nat} {line : List Char} (h : '\n' ∉ line) :
    '\n' ∉ indentLine level line := by
  unfold indentLine
  split
  · exact h
  · rw [List.mem_append, not_or]
    exact ⟨newline_not_mem_indentation level, h⟩

/-- The lines of a moved text are the moved lines. -/
theorem splitOn_indentChars (level : Nat) (s : List Char) :
    Text.splitOn '\n' (indentChars level s) = (Text.splitOn '\n' s).map (indentLine level) := by
  apply Text.splitOn_joinWith
  · rw [ne_eq, List.map_eq_nil_iff]
    exact Text.splitOn_ne_nil '\n' s
  · intro line hline
    obtain ⟨given, hgiven, rfl⟩ := List.mem_map.1 hline
    exact newline_not_mem_indentLine (Text.not_mem_of_mem_splitOn hgiven)

theorem indentChars_zero (s : List Char) : indentChars 0 s = s := by
  have hline : indentLine 0 = id := by
    funext line
    simp [indentLine, indentation]
  rw [indentChars, hline, List.map_id, Text.joinWith_splitOn]

/-! ## Texts within a line -/

/-- A text that something stands after on its last line, moved to the right. -/
def moved (n : Nat) : Bool → List Char → List Char
  | start, [] => if start then indentation n else []
  | start, c :: r =>
    if c = '\n' then '\n' :: moved n true r
    else (if start then indentation n else []) ++ c :: moved n false r

theorem moved_newline (n : Nat) (start : Bool) (r : List Char) :
    moved n start ('\n' :: r) = '\n' :: moved n true r := by
  rw [moved, if_pos rfl]

theorem moved_cons {c : Char} (h : c ≠ '\n') (n : Nat) (start : Bool) (r : List Char) :
    moved n start (c :: r) = (if start then indentation n else []) ++ c :: moved n false r := by
  rw [moved, if_neg h]

theorem shift_append_cons {c : Char} (hc : c ≠ '\n') (n : Nat) (start : Bool) (s t : List Char) :
    shift n start (s ++ c :: t) = moved n start s ++ c :: shift n false t := by
  induction s generalizing start with
  | nil => rw [List.nil_append, shift_cons hc, moved]
  | cons d s ih =>
    rw [List.cons_append]
    by_cases h : d = '\n'
    · rw [h, shift_newline, moved_newline, ih, List.cons_append]
    · rw [shift_cons h, moved_cons h, ih, List.append_assoc, List.cons_append]

theorem moved_append_cons {c : Char} (hc : c ≠ '\n') (n : Nat) (start : Bool) (s t : List Char) :
    moved n start (s ++ c :: t) = moved n start s ++ c :: moved n false t := by
  induction s generalizing start with
  | nil => rw [List.nil_append, moved_cons hc, moved]
  | cons d s ih =>
    rw [List.cons_append]
    by_cases h : d = '\n'
    · rw [h, moved_newline, moved_newline, ih, List.cons_append]
    · rw [moved_cons h, moved_cons h, ih, List.append_assoc, List.cons_append]

theorem moved_moved (m n : Nat) (start : Bool) (s : List Char) :
    moved m start (moved n start s) = moved (n + m) start s := by
  -- with a mark after it the text is scanned like any other
  have hmark : ∀ (k : Nat) (t : List Char),
      shift k start (t ++ ['"']) = moved k start t ++ ['"'] := fun k t =>
    shift_append_cons (by decide) k start t []
  have hlevels := shift_shift m n start (s ++ ['"'])
  rw [hmark, hmark, hmark] at hlevels
  exact List.append_cancel_right hlevels

theorem moved_zero (start : Bool) (s : List Char) : moved 0 start s = s := by
  induction s generalizing start with
  | nil => cases start <;> rfl
  | cons c s ih =>
    by_cases h : c = '\n'
    · rw [h, moved_newline, ih]
    · rw [moved_cons h, ih]
      cases start <;> rfl

/-- A text on one line is not moved. -/
theorem moved_eq_self {s : List Char} (h : '\n' ∉ s) (n : Nat) : moved n false s = s := by
  induction s with
  | nil => rfl
  | cons c s ih =>
    rw [List.mem_cons, not_or] at h
    rw [moved_cons (Ne.symm h.1), ih h.2]
    rfl

/-! ## Moving back -/

/-- A line without the blanks of a number of levels, if they stand at its start; an empty line stays
empty. -/
def outdentLine? (level : Nat) (line : List Char) : Option (List Char) :=
  if line.isEmpty then some line else Text.dropWord? (List.replicate (4 * level) ' ') line

/-- A text moved to the left by a number of levels, if there are the blanks for it at the start of
every line that is not empty. -/
def outdent? (level : Nat) (code : String) : Option String :=
  ((Text.splitOn '\n' code.toList).mapM (outdentLine? level)).map
    fun lines => .ofList (Text.joinWith ['\n'] lines)

theorem outdentLine?_indentLine (level : Nat) (line : List Char) :
    outdentLine? level (indentLine level line) = some line := by
  cases line with
  | nil => rfl
  | cons c r =>
    have hmoved : indentLine level (c :: r) = List.replicate (4 * level) ' ' ++ c :: r := by
      rw [← indentation_eq_replicate]
      rfl
    rw [outdentLine?, hmoved, Text.dropWord?_append]
    simp

theorem mapM_outdentLine? (level : Nat) (lines : List (List Char)) :
    (lines.map (indentLine level)).mapM (outdentLine? level) = some lines := by
  induction lines with
  | nil => rfl
  | cons line lines ih =>
    rw [List.map_cons, List.mapM_cons, outdentLine?_indentLine, ih]
    rfl

/-- A text that was moved can be moved back. -/
theorem outdent?_indent (level : Nat) (code : String) :
    outdent? level (indent level code) = some code := by
  rw [outdent?, indent, String.toList_ofList, splitOn_indentChars, mapM_outdentLine?,
    Option.map_some, Text.joinWith_splitOn, String.ofList_toList]

/-! ## Blocks between line feeds -/

/-- Blocks with line feeds between them, however many, may be moved one by one. -/
theorem indent_intercalate {sep : String} {k : Nat}
    (hsep : sep.toList = List.replicate (k + 1) '\n')
    (level : Nat) (blocks : List String) :
    indent level (sep.intercalate blocks) = sep.intercalate (blocks.map (indent level)) := by
  induction blocks with
  | nil => rfl
  | cons b blocks ih =>
    cases blocks with
    | nil => simp only [List.map_cons, List.map_nil, String.intercalate_singleton]
    | cons b' blocks =>
      rw [← String.toList_inj] at ih ⊢
      rw [toList_indent] at ih ⊢
      simp only [List.map_cons, String.intercalate_cons_cons, String.toList_append, hsep,
        List.append_assoc] at ih ⊢
      rw [shift_append_newlines, ih, toList_indent]

theorem indent_eq_empty_iff {level : Nat} {code : String} : indent level code = "" ↔ code = "" := by
  rw [← String.toList_eq_nil_iff, ← String.toList_eq_nil_iff, toList_indent]
  cases code.toList with
  | nil => exact iff_of_true rfl rfl
  | cons c r =>
    rw [shift]
    split <;> simp

/-- The lines of a stack may be moved one by one. -/
theorem indent_stack (level : Nat) (parts : List String) :
    indent level (stack parts) = stack (parts.map (indent level)) := by
  have hkept : (fun part => decide (part ≠ "")) ∘ indent level
      = fun part => decide (part ≠ "") := by
    funext part
    simp only [Function.comp_apply, ne_eq, indent_eq_empty_iff]
  rw [stack, stack, indent_intercalate (k := 0) rfl, List.filter_map, hkept]

theorem indent_indent (more level : Nat) (code : String) :
    indent more (indent level code) = indent (level + more) code := by
  rw [← String.toList_inj, toList_indent, toList_indent, toList_indent, shift_shift]

/-- A declaration at some level: what stands before its braces and the braces are at this level, and
the members one level further, with an empty line between two of them. -/
theorem indent_declaration (level : Nat) (front : List String) (header : String)
    (members : List String) :
    indent level (stack (front ++ block header members))
      = stack (front.map (indent level) ++ [indent level header, indent level "\x7b",
        "\n\n".intercalate (members.map (indent (level + 1))), indent level "\x7d"]) := by
  have hbody : indent level
      (if "\n\n".intercalate members = "" then "" else indent 1 ("\n\n".intercalate members))
        = "\n\n".intercalate (members.map (indent (level + 1))) := by
    rw [← indent_intercalate (k := 1) rfl, Nat.add_comm]
    split
    · -- without a member nothing stands between the braces
      rename_i hempty
      rw [hempty]
      rfl
    · exact indent_indent level 1 _
  rw [indent_stack, List.map_append]
  simp only [block, List.map_cons, List.map_nil, hbody]

/-! ## The laws of moving -/

/-- The lines of a text, as its line feeds separate them. -/
def rows (code : String) : List (List Char) := Text.splitOn '\n' code.toList

theorem rows_indent (level : Nat) (code : String) :
    rows (indent level code) = (rows code).map (indentLine level) := by
  rw [rows, indent, String.toList_ofList, splitOn_indentChars, rows]

/-- A text is moved to the right.  Moving it on adds the levels, and no level leaves it as it is.
Blocks with an empty line between two of them are moved as each block is.  There are as many lines
as before, and the same of them are empty; so when the blanks of the levels are taken away from the
start of every line that is not empty, and they do stand there, the text is what it was. -/
theorem indent_laws (level : Nat) (code : String) :
    (∀ more, indent more (indent level code) = indent (level + more) code)
      ∧ indent 0 code = code
      ∧ (∀ blocks : List String, indent level ("\n\n".intercalate blocks)
        = "\n\n".intercalate (blocks.map (indent level)))
      ∧ (rows (indent level code)).length = (rows code).length
      ∧ (∀ i : Nat, (rows (indent level code))[i]? = some [] ↔ (rows code)[i]? = some [])
      ∧ outdent? level (indent level code) = some code := by
  refine ⟨fun more => indent_indent more level code, ?_,
    indent_intercalate (k := 1) rfl level, ?_, ?_, outdent?_indent level code⟩
  · rw [indent, indentChars_zero, String.ofList_toList]
  · rw [rows_indent, List.length_map]
  · intro i
    rw [rows_indent, List.getElem?_map]
    simp only [Option.map_eq_some_iff, indentLine_eq_nil_iff, exists_eq_right]

/-- Empty lines stay empty, also at the start and at the end. -/
example : indent 1 "\na\n\n  b\n" = "\n    a\n\n      b\n" := by decide +kernel

end OpenApiClient.CSharp
