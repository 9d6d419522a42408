/-
Cutting a text at a separator, and taking every occurrence of a word out of it.

`splitOn` keeps empty pieces, so that joining the pieces with the separator gives the
text back: `joinWith_splitOn`.  Both the layout of nested declarations and the
reading of dotted names and paths rest on that equation.  Pieces without a separator in
them are found again the other way round: `splitOn_joinWith`.
-/

set_option autoImplicit false

namespace OpenApiClient.Text

/-! ## Pieces between separators -/

/-- The pieces of a text between the occurrences of `sep`; there is always at least one,
and two separators in a row have an empty piece between them. -/
def splitOn (sep : Char) : List Char → List (List Char)
  | [] => [[]]
  | c :: r =>
    if c = sep then [] :: splitOn sep r
    else match splitOn sep r with
      | [] => [[c]]
      | p :: ps => (c :: p) :: ps

theorem splitOn_ne_nil (sep : Char) (s : List Char) : splitOn sep s ≠ [] := by
  induction s with
  | nil => simp [splitOn]
  | cons c r ih =>
    rw [splitOn]
    split
    · simp
    · split <;> simp

/-- A text is cut at every separator in it, whatever stands on its two sides. -/
theorem splitOn_append (sep : Char) (s r : List Char) :
    splitOn sep (s ++ sep :: r) = splitOn sep s ++ splitOn sep r := by
  induction s with
  | nil => exact if_pos rfl
  | cons c s ih =>
    rw [List.cons_append, splitOn, splitOn, ih]
    by_cases hc : c = sep
    · rw [if_pos hc, if_pos hc, List.cons_append]
    · rw [if_neg hc, if_neg hc]
      obtain ⟨p, ps, hp⟩ := List.exists_cons_of_ne_nil (splitOn_ne_nil sep s)
      rw [hp]
      rfl

theorem splitOn_of_not_mem {sep : Char} {s : List Char} (h : sep ∉ s) : splitOn sep s = [s] := by
  induction s with
  | nil => rfl
  | cons c s ih =>
    rw [List.mem_cons, not_or] at h
    rw [splitOn, if_neg (Ne.symm h.1), ih h.2]

theorem not_mem_of_mem_splitOn {sep : Char} {s p : List Char} (h : p ∈ splitOn sep s) :
    sep ∉ p := by
  induction s generalizing p with
  | nil =>
    rw [List.mem_singleton.1 h]
    exact List.not_mem_nil
  | cons c s ih =>
    obtain ⟨q, qs, hq⟩ := List.exists_cons_of_ne_nil (splitOn_ne_nil sep s)
    rw [splitOn, hq] at h
    rw [hq] at ih
    by_cases hc : c = sep
    · rw [if_pos hc] at h
      rcases List.mem_cons.1 h with rfl | h
      · exact List.not_mem_nil
      · exact ih h
    · rw [if_neg hc] at h
      rcases List.mem_cons.1 h with rfl | h
      · exact List.not_mem_cons_of_ne_of_not_mem (Ne.symm hc) (ih List.mem_cons_self)
      · exact ih (List.mem_cons_of_mem _ h)

/-- The pieces joined with a separator. -/
def joinWith (sep : List Char) : List (List Char) → List Char
  | [] => []
  | [p] => p
  | p :: q :: ps => p ++ sep ++ joinWith sep (q :: ps)

/-- Nothing is lost by splitting. -/
theorem joinWith_splitOn (sep : Char) (s : List Char) :
    joinWith [sep] (splitOn sep s) = s := by
  induction s with
  | nil => simp [splitOn, joinWith]
  | cons c r ih =>
    obtain ⟨p, ps, hp⟩ := List.exists_cons_of_ne_nil (splitOn_ne_nil sep r)
    rw [splitOn]
    by_cases h : c = sep
    · rw [if_pos h, hp]
      rw [hp] at ih
      simp [joinWith, ih, h]
    · rw [if_neg h, hp]
      rw [hp] at ih
      cases ps with
      | nil => simpa [joinWith] using ih
      | cons q qs => simpa [joinWith] using ih

/-- Pieces without a separator in them are found again when they have been joined. -/
theorem splitOn_joinWith {sep : Char} {ps : List (List Char)} (hne : ps ≠ [])
    (h : ∀ p ∈ ps, sep ∉ p) : splitOn sep (joinWith [sep] ps) = ps := by
  induction ps with
  | nil => exact absurd rfl hne
  | cons p ps ih =>
    obtain ⟨hp, hps⟩ := List.forall_mem_cons.1 h
    cases ps with
    | nil => exact splitOn_of_not_mem hp
    | cons q qs =>
      have hjoin : joinWith [sep] (p :: q :: qs) = p ++ sep :: joinWith [sep] (q :: qs) := by
        rw [joinWith, List.append_assoc, List.singleton_append]
      rw [hjoin, splitOn_append, splitOn_of_not_mem hp, ih (List.cons_ne_nil q qs) hps]
      rfl

/-- What stands after the last separator, or the whole text if there is none. -/
def lastPiece (sep : Char) (s : List Char) : List Char :=
  (splitOn sep s).getLast (splitOn_ne_nil sep s)

/-- What stands before the last separator, or the whole text if there is none. -/
def beforeLast (sep : Char) (s : List Char) : List Char :=
  match (splitOn sep s).dropLast with
  | [] => s
  | ps => joinWith [sep] ps

/-- A text cut at the first separator, if it has one. -/
def splitFirst? (sep : Char) (s : List Char) : Option (List Char × List Char) :=
  match s.dropWhile (· ≠ sep) with
  | [] => none
  | _ :: r => some (s.takeWhile (· ≠ sep), r)

/-! ## Words inside a text -/

/-- The rest of a text after `word`, if the text starts with it. -/
def dropWord? : List Char → List Char → Option (List Char)
  | [], s => some s
  | _ :: _, [] => none
  | w :: ws, c :: r => if w = c then dropWord? ws r else none

theorem append_of_dropWord? {w s r : List Char} (h : dropWord? w s = some r) :
    s = w ++ r := by
  induction w generalizing s with
  | nil => simpa [dropWord?] using h
  | cons a w ih =>
    cases s with
    | nil => simp [dropWord?] at h
    | cons c s =>
      rw [dropWord?] at h
      split at h
      · rename_i hac
        simp [hac, ← ih h]
      · simp at h

theorem dropWord?_append (w r : List Char) : dropWord? w (w ++ r) = some r := by
  induction w with
  | nil => cases r <;> rfl
  | cons c w ih => rw [List.cons_append, dropWord?, if_pos rfl, ih]

/-- Whether `word` occurs in the text. -/
def occurs (word : List Char) : List Char → Bool
  | [] => word.isEmpty
  | c :: r => (dropWord? word (c :: r)).isSome || occurs word r

/-- The text without the occurrences of `word`, found from left to right and not
overlapping.  The word is not empty: an empty one leaves the text as it is. -/
def erase (word : List Char) (s : List Char) : List Char :=
  match word, s with
  | [], s => s
  | _, [] => []
  | w :: ws, c :: r =>
    match _h : dropWord? (w :: ws) (c :: r) with
    | some r' => erase (w :: ws) r'
    | none => c :: erase (w :: ws) r
termination_by s.length
decreasing_by
  · have := append_of_dropWord? _h
    simp_all only [List.cons_append, List.length_cons, List.length_append]
    have := congrArg List.length (List.cons.inj this).2
    simp only [List.length_append] at this
    omega
  · simp

/-- The pieces of a text between the occurrences of `word`, which is not empty; the first
`skip` characters belong to an occurrence. -/
def splitWordFrom (word : List Char) : Nat → List Char → List (List Char)
  | _, [] => [[]]
  | skip + 1, _ :: r => splitWordFrom word skip r
  | 0, c :: r =>
    if (dropWord? word (c :: r)).isSome then [] :: splitWordFrom word (word.length - 1) r
    else match splitWordFrom word 0 r with
      | [] => [[c]]
      | p :: ps => (c :: p) :: ps

/-- The pieces of a text between the occurrences of `word`, found from left to right and
not overlapping. -/
def splitWord (word s : List Char) : List (List Char) := splitWordFrom word 0 s

/-- The text with every character `c` written as the text `f c`. -/
def expand (f : Char → List Char) (s : List Char) : List Char := s.flatMap f

/-! ## The same on strings -/

/-- The string without the occurrences of `word`. -/
def eraseAll (word s : String) : String := .ofList (erase word.toList s.toList)

end OpenApiClient.Text
