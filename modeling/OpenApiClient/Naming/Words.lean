/-
The words of a name.

Names in an API document are spelled in every way: with underscores, hyphens, dots,
spaces, or with capitals inside.  A generated identifier keeps the words and drops the
spelling.  A word is a run of ASCII letters and digits, cut once more at every *seam*:
before a capital that follows a small letter or a digit (`userId`), and before the last
capital of several if a small letter follows it (`HTTPServer`).

Cutting loses nothing: `flatten_cut` says that the pieces of a run, put together, are the
run, so only the characters between the runs disappear (`flatten_words`).
-/

set_option autoImplicit false

namespace OpenApiClient.Naming

/-- Whether a character can stand in a word. -/
def isWordChar (c : Char) : Bool := c.isAlphanum

/-- Whether a word ends after `a`, if `rest` follows it in the same run. -/
def isSeam (a : Char) (rest : List Char) : Bool :=
  match rest with
  | [] => false
  | b :: r =>
    b.isUpper && (a.isLower || a.isDigit || (a.isUpper && r.head?.any Char.isLower))

/-- A run of letters and digits, cut at its seams. -/
def cut : List Char → List (List Char)
  | [] => []
  | a :: r =>
    match cut r with
    | [] => [[a]]
    | w :: ws => if isSeam a w then [a] :: w :: ws else (a :: w) :: ws

/-- Cutting loses nothing. -/
theorem flatten_cut (s : List Char) : (cut s).flatten = s := by
  induction s with
  | nil => rfl
  | cons a r ih =>
    rw [cut]
    split
    · rename_i h
      rw [h] at ih
      simpa using ih
    · rename_i w ws h
      rw [h] at ih
      split <;> simp_all

/-- No piece is empty. -/
theorem ne_nil_of_mem_cut {s w : List Char} (h : w ∈ cut s) : w ≠ [] := by
  induction s generalizing w with
  | nil => simp [cut] at h
  | cons a r ih =>
    rw [cut] at h
    split at h
    · simp_all
    · rename_i v vs hv
      rw [hv] at ih
      split at h
      · rcases List.mem_cons.1 h with rfl | h
        · simp
        · exact ih h
      · rcases List.mem_cons.1 h with rfl | h
        · simp
        · exact ih (by simp [h])

/-- The runs of letters and digits in a text, in order. -/
def runs : List Char → List (List Char)
  | [] => []
  | c :: r =>
    if isWordChar c then
      match r with
      | [] => [[c]]
      | d :: _ =>
        if isWordChar d then
          match runs r with
          | [] => [[c]]
          | w :: ws => (c :: w) :: ws
        else [c] :: runs r
    else runs r

/-- The runs of a text are its letters and digits. -/
theorem flatten_runs (s : List Char) : (runs s).flatten = s.filter isWordChar := by
  induction s with
  | nil => rfl
  | cons c r ih =>
    rw [runs.eq_def]
    dsimp only
    by_cases hc : isWordChar c
    · rw [if_pos hc, List.filter_cons_of_pos hc, ← ih]
      -- a run ends at the end of the text, before another character, or goes on
      cases r with
      | nil => rfl
      | cons d r =>
        dsimp only
        split
        · split <;> simp [*]
        · simp
    · rw [if_neg hc, List.filter_cons_of_neg hc, ih]

/-- The words of a name. -/
def words (s : List Char) : List (List Char) := (runs s).flatMap cut

/-- The words of a text are its letters and digits. -/
theorem flatten_words (s : List Char) : (words s).flatten = s.filter isWordChar := by
  have hcut : List.flatten ∘ cut = id := funext flatten_cut
  rw [words, List.flatMap_def, List.flatten_flatten, List.map_map, hcut, List.map_id, flatten_runs]

end OpenApiClient.Naming
