/-
Blank characters and line ends.

Descriptions in an API document are free text, and they are laid out line by line in
comments of the generated code.  Two character classes decide where a line ends and what
is cut from its ends.  Both are wider than ASCII: a description may hold a no-break
space or a paragraph separator, and a comment that was cut at line feeds only would let
the rest of such a description run on as code.

`lines` drops the line ends, so joining its result with one separator gives a text in
which that separator is the only line end; `lines_noLineEnd` states the half of it that
matters, namely that no line holds a line end.
-/

set_option autoImplicit false

namespace OpenApiClient.Text

/-! ## The two classes -/

/-- Characters that end a line: line feed, vertical tab, form feed, carriage return, the
three information separators that act on lines, next line, and the two separators of
Unicode. -/
def isLineEnd (c : Char) : Bool :=
  let n := c.toNat
  (0x0A ≤ n && n ≤ 0x0D) || (0x1C ≤ n && n ≤ 0x1E) || n == 0x85 || n == 0x2028 || n == 0x2029

/-- Characters that are cut from the ends of a text: every line end, the tab, the unit
separator, and the spaces of Unicode. -/
def isBlank (c : Char) : Bool :=
  let n := c.toNat
  (0x09 ≤ n && n ≤ 0x0D) || (0x1C ≤ n && n ≤ 0x20) || n == 0x85 || n == 0xA0 || n == 0x1680
    || (0x2000 ≤ n && n ≤ 0x200A) || n == 0x2028 || n == 0x2029 || n == 0x202F || n == 0x205F
    || n == 0x3000

/-- The blanks that are white space by the tables of Unicode, which does not count the
information separators. -/
def isWhiteSpace (c : Char) : Bool := isBlank c && !(0x1C ≤ c.toNat && c.toNat ≤ 0x1F)

/-- A line end is always cut from the ends of a text. -/
theorem isBlank_of_isLineEnd {c : Char} (h : isLineEnd c = true) : isBlank c = true := by
  simp only [isLineEnd, isBlank, Bool.or_eq_true, Bool.and_eq_true, decide_eq_true_eq,
    beq_iff_eq] at h ⊢
  omega

/-! ## Cutting the ends -/

/-- The text without the blanks at its start. -/
def trimStart (s : List Char) : List Char := s.dropWhile isBlank

/-- The text without the blanks at its end. -/
def trimEnd (s : List Char) : List Char := (s.reverse.dropWhile isBlank).reverse

/-- The text without the blanks at its two ends. -/
def trim (s : List Char) : List Char := trimEnd (trimStart s)

/-! ## Lines -/

/-- The lines of a text, without their line ends.  A carriage return and the line feed
after it are one line end; a line end at the very end of the text starts no further
line, so the empty text has no line. -/
def lines : List Char → List (List Char)
  | [] => []
  | '\r' :: '\n' :: r => [] :: lines r
  | c :: r =>
    if isLineEnd c then [] :: lines r
    else match lines r with
      | [] => [[c]]
      | l :: ls => (c :: l) :: ls

/-- No line holds a line end. -/
theorem lines_noLineEnd (s : List Char) : ∀ l ∈ lines s, ∀ c ∈ l, isLineEnd c = false := by
  induction s using lines.induct with
  | case1 => simp [lines]
  | case2 r ih => simpa [lines] using ih
  | case3 c r hne hend ih =>
    rw [lines.eq_3 c r hne]
    simpa [hend] using ih
  | case4 c r hne hend hnil ih =>
    rw [lines.eq_3 c r hne]
    simp [hend, hnil]
  | case5 c r hne hend l ls hcons ih =>
    rw [lines.eq_3 c r hne]
    simp only [hend, Bool.false_eq_true, ↓reduceIte, hcons]
    intro l' hl' c' hc'
    rcases List.mem_cons.1 hl' with rfl | hl'
    · rcases List.mem_cons.1 hc' with rfl | hc'
      · simpa using hend
      · exact ih l (by simp [hcons]) c' hc'
    · exact ih l' (by simp [hcons, hl']) c' hc'

end OpenApiClient.Text
