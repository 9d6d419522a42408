/-
How the language reads the literals that are written into generated code.

A literal stands for a sequence of code units.  There are two forms.  A plain literal is read
with escapes, which begin with a backslash, and has to end on the line that it begins on.  In a
verbatim literal only a quotation mark has a second meaning: two of them stand for one.

The emission writes a text into a plain literal as it is, so the text comes back exactly if it
has no character with a second meaning (`readLiteral_plain_iff`).  One direction is immediate.
For the other, an escape is longer than what it stands for, so after the first one the reader
lags behind the text that it should give; it can only catch up by reading on past the end of
the literal, and for that it has to take in a quotation mark that the text does not have there.

Into a verbatim literal a text is written with its quotation marks doubled, which any text
survives; but afterwards the lines of the code are moved to the right, those of the literal with
them, so the text comes back exactly if it is one line (`readLiteral_verbatim_iff`).
-/
import OpenApiClient.Generate.Contracts
import OpenApiClient.Proofs.Indentation
import OpenApiClient.Proofs.Outcomes
import OpenApiClient.Text.CodePoint

set_option autoImplicit false

namespace OpenApiClient.CSharp

/-! ## Code units -/

/-- The code units of a number: one, or two for a number past the first plane. -/
def unitsOf (n : Nat) : List Nat :=
  if n < 0x10000 then [n] else [0xD800 + (n - 0x10000) / 0x400, 0xDC00 + (n - 0x10000) % 0x400]

/-- The code units of a text.  A half of a pair that stands in it on its own is one unit. -/
def units (s : List Char) : List Nat := s.flatMap fun c => unitsOf (Text.codePoint c)

/-- The code unit of a quotation mark. -/
def quoteUnit : Nat := 0x22

@[simp] theorem units_nil : units [] = [] := rfl

theorem units_cons (c : Char) (s : List Char) : units (c :: s) = units [c] ++ units s := by
  simp only [units, List.flatMap_cons, List.flatMap_nil, List.append_nil]

theorem units_append (s t : List Char) : units (s ++ t) = units s ++ units t :=
  List.flatMap_append

theorem length_unitsOf (n : Nat) : 1 ≤ (unitsOf n).length ∧ (unitsOf n).length ≤ 2 := by
  unfold unitsOf
  by_cases h : n < 0x10000
  · rw [if_pos h, List.length_singleton]
    omega
  · rw [if_neg h, List.length_cons, List.length_singleton]
    omega

theorem length_units_singleton (c : Char) : 1 ≤ (units [c]).length := by
  simp only [units, List.flatMap_cons, List.flatMap_nil, List.append_nil]
  exact (length_unitsOf _).1

theorem length_le_length_units (s : List Char) : s.length ≤ (units s).length := by
  induction s with
  | nil => exact Nat.le_refl _
  | cons c s ih =>
    have hc := length_units_singleton c
    rw [units_cons, List.length_append, List.length_cons]
    omega

theorem quoteUnit_mem_unitsOf {n : Nat} (h : quoteUnit ∈ unitsOf n) : n = quoteUnit := by
  unfold unitsOf at h
  by_cases hn : n < 0x10000
  · rw [if_pos hn, List.mem_singleton] at h
    exact h.symm
  · rw [if_neg hn] at h
    simp only [List.mem_cons, List.not_mem_nil, or_false, quoteUnit] at h
    omega

theorem eq_quote_of_codePoint {c : Char} (h : Text.codePoint c = quoteUnit) : c = '"' := by
  unfold Text.codePoint at h
  by_cases hhalf : Text.isHalf c
  · -- the number of a half is far above that of a quotation mark
    rw [if_pos hhalf] at h
    simp only [Text.isHalf, Text.isSurrogate, Bool.and_eq_true, decide_eq_true_eq] at hhalf
    simp only [quoteUnit] at h
    omega
  · rw [if_neg hhalf] at h
    exact Char.toNat_inj.1 h

/-- A text without a quotation mark has no unit of one. -/
theorem quoteUnit_not_mem_units {s : List Char} (h : '"' ∉ s) : quoteUnit ∉ units s := by
  intro hmem
  obtain ⟨c, hc, hunit⟩ := List.mem_flatMap.1 hmem
  rw [eq_quote_of_codePoint (quoteUnit_mem_unitsOf hunit)] at hc
  exact h hc

/-! ## Escapes -/

/-- The characters that end a line. -/
def isLineEnd (c : Char) : Bool := ['\n', '\r', '\u0085', '\u2028', '\u2029'].contains c

/-- The escapes of one character, and the units that they stand for. -/
def simpleEscapes : List (Char × Nat) :=
  [('\'', 0x27), ('"', quoteUnit), ('\\', 0x5C), ('0', 0), ('a', 7), ('b', 8), ('f', 0xC),
    ('n', 0xA), ('r', 0xD), ('t', 9), ('v', 0xB)]

/-- The escapes with hexadecimal digits: the least and the greatest number of digits. -/
def numberedEscapes : List (Char × Nat × Nat) := [('x', 1, 4), ('u', 4, 4), ('U', 8, 8)]

/-- The units that the escape after a backslash stands for, and how many characters it has. -/
def escape? : List Char → Option (List Nat × Nat)
  | [] => none
  | c :: r =>
    match simpleEscapes.lookup c with
    | some n => some ([n], 1)
    | none =>
      match numberedEscapes.lookup c with
      | none => none
      | some (least, greatest) =>
        let digits := (r.take greatest).takeWhile Text.isHexDigit
        if digits.length < least || Text.codePointEnd ≤ Text.hexValue digits then none
        else some (unitsOf (Text.hexValue digits), digits.length + 1)

theorem not_special_of_isHexDigit {c : Char} (h : Text.isHexDigit c) : c ≠ '"' ∧ c ≠ '\n' := by
  constructor
  · rintro rfl
    revert h
    decide
  · rintro rfl
    revert h
    decide

/-- Of the escapes of one character only that of the quotation mark is special itself. -/
theorem not_special_of_simple {c : Char} {m : Nat} (h : simpleEscapes.lookup c = some m) :
    (c = '"' ∧ m = quoteUnit) ∨ (c ≠ '"' ∧ c ≠ '\n') := by
  have hmem := mem_of_lookup h
  simp only [simpleEscapes, List.mem_cons, Prod.mk.injEq, List.not_mem_nil, or_false] at hmem
  -- one escape after the other
  rcases hmem with h | h | h | h | h | h | h | h | h | h | h <;> obtain ⟨rfl, rfl⟩ := h <;> decide

/-- An escape with digits has at least one of them, and its letter is not special. -/
theorem numbered_spec {c : Char} {least greatest : Nat}
    (h : numberedEscapes.lookup c = some (least, greatest)) :
    1 ≤ least ∧ c ≠ '"' ∧ c ≠ '\n' := by
  have hmem := mem_of_lookup h
  simp only [numberedEscapes, List.mem_cons, Prod.mk.injEq, List.not_mem_nil, or_false] at hmem
  rcases hmem with h | h | h <;> obtain ⟨rfl, rfl, rfl⟩ := h <;> decide

/-- The characters of an escape: the quotation mark alone, or characters of which none is a
quotation mark or ends a line, at least as many as the units that they stand for. -/
def IsEscape (p : List Char) (e : List Nat) : Prop :=
  (p = ['"'] ∧ e = [quoteUnit]) ∨ (e.length ≤ p.length ∧ '"' ∉ p ∧ '\n' ∉ p)

theorem isEscape_simple {c : Char} {m : Nat} (h : simpleEscapes.lookup c = some m) :
    IsEscape [c] [m] := by
  rcases not_special_of_simple h with ⟨rfl, rfl⟩ | ⟨hquote, hline⟩
  · exact .inl ⟨rfl, rfl⟩
  · refine .inr ⟨Nat.le_refl _, ?_, ?_⟩
    · rw [List.mem_singleton]
      exact Ne.symm hquote
    · rw [List.mem_singleton]
      exact Ne.symm hline

/-- Hexadecimal digits after their letter: a number has two units at most, and there is a digit
besides the letter. -/
theorem isEscape_numbered {c : Char} {least greatest : Nat} {digits : List Char}
    (h : numberedEscapes.lookup c = some (least, greatest)) (hleast : least ≤ digits.length)
    (hdigits : ∀ d ∈ digits, Text.isHexDigit d) :
    IsEscape (c :: digits) (unitsOf (Text.hexValue digits)) := by
  obtain ⟨hone, hquote, hline⟩ := numbered_spec h
  have hall : ∀ d ∈ digits, d ≠ '"' ∧ d ≠ '\n' := fun d hd =>
    not_special_of_isHexDigit (hdigits d hd)
  have hlength := (length_unitsOf (Text.hexValue digits)).2
  refine .inr ⟨?_, ?_, ?_⟩
  · rw [List.length_cons]
    omega
  · rw [List.mem_cons, not_or]
    exact ⟨Ne.symm hquote, fun hmem => (hall _ hmem).1 rfl⟩
  · rw [List.mem_cons, not_or]
    exact ⟨Ne.symm hline, fun hmem => (hall _ hmem).2 rfl⟩

/-- What is read as an escape is one, at the beginning of the text. -/
theorem escape?_spec {t : List Char} {e : List Nat} {n : Nat} (h : escape? t = some (e, n)) :
    ∃ p r, t = p ++ r ∧ p.length = n ∧ IsEscape p e := by
  cases t with
  | nil => cases h
  | cons c r =>
    rw [escape?] at h
    cases hsimple : simpleEscapes.lookup c with
    | some m =>
      rw [hsimple] at h
      cases h
      exact ⟨[c], r, rfl, rfl, isEscape_simple hsimple⟩
    | none =>
      rw [hsimple] at h
      cases hnumbered : numberedEscapes.lookup c with
      | none =>
        rw [hnumbered] at h
        cases h
      | some bounds =>
        obtain ⟨least, greatest⟩ := bounds
        rw [hnumbered] at h
        dsimp only at h
        generalize hdigits : (r.take greatest).takeWhile Text.isHexDigit = digits at h
        split at h
        · cases h
        · rename_i hok
          simp only [Bool.or_eq_true, decide_eq_true_eq, not_or, Nat.not_lt] at hok
          cases h
          have hprefix : digits <+: r := by
            rw [← hdigits]
            exact (List.takeWhile_prefix _).trans (List.take_prefix _ _)
          obtain ⟨rest, rfl⟩ := hprefix
          have hall : ∀ d ∈ digits, Text.isHexDigit d := by
            rw [← hdigits]
            exact List.all_eq_true.1 List.all_takeWhile
          exact ⟨c :: digits, rest, rfl, rfl, isEscape_numbered hnumbered hok.1 hall⟩

/-! ## Reading -/

/-- What is read, with units before it. -/
def withUnits (e : List Nat) (o : Option (List Nat × List Char)) : Option (List Nat × List Char) :=
  o.map fun (u, r) => (e ++ u, r)

/-- Reads a plain literal behind its first quotation mark: its units, and the text after it.  The
first `skip` characters belong to an escape. -/
def readPlain : Nat → List Char → Option (List Nat × List Char)
  | _, [] => none
  | skip + 1, _ :: r => readPlain skip r
  | 0, c :: r =>
    if c = '"' then some ([], r)
    else if c = '\\' then
      match escape? r with
      | none => none
      | some (e, n) => withUnits e (readPlain n r)
    else if isLineEnd c then none
    else withUnits (units [c]) (readPlain 0 r)

/-- Reads a verbatim literal behind its first quotation mark.  With `pending` a quotation mark has
just been read: it is the last one, unless another one follows. -/
def readVerbatim (pending : Bool) : List Char → Option (List Nat × List Char)
  | [] => if pending then some ([], []) else none
  | c :: r =>
    if pending then
      if c = '"' then withUnits [quoteUnit] (readVerbatim false r) else some ([], c :: r)
    else if c = '"' then readVerbatim true r
    else withUnits (units [c]) (readVerbatim false r)

/-- Reads the literal that a text begins with: its units, and the text after it. -/
def readLiteral : List Char → Option (List Nat × List Char)
  | '"' :: r => readPlain 0 r
  | '@' :: '"' :: r => readVerbatim false r
  | _ => none

theorem withUnits_eq_some_iff {e u : List Nat} {o : Option (List Nat × List Char)}
    {r : List Char} :
    withUnits e o = some (u, r) ↔ ∃ u', o = some (u', r) ∧ u = e ++ u' := by
  cases o with
  | none => simp [withUnits]
  | some p =>
    obtain ⟨u', r'⟩ := p
    simp only [withUnits, Option.map_some, Option.some.injEq, Prod.mk.injEq]
    constructor
    · rintro ⟨rfl, rfl⟩
      exact ⟨u', ⟨rfl, rfl⟩, rfl⟩
    · rintro ⟨_, ⟨rfl, rfl⟩, rfl⟩
      exact ⟨rfl, rfl⟩

theorem readPlain_skip (p r : List Char) : readPlain p.length (p ++ r) = readPlain 0 r := by
  induction p with
  | nil => rfl
  | cons c p ih => rw [List.length_cons, List.cons_append, readPlain, ih]

/-! ## Plain literals -/

/-- No character of a text has a second meaning in a plain literal. -/
def IsPlain (s : List Char) : Prop := ∀ c ∈ s, c ≠ '"' ∧ c ≠ '\\' ∧ isLineEnd c = false

instance (s : List Char) : Decidable (IsPlain s) :=
  inferInstanceAs (Decidable (∀ c ∈ s, c ≠ '"' ∧ c ≠ '\\' ∧ isLineEnd c = false))

theorem IsPlain.newline_not_mem {s : List Char} (h : IsPlain s) : '\n' ∉ s := by
  intro hmem
  have hend := (h _ hmem).2.2
  revert hend
  decide

/-- A plain text is read as it is. -/
theorem readPlain_of_isPlain {s : List Char} (h : IsPlain s) (rest : List Char) :
    readPlain 0 (s ++ '"' :: rest) = some (units s, rest) := by
  induction s with
  | nil => rw [List.nil_append, readPlain, if_pos rfl, units_nil]
  | cons c s ih =>
    obtain ⟨hquote, hbackslash, hend⟩ := h c List.mem_cons_self
    have hrest := ih fun d hd => h d (List.mem_cons_of_mem _ hd)
    rw [List.cons_append, readPlain, if_neg hquote, if_neg hbackslash, hend,
      if_neg Bool.false_ne_true, hrest, withUnits_eq_some_iff]
    exact ⟨units s, rfl, units_cons c s⟩

/-- Where the code of a plain literal goes on with characters that are no quotation mark and end
no line, its text does. -/
theorem exists_append_of_moved {s p r rest : List Char} {n : Nat}
    (h : moved n false s ++ '"' :: rest = p ++ r) (hquote : '"' ∉ p)
    (hline : '\n' ∉ p) :
    ∃ s', s = p ++ s' ∧ r = moved n false s' ++ '"' :: rest := by
  induction p generalizing s with
  | nil => exact ⟨s, rfl, h.symm⟩
  | cons c p ih =>
    rw [List.mem_cons, not_or] at hquote hline
    cases s with
    | nil =>
      -- the literal ends here
      exact absurd (List.cons.inj h).1 hquote.1
    | cons d s =>
      by_cases hd : d = '\n'
      · rw [hd, moved_newline] at h
        exact absurd (List.cons.inj h).1 hline.1
      · rw [moved_cons hd] at h
        change d :: (moved n false s ++ '"' :: rest) = c :: (p ++ r) at h
        obtain ⟨rfl, hcode⟩ := List.cons.inj h
        obtain ⟨s', rfl, hr⟩ := ih hcode hquote.2 hline.2
        exact ⟨s', rfl, hr⟩

/-- If units follow each other in two ways, the longer beginning goes on with the shorter one's
rest. -/
theorem eq_drop_append {e u m t : List Nat} (h : e ++ u = m ++ t) (hlength : e.length ≤ m.length) :
    u = m.drop e.length ++ t := by
  have hdrop := congrArg (List.drop e.length) h
  rwa [List.drop_left, List.drop_append_of_le_length hlength] at hdrop

theorem mem_of_cons_eq_append {a : Nat} {u m t : List Nat} (h : a :: u = m ++ t)
    (hlength : 0 < m.length) : a ∈ m := by
  obtain ⟨b, m, rfl⟩ := List.exists_cons_of_length_pos hlength
  rw [(List.cons.inj h).1]
  exact List.mem_cons_self

/-- A reader that has yet to give the units `q` gives the units `e` for the text `p`.  If what it
gives for the rest cannot make up for anything, then `e` are all that it had to give by then. -/
theorem length_le_of_lag {q e u : List Nat} {p s : List Char} (hq : quoteUnit ∉ q)
    (hp : '"' ∉ p) (hu : e ++ u = q ++ units (p ++ s))
    (hlength : e.length ≤ (q ++ units p).length)
    (h : ∀ lag, quoteUnit ∉ lag → u = lag ++ units s → lag = [] ∧ IsPlain s) :
    (q ++ units p).length ≤ e.length ∧ IsPlain s := by
  have hfree : quoteUnit ∉ q ++ units p := List.not_mem_append hq (quoteUnit_not_mem_units hp)
  rw [units_append, ← List.append_assoc] at hu
  obtain ⟨hnil, hplain⟩ := h _ (fun hmem => hfree (List.mem_of_mem_drop hmem))
    (eq_drop_append hu hlength)
  exact ⟨List.drop_eq_nil_iff.1 hnil, hplain⟩

/-- A reader that has yet to give some units, besides those of the text before it, gives both only
if there is nothing to make up for and the text is plain. -/
def NeverCatchesUp (n : Nat) (rest s : List Char) : Prop :=
  ∀ (q : List Nat) (r : List Char), quoteUnit ∉ q →
    readPlain 0 (moved n false s ++ '"' :: rest) = some (q ++ units s, r) → q = [] ∧ IsPlain s

theorem neverCatchesUp_nil (n : Nat) (rest : List Char) : NeverCatchesUp n rest [] := by
  intro q r _ h
  change readPlain 0 ('"' :: rest) = _ at h
  rw [readPlain, if_pos rfl, Option.some.injEq, Prod.mk.injEq, units_nil, List.append_nil] at h
  exact ⟨h.1.symm, fun c hc => absurd hc List.not_mem_nil⟩

/-- At a quotation mark the literal ends, too early for the text. -/
theorem neverCatchesUp_quote (n : Nat) (rest s : List Char) :
    NeverCatchesUp n rest ('"' :: s) := by
  intro q r _ h
  rw [moved_cons (by decide)] at h
  change readPlain 0 ('"' :: (moved n false s ++ '"' :: rest)) = _ at h
  rw [readPlain, if_pos rfl, Option.some.injEq, Prod.mk.injEq] at h
  have hnone := congrArg List.length h.1
  have hunits := length_le_length_units ('"' :: s)
  rw [List.length_nil, List.length_append] at hnone
  rw [List.length_cons] at hunits
  omega

/-- A character that is read as itself leaves the lag as long as it was. -/
theorem NeverCatchesUp.cons {n : Nat} {rest s : List Char} {c : Char}
    (ih : NeverCatchesUp n rest s) (hline : c ≠ '\n') (hquote : c ≠ '"') (hbackslash : c ≠ '\\') :
    NeverCatchesUp n rest (c :: s) := by
  intro q r hq h
  rw [moved_cons hline] at h
  change readPlain 0 (c :: (moved n false s ++ '"' :: rest)) = _ at h
  rw [readPlain, if_neg hquote, if_neg hbackslash] at h
  by_cases hend : isLineEnd c
  · rw [if_pos hend] at h
    cases h
  · rw [if_neg hend] at h
    obtain ⟨u, hread, hu⟩ := withUnits_eq_some_iff.1 h
    have hfree : '"' ∉ [c] := by
      rw [List.mem_singleton]
      exact Ne.symm hquote
    obtain ⟨hle, hplain⟩ := length_le_of_lag hq hfree hu.symm
      (by rw [List.length_append]; omega)
      fun lag hlag hrest => ih lag r hlag (hrest ▸ hread)
    rw [List.length_append] at hle
    have hspecial : isLineEnd c = false := by simpa using hend
    refine ⟨List.eq_nil_of_length_eq_zero (by omega), ?_⟩
    exact List.forall_mem_cons.2 ⟨⟨hquote, hbackslash, hspecial⟩, hplain⟩

/-- After an escape the reader lags behind, and so it does from then on. -/
theorem neverCatchesUp_backslash {n : Nat} {rest s : List Char}
    (ih : ∀ t : List Char, t.length ≤ s.length → NeverCatchesUp n rest t) :
    NeverCatchesUp n rest ('\\' :: s) := by
  intro q r hq h
  have hfree : '"' ∉ ['\\'] := by decide
  rw [moved_cons (by decide)] at h
  change readPlain 0 ('\\' :: (moved n false s ++ '"' :: rest)) = _ at h
  rw [readPlain, if_neg (by decide), if_pos rfl] at h
  cases hescape : escape? (moved n false s ++ '"' :: rest) with
  | none =>
    rw [hescape] at h
    cases h
  | some escape =>
    obtain ⟨e, m⟩ := escape
    rw [hescape] at h
    obtain ⟨u, hread, hu⟩ := withUnits_eq_some_iff.1 h
    obtain ⟨p, t, hsplit, rfl, ⟨rfl, rfl⟩ | ⟨hlength, hnone, hends⟩⟩ := escape?_spec hescape
    · -- a quotation mark comes out of the escape where the text has none yet
      rw [units_cons, ← List.append_assoc] at hu
      have hunits := length_units_singleton '\\'
      have hmem : quoteUnit ∈ q ++ units ['\\'] :=
        mem_of_cons_eq_append hu.symm (by rw [List.length_append]; omega)
      exact absurd hmem (List.not_mem_append hq (quoteUnit_not_mem_units hfree))
    · -- the escape falls short of its own characters and the backslash
      obtain ⟨s, rfl, rfl⟩ := exists_append_of_moved hsplit hnone hends
      rw [hsplit, readPlain_skip] at hread
      rw [List.length_append] at ih
      have hunits := length_le_length_units ('\\' :: p)
      rw [List.length_cons] at hunits
      obtain ⟨hle, -⟩ := length_le_of_lag hq (List.not_mem_append hfree hnone) hu.symm
        (by rw [List.length_append, List.singleton_append]; omega)
        fun lag hlag hrest => ih s (by omega) lag r hlag (hrest ▸ hread)
      rw [List.length_append, List.singleton_append] at hle
      omega

/-- No character is read as more units than it has, and no escape gives as many as its characters
have, so the lag never shrinks. -/
theorem neverCatchesUp (n : Nat) (rest s : List Char) : NeverCatchesUp n rest s := by
  -- on the length of the text, since an escape takes several characters at once
  induction hlen : s.length using Nat.strongRecOn generalizing s with
  | ind k ih =>
  cases s with
  | nil => exact neverCatchesUp_nil n rest
  | cons c s =>
    rw [List.length_cons] at hlen
    by_cases hline : c = '\n'
    · -- the literal does not end on its line
      intro q r _ h
      rw [hline, moved_newline] at h
      cases h
    by_cases hquote : c = '"'
    · rw [hquote]
      exact neverCatchesUp_quote n rest s
    by_cases hbackslash : c = '\\'
    · rw [hbackslash]
      exact neverCatchesUp_backslash fun t ht => ih t.length (by omega) t rfl
    · exact (ih s.length (by omega) s rfl).cons hline hquote hbackslash

/-- A text in a plain literal comes back exactly if it is plain. -/
theorem readLiteral_plain_iff (n : Nat) (s : String) (rest : List Char) :
    (readLiteral (moved n false (Generate.plainLiteral s).toList ++ rest)).map (·.1)
        = some (units s.toList) ↔ IsPlain s.toList := by
  have htext : (Generate.plainLiteral s).toList = '"' :: (s.toList ++ ['"']) := by
    simp only [Generate.plainLiteral, String.toList_append]
    rfl
  have hread : readLiteral (moved n false (Generate.plainLiteral s).toList ++ rest)
      = readPlain 0 (moved n false s.toList ++ '"' :: rest) := by
    rw [htext, moved_cons (by decide), moved_append_cons (by decide)]
    change readPlain 0 ((moved n false s.toList ++ ['"']) ++ rest) = _
    rw [List.append_assoc]
    rfl
  rw [hread]
  constructor
  · intro h
    obtain ⟨⟨u, r⟩, hread, rfl⟩ := Option.map_eq_some_iff.1 h
    exact (neverCatchesUp n rest s.toList [] r List.not_mem_nil hread).2
  · intro h
    rw [moved_eq_self h.newline_not_mem, readPlain_of_isPlain h]
    rfl

/-! ## Verbatim literals -/

/-- A text with its quotation marks written twice. -/
def doubled (s : List Char) : List Char := s.flatMap fun c => if c = '"' then ['"', '"'] else [c]

theorem doubled_cons (c : Char) (s : List Char) :
    doubled (c :: s) = (if c = '"' then ['"', '"'] else [c]) ++ doubled s := rfl

theorem doubled_eq_self {s : List Char} (h : '"' ∉ s) (t : List Char) :
    doubled (s ++ t) = s ++ doubled t := by
  induction s with
  | nil => rfl
  | cons c s ih =>
    rw [List.mem_cons, not_or] at h
    rw [List.cons_append, doubled_cons, if_neg (Ne.symm h.1), ih h.2]
    rfl

theorem quote_not_mem_indentation (n : Nat) : '"' ∉ indentation n := by
  intro h
  have heq := eq_blank_of_mem_indentation h
  revert heq
  decide

/-- Moving the lines of a text and doubling its quotation marks do not disturb each other. -/
theorem moved_doubled (n : Nat) (start : Bool) (s : List Char) :
    moved n start (doubled s) = doubled (moved n start s) := by
  have hblank : ∀ start : Bool, '"' ∉ (if start then indentation n else []) := by
    rintro (_ | _)
    · exact List.not_mem_nil
    · exact quote_not_mem_indentation n
  induction s generalizing start with
  | nil =>
    change moved n start [] = _
    rw [moved, ← List.append_nil (if start then indentation n else []),
      doubled_eq_self (hblank start)]
    rfl
  | cons c s ih =>
    rw [doubled_cons]
    by_cases hline : c = '\n'
    · rw [hline, if_neg (by decide), List.singleton_append, moved_newline, moved_newline, ih]
      rfl
    · rw [moved_cons hline, doubled_eq_self (hblank start), doubled_cons]
      by_cases hquote : c = '"'
      · rw [hquote, if_pos rfl, ← ih]
        change moved n start ('"' :: '"' :: doubled s) = _
        rw [moved_cons (by decide), moved_cons (by decide)]
        rfl
      · rw [if_neg hquote, ← ih, List.singleton_append, moved_cons hline]
        rfl

/-- A text with its quotation marks doubled is read as it was. -/
theorem readVerbatim_doubled (s rest : List Char) (hrest : rest.head? ≠ some '"') :
    readVerbatim false (doubled s ++ '"' :: rest) = some (units s, rest) := by
  induction s with
  | nil =>
    change readVerbatim true rest = _
    cases rest with
    | nil => rfl
    | cons c rest =>
      have hc : c ≠ '"' := fun h => hrest (by rw [h]; rfl)
      rw [readVerbatim, if_pos rfl, if_neg hc, units_nil]
  | cons c s ih =>
    rw [doubled_cons]
    by_cases hquote : c = '"'
    · rw [hquote, if_pos rfl]
      change withUnits [quoteUnit] (readVerbatim false (doubled s ++ '"' :: rest)) = _
      rw [ih, withUnits_eq_some_iff]
      exact ⟨units s, rfl, units_cons _ _⟩
    · rw [if_neg hquote]
      change readVerbatim false (c :: (doubled s ++ '"' :: rest)) = _
      rw [readVerbatim, if_neg Bool.false_ne_true, if_neg hquote, ih, withUnits_eq_some_iff]
      exact ⟨units s, rfl, units_cons _ _⟩

/-- The lines of a verbatim literal that were moved have their blanks in what is read. -/
theorem readLiteral_verbatim (n : Nat) (s : String) (rest : List Char)
    (hrest : rest.head? ≠ some '"') :
    readLiteral (moved n false (Generate.verbatimLiteral s).toList ++ rest)
      = some (units (moved n false s.toList), rest) := by
  have htext : (Generate.verbatimLiteral s).toList = '@' :: '"' :: (doubled s.toList ++ ['"']) := by
    rw [Generate.verbatimLiteral, String.toList_ofList]
    rfl
  rw [htext, moved_cons (by decide), moved_cons (by decide), moved_append_cons (by decide),
    moved_doubled]
  change readVerbatim false ((doubled (moved n false s.toList) ++ ['"']) ++ rest) = _
  rw [List.append_assoc]
  exact readVerbatim_doubled _ rest hrest

/-- Moving a text makes it longer, unless it is one line and begins within it: its last line has
blanks before it. -/
theorem length_units_moved {n : Nat} (hn : 0 < n) (start : Bool) (s : List Char) :
    (units s).length + (start || s.contains '\n').toNat ≤ (units (moved n start s)).length := by
  have hblank : ∀ start : Bool,
      start.toNat ≤ (units (if start then indentation n else [])).length := by
    rintro (_ | _)
    · exact Nat.zero_le _
    · have hunits := length_le_length_units (indentation n)
      rw [length_indentation] at hunits
      change 1 ≤ (units (indentation n)).length
      omega
  induction s generalizing start with
  | nil =>
    rw [moved, units_nil, List.length_nil, Nat.zero_add, List.contains_nil, Bool.or_false]
    exact hblank start
  | cons c s ih =>
    rw [List.contains_cons]
    by_cases hline : c = '\n'
    · have hrest := ih true
      rw [hline, moved_newline, units_cons, units_cons _ (moved n true s), beq_self_eq_true,
        Bool.true_or, Bool.or_true]
      rw [Bool.true_or] at hrest
      simp only [List.length_append]
      omega
    · have hrest := ih false
      have hstart := hblank start
      have hor : (start || s.contains '\n').toNat ≤ start.toNat + (s.contains '\n').toNat := by
        cases start <;> cases s.contains '\n' <;> decide
      rw [moved_cons hline, units_append, units_cons, units_cons _ (moved n false s),
        beq_false_of_ne (Ne.symm hline), Bool.false_or]
      rw [Bool.false_or] at hrest
      simp only [List.length_append]
      omega

/-- A text in a verbatim literal comes back exactly if it is one line. -/
theorem readLiteral_verbatim_iff {n : Nat} (hn : 0 < n) (s : String) (rest : List Char)
    (hrest : rest.head? ≠ some '"') :
    (readLiteral (moved n false (Generate.verbatimLiteral s).toList ++ rest)).map (·.1)
        = some (units s.toList) ↔ '\n' ∉ s.toList := by
  rw [readLiteral_verbatim n s rest hrest, Option.map_some, Option.some.injEq]
  change units (moved n false s.toList) = units s.toList ↔ _
  constructor
  · intro h hmem
    have hlength := length_units_moved hn false s.toList
    rw [h, Bool.false_or, List.contains_iff_mem.2 hmem, Bool.toNat_true] at hlength
    omega
  · intro h
    rw [moved_eq_self h]

end OpenApiClient.CSharp
