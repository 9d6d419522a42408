/-
Following references in a document and in what is made of it.

Let some references of a document be replaced by what stands in their place.  A node of the
new document mirrors a node of the old one if it is made of it, or of what it stands for
(`Mirrors`).  Then following references keeps nodes mirrored (`settleWith_mirrors`): where the
old document has a reference and the new one has its target, the chain of the old one ends
exactly there; and where both have the reference, its way leads through mirrored nodes in both.

Two things could go wrong.  A chain could come back to its own reference in one document and
not in the other: but a reference of the new document is made of a single node of the old one,
which its place determines.  And a reference could look inside itself, at members which its
target does not have; that this does not happen is an assumption.
-/
import OpenApiClient.Proofs.Inlining

set_option autoImplicit false

namespace OpenApiClient.Reference

open View

/-! ## Mirrored nodes -/

/-- What an outline leaves to be done at a place of the new document, and the node of the old
one that the value there is made of. -/
def origin (land : Node → Node) (o : Outline) (root : Node) : List Nat → Option (Outline × Node)
  | [] => some (o, root)
  | i :: place =>
    (origin land o root place).bind fun q =>
      (part? q.2.value i).map fun p => q.1.part land q.2 i p.1 p.2

section Mirror

variable {files : Source.Files} {root : Value} {o : Outline}

/-- The root of the new document. -/
def newRoot (files : Source.Files) (root : Value) (o : Outline) : Value :=
  inlineWith (landing files root) o ⟨0, [], root⟩

/-- A node of the first document, and the node of the new document that is made of it. -/
structure MadeOf (files : Source.Files) (root : Value) (o : Outline) (c c' : Node) : Prop where
  document : c.document = 0
  document' : c'.document = 0
  stands : c.StandsIn root
  /-- The new node is made of the old one or of what stands in its place. -/
  made : ∃ q n, origin (landing files root) o ⟨0, [], root⟩ c'.place = some (q, n)
    ∧ c'.value = inlineWith (landing files root) q n ∧ (n = c ∨ n = landing files root c)

/-- A node and its mirror: the same node of another document, or one that is made of it. -/
def Mirrors (files : Source.Files) (root : Value) (o : Outline) (c c' : Node) : Prop :=
  (c = c' ∧ c.document ≠ 0) ∨ MadeOf files root o c c'

/-- Two libraries that differ in the first document only. -/
def LibraryMirrors (files : Source.Files) (root : Value) (o : Outline) (l l' : Library) : Prop :=
  ∃ rest, l = ⟨files, Shelved.mk [] [] root :: rest⟩
    ∧ l' = ⟨files, Shelved.mk [] [] (newRoot files root o) :: rest⟩

theorem LibraryMirrors.begins {l l' : Library} (h : LibraryMirrors files root o l l') :
    l.Begins files root := by
  obtain ⟨rest, hl, -⟩ := h
  exact ⟨rest, hl⟩

theorem LibraryMirrors.baseOf {l l' : Library} (h : LibraryMirrors files root o l l')
    (document : Nat) : l'.baseOf document = l.baseOf document := by
  obtain ⟨rest, rfl, rfl⟩ := h
  cases document <;> rfl

theorem LibraryMirrors.rootNode {l l' : Library} (h : LibraryMirrors files root o l l')
    (j : Nat) : Mirrors files root o (l.rootNode j) (l'.rootNode j) := by
  obtain ⟨rest, rfl, rfl⟩ := h
  cases j with
  | zero => exact .inr ⟨rfl, rfl, rfl, o, _, rfl, rfl, .inl rfl⟩
  | succ j => exact .inl ⟨rfl, Nat.succ_ne_zero j⟩

/-- The same document is found at an address, or read, in both libraries. -/
theorem LibraryMirrors.documentAt {l l' l₁ : Library} {ref : String} {address : List Char}
    {j : Nat} (h : LibraryMirrors files root o l l')
    (hrun : Runs (documentAt ref address) l j l₁) :
    ∃ l₁', Runs (Reference.documentAt ref address) l' j l₁'
      ∧ LibraryMirrors files root o l₁ l₁' := by
  obtain ⟨rest, rfl, rfl⟩ := h
  have hfind : ∀ normal, List.findIdx? (fun d : Shelved => decide (d.address = normal))
      (Shelved.mk [] [] (newRoot files root o) :: rest)
        = List.findIdx? (fun d : Shelved => decide (d.address = normal))
          (Shelved.mk [] [] root :: rest) := by
    intro normal
    rw [List.findIdx?_cons, List.findIdx?_cons]
  obtain ⟨normal, hnormal, ⟨hsome, rfl⟩ | ⟨hnone, v, hv, rfl, rfl⟩⟩ := runs_documentAt_iff.1 hrun
  · refine ⟨_, runs_documentAt_iff.2 ⟨normal, hnormal, .inl ⟨?_, rfl⟩⟩, rest, rfl, rfl⟩
    rw [hfind]
    exact hsome
  · refine ⟨_, runs_documentAt_iff.2 ⟨normal, hnormal, .inr ⟨?_, v, hv, ?_, rfl⟩⟩, ?_⟩
    · rw [hfind]
      exact hnone
    · rfl
    · exact ⟨rest ++ [Shelved.mk address normal v], rfl, rfl⟩

/-! ### Parts of mirrored nodes -/

/-- A node that is not a reference is what its mirror is made of. -/
theorem MadeOf.made_of_plain {c c' : Node} (h : MadeOf files root o c c')
    (hplain : c.isReference = false) :
    ∃ q, origin (landing files root) o ⟨0, [], root⟩ c'.place = some (q, c)
      ∧ c'.value = inlineWith (landing files root) q c := by
  obtain ⟨q, n, horigin, hvalue, hn⟩ := h.made
  rw [landing_of_plain hplain, or_self] at hn
  rw [hn] at horigin hvalue
  exact ⟨q, horigin, hvalue⟩

/-- A part of a node and the part of its mirror at the same position are mirrored. -/
theorem MadeOf.child {c c' : Node} (h : MadeOf files root o c c') (hplain : c.isReference = false)
    {i : Nat} {slot : Slot} {v : Value} (hpart : part? c.value i = some (slot, v)) :
    ∃ v', part? c'.value i = some (slot, v') ∧ MadeOf files root o (c.child i v) (c'.child i v')
      ∧ (slot.isKept = true → v' = v) := by
  -- a node that is no reference is made part by part
  obtain ⟨q, horigin, hvalue⟩ := h.made_of_plain hplain
  have hpart' := part?_inlineWith (landing files root) q c i
  rw [← hvalue, hpart, Option.map_some] at hpart'
  refine ⟨_, hpart', ⟨h.document, h.document', h.stands.child hpart,
    (q.part (landing files root) c i slot v).1, (q.part (landing files root) c i slot v).2,
    ?_, rfl, ?_⟩, ?_⟩
  · rw [Node.child, origin, horigin, Option.bind_some, hpart]
    rfl
  · unfold Outline.part
    split
    · exact .inl rfl
    · split
      · exact .inl rfl
      · split
        · exact .inr rfl
        · exact .inl rfl
  · intro hkept
    rw [Outline.part_of_kept hkept]
    rfl

theorem MadeOf.alike {c c' : Node} (h : MadeOf files root o c c')
    (hplain : c.isReference = false) : Alike c.value c'.value := by
  obtain ⟨q, -, hvalue⟩ := h.made_of_plain hplain
  rw [hvalue]
  exact inlineWith_alike _ _ _

/-- A step that can be gone in the old document can be gone in the new one. -/
theorem MadeOf.step {c c' next : Node} {step : String} (h : MadeOf files root o c c')
    (hplain : c.isReference = false) (hstep : c.step? step = some next) :
    ∃ next', c'.step? step = some next' ∧ MadeOf files root o next next' := by
  obtain ⟨i, slot, v, hi, hpart, rfl⟩ := step?_eq_some_iff.1 hstep
  obtain ⟨v', hpart', hchild, -⟩ := h.child hplain hpart
  refine ⟨c'.child i v', step?_eq_some_iff.2 ⟨i, slot, v', ?_, hpart', rfl⟩, hchild⟩
  rw [(h.alike hplain).stepIndex?, hi]

theorem Mirrors.step {c c' next : Node} {step : String} (h : Mirrors files root o c c')
    (hplain : c.isReference = false) (hstep : c.step? step = some next) :
    ∃ next', c'.step? step = some next' ∧ Mirrors files root o next next' := by
  rcases h with ⟨rfl, hdocument⟩ | h
  · refine ⟨next, hstep, .inl ⟨rfl, ?_⟩⟩
    obtain ⟨i, slot, v, -, -, rfl⟩ := step?_eq_some_iff.1 hstep
    exact hdocument
  · obtain ⟨next', hstep', hnext⟩ := h.step hplain hstep
    exact ⟨next', hstep', .inr hnext⟩

/-! ### References and their mirrors -/

/-- A reference of the new document is made of one of the old document, and is the same. -/
theorem MadeOf.of_reference {c c' : Node} {ref : String} (h : MadeOf files root o c c')
    (href : c'.value.reference? = some ref) :
    c'.value = c.value
      ∧ ∃ q, origin (landing files root) o ⟨0, [], root⟩ c'.place = some (q, c) := by
  obtain ⟨q, n, horigin, hvalue, hn⟩ := h.made
  have hnref : n.value.reference? = some ref := by
    rw [hvalue, reference?_inlineWith] at href
    exact href
  have heq : n = c := by
    rcases hn with hn | hn
    · exact hn
    · rcases landing_plain files root c with hland | hland
      · rw [hn, hland]
      · rw [← hn, hnref] at hland
        cases hland
  rw [heq] at horigin hvalue hnref
  exact ⟨by rw [hvalue, inlineWith_of_reference hnref], q, horigin⟩

/-- The place of a reference in the new document determines the node that it is made of. -/
theorem MadeOf.eq_of_place {c d c' d' : Node} {ref ref' : String} (hc : MadeOf files root o c c')
    (hd : MadeOf files root o d d') (href : c'.value.reference? = some ref)
    (href' : d'.value.reference? = some ref') (hplace : c'.place = d'.place) : c = d := by
  obtain ⟨-, q, hq⟩ := hc.of_reference href
  obtain ⟨-, q', hq'⟩ := hd.of_reference href'
  rw [hplace, hq', Option.some.injEq, Prod.mk.injEq] at hq
  exact hq.2.symm

/-- Two mirrored nodes, the second of which is a reference. -/
def MirrorsReference (files : Source.Files) (root : Value) (o : Outline) (c c' : Node)
    (ref : String) : Prop :=
  Mirrors files root o c c' ∧ c.value.reference? = some ref ∧ c'.value.reference? = some ref

theorem MadeOf.value_eq_of_isAt {c d c' d' : Node} {ref : String}
    (hc : MadeOf files root o c c') (hd : MadeOf files root o d d')
    (href : d'.value.reference? = some ref) (hplace : c'.place = d'.place) :
    c'.value.reference? = some ref := by
  obtain ⟨q, n, horigin, hvalue, -⟩ := hc.made
  obtain ⟨hsame, q', horigin'⟩ := hd.of_reference href
  rw [hplace, horigin', Option.some.injEq, Prod.mk.injEq] at horigin
  rw [hvalue, reference?_inlineWith, ← horigin.2, ← hsame, href]

/-- The mirror of a node is at the place of a reference only if the node itself is. -/
theorem Mirrors.isAt {c c' self self' : Node} {ref : String} (h : Mirrors files root o c c')
    (hself : MirrorsReference files root o self self' ref) (hat : c'.isAt self' = true) :
    c.isAt self = true := by
  obtain ⟨hdocument, hplace⟩ := isAt_iff.1 hat
  obtain ⟨⟨rfl, hout⟩ | hself, -, href⟩ := hself
  · rcases h with ⟨rfl, -⟩ | h
    · exact hat
    · exact (hout (hdocument ▸ h.document')).elim
  · rcases h with ⟨rfl, hout⟩ | h
    · exact (hout (hdocument.trans hself.document')).elim
    · rw [h.eq_of_place hself (h.value_eq_of_isAt hself href hplace) href hplace]
      exact isAt_iff.2 ⟨rfl, rfl⟩

theorem Mirrors.of_reference {c c' : Node} {ref : String} (h : Mirrors files root o c c')
    (href : c'.value.reference? = some ref) : MirrorsReference files root o c c' ref := by
  refine ⟨h, ?_, href⟩
  rcases h with ⟨rfl, -⟩ | h
  · exact href
  · rw [← (h.of_reference href).1, href]

theorem Mirrors.document_eq {c c' : Node} (h : Mirrors files root o c c') :
    c'.document = c.document := by
  rcases h with ⟨rfl, -⟩ | h
  · rfl
  · rw [h.document, h.document']

/-! ## Ways and chains -/

/-- What a way goes through is mirrored, if following references keeps nodes mirrored and the
way does not go into its own reference. -/
theorem walk_mirrors {s : Node → Following Node} {self self' c c' m : Node} {ref : String}
    {e : Fault} {steps : List String} {l l' l₁ : Library}
    (hs : ∀ c c' l l' m l₁, Mirrors files root o c c' → LibraryMirrors files root o l l' →
      Runs (s c) l m l₁ → m.isReference = false
        ∧ ∃ m' l₁', Runs (s c') l' m' l₁' ∧ LibraryMirrors files root o l₁ l₁'
          ∧ Mirrors files root o m m')
    (hself : MirrorsReference files root o self self' ref)
    (hout : self.document = 0 → ¬ GoesInto s self c steps l)
    (hc : Mirrors files root o c c') (hl : LibraryMirrors files root o l l')
    (h : Runs (walk s self e c steps) l m l₁) :
    ∃ m' l₁', Runs (walk s self' e c' steps) l' m' l₁' ∧ LibraryMirrors files root o l₁ l₁'
      ∧ Mirrors files root o m m' := by
  induction steps generalizing c c' l l' with
  | nil =>
    obtain ⟨rfl, rfl⟩ := runs_walk_nil_iff.1 h
    exact ⟨c', l', runs_walk_nil_iff.2 ⟨rfl, rfl⟩, hl, hc⟩
  | cons step steps ih =>
    obtain ⟨here, l₂, next, hgo, hstep, hrest⟩ := runs_walk_cons_iff.1 h
    rcases hgo with ⟨hat, rfl, rfl⟩ | ⟨hat, hrun⟩
    · -- Inside of the first document this is excluded; elsewhere both ways are the same.
      obtain ⟨hdocument, -⟩ := isAt_iff.1 hat
      rcases hc with ⟨rfl, houtside⟩ | hmade
      · obtain ⟨i, slot, v, -, -, hnext⟩ := step?_eq_some_iff.1 hstep
        have hnext' : Mirrors files root o next next := .inl ⟨rfl, by rw [hnext]; exact houtside⟩
        have hat' : here.isAt self' = true := by
          obtain ⟨⟨rfl, -⟩ | hself, -⟩ := hself
          · exact hat
          · exact (houtside (hdocument.trans hself.document)).elim
        obtain ⟨m', l₁', hrun', hl', hm⟩ := ih
          (fun hzero => (houtside (hdocument.trans hzero)).elim) hnext' hl hrest
        exact ⟨m', l₁', runs_walk_cons_iff.2 ⟨here, l', next, .inl ⟨hat', rfl, rfl⟩, hstep,
          hrun'⟩, hl', hm⟩
      · exact (hout (hdocument ▸ hmade.document) (.here hat hstep)).elim
    · have hat' : c'.isAt self' = false := by
        rw [Bool.eq_false_iff]
        intro hat'
        rw [hc.isAt hself hat'] at hat
        cases hat
      obtain ⟨hplain, here', l₂', hrun', hl', hhere⟩ := hs c c' l l' here l₂ hc hl hrun
      obtain ⟨next', hstep', hnext⟩ := hhere.step hplain hstep
      obtain ⟨m', l₁', hrest', hl'', hm⟩ := ih
        (fun hzero hinto => hout hzero (.later hat hrun hstep hinto)) hnext hl' hrest
      exact ⟨m', l₁', runs_walk_cons_iff.2 ⟨here', l₂', next', .inr ⟨hat', hrun'⟩, hstep',
        hrest'⟩, hl'', hm⟩

/-- What stands there itself in the old document does so in the new one. -/
theorem Mirrors.of_plain {c c' : Node} (h : Mirrors files root o c c')
    (hplain : c.value.reference? = none) : c'.value.reference? = none := by
  rcases h with ⟨rfl, -⟩ | hmade
  · exact hplain
  · obtain ⟨q, -, hvalue⟩ := hmade.made_of_plain (by rw [Node.isReference, hplain]; rfl)
    rw [hvalue, reference?_inlineWith, hplain]

/-- Where a reference was replaced, the new document has what stands at the end of its chain. -/
theorem MadeOf.landed {fuel : Nat} {c c' m : Node} {ref : String} {l l₁ : Library}
    (hroot : root.spreadBytes = root) (h : MadeOf files root o c c') (hfuel : fuel ≤ View.maxChain)
    (hl : l.Begins files root) (href : c.value.reference? = some ref)
    (href' : c'.value.reference? = none) (hrun : Runs (settleWith fuel c) l m l₁) :
    l₁ = l ∧ MadeOf files root o m c' := by
  obtain ⟨q, n, horigin, hvalue, hn⟩ := h.made
  have hmoved : n ≠ c := by
    intro heq
    rw [hvalue, reference?_inlineWith, heq, href] at href'
    cases href'
  have hnland : n = landing files root c := hn.resolve_left hmoved
  have hne : landing files root c ≠ c := by
    rw [← hnland]
    exact hmoved
  obtain ⟨hdocument, hland⟩ :=
    (landing_run hroot h.document h.stands hl).resolve_left hne
  obtain ⟨hm, hl₁⟩ := (settleWith_le hfuel hrun).unique hland
  obtain ⟨-, hstands⟩ := settleWith_grounded hl (fun _ => h.stands) hland
  rw [hm, ← hnland]
  rw [← hnland] at hdocument hstands
  exact ⟨hl₁, hdocument, h.document', hstands hdocument, q, n, horigin, hvalue, .inl rfl⟩

/-- The way of a reference of the first document does not go into the reference. -/
theorem not_goesInto (hout : ¬ LooksInside files root) {fuel : Nat} {c c' : Node} {ref : String}
    {full address pointer : List Char} {j : Nat} {l l₀ : Library}
    (hc : Mirrors files root o c c') (hl : l.Begins files root)
    (href : c.value.reference? = some ref)
    (htarget : View.target (l.baseOf c.document) ref = .ok (full, address, pointer))
    (hj : Runs (documentAt (.ofList full) address) l j l₀) :
    c.document = 0 → ¬ GoesInto (settleWith fuel) c (l₀.rootNode j) (pointerSteps pointer) l₀ := by
  intro hzero hinto
  have hstands : c.StandsIn root := by
    rcases hc with ⟨-, houtside⟩ | hmade
    · exact (houtside hzero).elim
    · exact hmade.stands
  exact hout ⟨c, ref, fuel, l, l₀, full, address, pointer, j, hl, hzero, hstands, href, htarget,
    hj, hinto⟩

/-- A mirror leads back to a reference only if the node itself does. -/
theorem Mirrors.not_self {c c' self self' : Node} {ref : String} (h : Mirrors files root o c c')
    (hself : MirrorsReference files root o self self' ref)
    (hnot : (c.isReference && c.isAt self) = false) :
    (c'.isReference && c'.isAt self') = false := by
  rw [Bool.eq_false_iff]
  intro hback
  obtain ⟨hreference, hat⟩ := Bool.and_eq_true_iff.1 hback
  obtain ⟨r, hr⟩ := Option.isSome_iff_exists.1 hreference
  have hold : c.isReference = true := by
    rw [Node.isReference, (h.of_reference hr).2.1]
    rfl
  rw [hold, h.isAt hself hat] at hnot
  cases hnot

/-- Following references keeps nodes mirrored.  The induction is on how long chains may be;
`maxChain` is as far as references that are replaced have been followed. -/
theorem settleWith_mirrors (hroot : root.spreadBytes = root) (hout : ¬ LooksInside files root)
    {fuel : Nat} {c c' m : Node} {l l' l₁ : Library} (hfuel : fuel ≤ View.maxChain)
    (hc : Mirrors files root o c c') (hl : LibraryMirrors files root o l l')
    (h : Runs (settleWith fuel c) l m l₁) :
    ∃ m' l₁', Runs (settleWith fuel c') l' m' l₁' ∧ LibraryMirrors files root o l₁ l₁'
      ∧ Mirrors files root o m m' := by
  revert hfuel c' l'
  refine settleWith_induct (P := fun fuel c l m l₁ => ∀ {c' l'}, fuel ≤ View.maxChain →
    Mirrors files root o c c' → LibraryMirrors files root o l l' → ∃ m' l₁',
      Runs (settleWith fuel c') l' m' l₁' ∧ LibraryMirrors files root o l₁ l₁'
        ∧ Mirrors files root o m m') ?_ ?_ fuel c l m l₁ h
  · intro fuel c l hplain c' l' _ hc hl
    exact ⟨c', l', (runs_settleWith_of_plain (hc.of_plain hplain)).2 ⟨rfl, rfl⟩, hl, hc⟩
  · rintro fuel c ref l found l₂ m l₁ href ih hleads hself hrest c' l' hfuel hc hl
    cases href' : c'.value.reference? with
    | none =>
      -- The reference was replaced: the new document is already where the old one leads to.
      obtain ⟨rfl, -⟩ | hmade := hc
      · rw [href] at href'
        cases href'
      have hrun : Runs (settleWith (fuel + 1) c) l m l₁ :=
        (runs_settleWith_iff href).2 ⟨found, l₂, hleads, hself, hrest⟩
      obtain ⟨rfl, hm⟩ := hmade.landed hroot hfuel hl.begins href href' hrun
      exact ⟨c', l', (runs_settleWith_of_plain href').2 ⟨rfl, rfl⟩, hl, .inr hm⟩
    | some ref' =>
      -- Both documents have the reference, and go the same way from mirrored roots.
      have hboth := hc.of_reference href'
      obtain ⟨rfl⟩ : ref = ref' := Option.some.inj (href ▸ hboth.2.1)
      obtain ⟨full, address, pointer, j, l₀, ht, hj, hwalk⟩ := hleads
      obtain ⟨l₀', hj', hl₀⟩ := hl.documentAt hj
      obtain ⟨found', l₂', hwalk', hl₂, hfound⟩ := walk_mirrors
        (fun d d' k k' m k₁ hd hk hrun => ⟨by rw [Node.isReference, settleWith_plain hrun]; rfl,
          ih d k m k₁ hrun (by omega) hd hk⟩)
        hboth (not_goesInto hout hc hl.begins href ht hj) (hl₀.rootNode j) hl₀ hwalk
      obtain ⟨m', l₁', hrest', hl₁, hm⟩ := ih found l₂ m l₁ hrest (by omega) hfound hl₂
      refine ⟨m', l₁', (runs_settleWith_iff href').2 ⟨found', l₂', ?_, hfound.not_self hboth hself,
        hrest'⟩, hl₁, hm⟩
      refine ⟨full, address, pointer, j, l₀', ?_, hj', hwalk'⟩
      rw [hl.baseOf, hc.document_eq]
      exact ht

end Mirror

end OpenApiClient.Reference
