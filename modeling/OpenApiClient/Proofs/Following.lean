/-
What following a reference does.

A run that succeeds is taken apart into its steps: the document that the address leads to, the
way that the pointer goes, and what stands at its end (`runs_settleWith_iff`).  From this three
facts follow by induction on how long chains may be.

The library only grows, so what has been read stays where it is.  More fuel changes nothing.
And a reference that never leaves its document is followed in the same way whatever else has
been read by then (`settleWith_local`), since it only ever asks for an address that is known.
-/
import OpenApiClient.Proofs.Outcomes
import OpenApiClient.Proofs.Places

set_option autoImplicit false

namespace OpenApiClient.Reference

open View

/-! ## Runs taken apart -/

/-- The address that references in a document are relative to. -/
def Library.baseOf (l : Library) (document : Nat) : List Char :=
  ((l.documents[document]?).map (·.base)).getD []

/-- The document at an address is a known one with that address, or it is read and put behind
the known ones. -/
theorem runs_documentAt_iff {ref : String} {address : List Char} {l l' : Library} {j : Nat} :
    Runs (documentAt ref address) l j l' ↔
      ∃ normal, Address.normal address = .ok normal
        ∧ ((l.documents.findIdx? (fun d => d.address = normal) = some j ∧ l' = l)
          ∨ (l.documents.findIdx? (fun d => d.address = normal) = none
            ∧ ∃ v, retrieve l.files address = .ok v ∧ j = l.documents.length
              ∧ l' = { l with documents := l.documents ++ [Shelved.mk address normal v] })) := by
  unfold documentAt documentAt.liftExcept
  simp only [runs_bind_iff, runs_get_iff, runs_lift_iff, mapError_eq_ok_iff]
  constructor
  · rintro ⟨k, k', ⟨hk, hk'⟩, normal, k'', ⟨hnormal, hk''⟩, h⟩
    rw [hk'', hk', hk] at h
    refine ⟨normal, hnormal, ?_⟩
    cases hfind : l.documents.findIdx? fun d => d.address = normal with
    | some i =>
      simp only [hfind] at h
      obtain ⟨hj, hl⟩ := runs_pure_iff.1 h
      exact .inl ⟨by rw [hj], hl⟩
    | none =>
      simp only [hfind, runs_bind_iff, runs_lift_iff, mapError_eq_ok_iff, runs_set_iff,
        runs_pure_iff] at h
      obtain ⟨v, u, ⟨hv, -⟩, -, u', hu', hj, hl⟩ := h
      exact .inr ⟨rfl, v, hv, hj, by rw [hl, hu']⟩
  · rintro ⟨normal, hnormal, h⟩
    refine ⟨l, l, ⟨rfl, rfl⟩, normal, l, ⟨hnormal, rfl⟩, ?_⟩
    rcases h with ⟨hfind, hl⟩ | ⟨hfind, v, hv, hj, hl⟩
    · simp only [hfind]
      exact runs_pure_iff.2 ⟨rfl, hl⟩
    · simp only [hfind, runs_bind_iff, runs_lift_iff, mapError_eq_ok_iff, runs_set_iff,
        runs_pure_iff]
      exact ⟨v, l, ⟨hv, rfl⟩, ⟨⟩, l', hl, hj, rfl⟩

theorem runs_walk_nil_iff {s : Node → Following Node} {self n m : Node} {e : Fault}
    {l l' : Library} : Runs (walk s self e n []) l m l' ↔ m = n ∧ l' = l := by
  rw [walk]
  exact runs_pure_iff

/-- The node that a way goes on from: a reference that meets itself is taken as it is written. -/
def GoesOnFrom (s : Node → Following Node) (self n : Node) (l : Library) (here : Node)
    (l' : Library) : Prop :=
  (n.isAt self = true ∧ here = n ∧ l' = l) ∨ (n.isAt self = false ∧ Runs (s n) l here l')

theorem runs_goOn_iff {s : Node → Following Node} {self n here : Node} {l l' : Library} :
    Runs (if n.isAt self then pure n else s n) l here l' ↔ GoesOnFrom s self n l here l' := by
  unfold GoesOnFrom
  cases n.isAt self with
  | true => simp [runs_pure_iff]
  | false => simp

/-- A step of a way, with the two cases of `GoesOnFrom` in one. -/
theorem walk_cons (s : Node → Following Node) (self n : Node) (e : Fault) (step : String)
    (steps : List String) :
    walk s self e n (step :: steps)
      = (if n.isAt self then pure n else s n) >>= fun here =>
        match here.step? step with
        | some next => walk s self e next steps
        | none => throw e := by
  rw [walk]
  cases n.isAt self <;> rfl

theorem runs_walk_cons_iff {s : Node → Following Node} {self n m : Node} {e : Fault}
    {step : String} {steps : List String} {l l' : Library} :
    Runs (walk s self e n (step :: steps)) l m l' ↔
      ∃ here l₁ next, GoesOnFrom s self n l here l₁ ∧ here.step? step = some next
        ∧ Runs (walk s self e next steps) l₁ m l' := by
  rw [walk_cons, runs_bind_iff]
  constructor
  · rintro ⟨here, l₁, hhere, h⟩
    cases hstep : here.step? step with
    | none => simp only [hstep, runs_throw_iff] at h
    | some next =>
      simp only [hstep] at h
      exact ⟨here, l₁, next, runs_goOn_iff.1 hhere, hstep, h⟩
  · rintro ⟨here, l₁, next, hgo, hstep, h⟩
    refine ⟨here, l₁, runs_goOn_iff.2 hgo, ?_⟩
    simp only [hstep]
    exact h

/-- What is not a reference stands for itself. -/
theorem runs_settleWith_of_plain {fuel : Nat} {n m : Node} {l l' : Library}
    (hn : n.value.reference? = none) : Runs (settleWith fuel n) l m l' ↔ m = n ∧ l' = l := by
  cases fuel with
  | zero =>
    rw [settleWith, Node.isReference, hn]
    exact runs_pure_iff
  | succ fuel =>
    rw [settleWith, hn]
    exact runs_pure_iff

theorem not_runs_settleWith_zero {n m : Node} {ref : String} {l l' : Library}
    (hn : n.value.reference? = some ref) : ¬ Runs (settleWith 0 n) l m l' := by
  rw [settleWith, Node.isReference, hn]
  exact runs_throw_iff.1

/-- The way that a reference describes: the document that it leads into, and the node at the
end of its pointer. -/
def LeadsTo (s : Node → Following Node) (n : Node) (ref : String) (l : Library) (found : Node)
    (l' : Library) : Prop :=
  ∃ full address pointer j l₁, View.target (l.baseOf n.document) ref = .ok (full, address, pointer)
    ∧ Runs (documentAt (.ofList full) address) l j l₁
    ∧ Runs (walk s n (.dangling (.ofList full) (.ofList pointer)) (l₁.rootNode j)
        (pointerSteps pointer)) l₁ found l'

/-- A reference stands for what stands for the node that it leads to, unless it leads to
itself. -/
theorem runs_settleWith_iff {fuel : Nat} {n m : Node} {ref : String} {l l' : Library}
    (hn : n.value.reference? = some ref) :
    Runs (settleWith (fuel + 1) n) l m l' ↔
      ∃ found l₁, LeadsTo (settleWith fuel) n ref l found l₁
        ∧ (found.isReference && found.isAt n) = false ∧ Runs (settleWith fuel found) l₁ m l' := by
  rw [settleWith, hn]
  unfold LeadsTo Library.baseOf
  simp only [runs_bind_iff, runs_get_iff]
  constructor
  · rintro ⟨k, k', ⟨hk, hk'⟩, h⟩
    rw [hk', hk] at h
    cases ht : View.target (((l.documents[n.document]?).map (·.base)).getD []) ref with
    | error f =>
      simp only [ht] at h
      exact (runs_throw_iff.1 h).elim
    | ok r =>
      obtain ⟨full, address, pointer⟩ := r
      simp only [ht, runs_bind_iff, runs_get_iff] at h
      obtain ⟨j, l₁, hj, u, u', ⟨hu, hu'⟩, found, l₂, hwalk, h⟩ := h
      rw [hu', hu] at hwalk
      cases hself : found.isReference && found.isAt n with
      | true =>
        simp only [hself, if_true, runs_bind_iff, runs_throw_iff] at h
        obtain ⟨_, _, hfalse, -⟩ := h
        exact hfalse.elim
      | false =>
        simp only [hself, Bool.false_eq_true, if_false] at h
        exact ⟨found, l₂, ⟨full, address, pointer, j, l₁, rfl, hj, hwalk⟩, hself, h⟩
  · rintro ⟨found, l₂, ⟨full, address, pointer, j, l₁, ht, hj, hwalk⟩, hself, h⟩
    refine ⟨l, l, ⟨rfl, rfl⟩, ?_⟩
    simp only [ht, runs_bind_iff, runs_get_iff]
    refine ⟨j, l₁, hj, l₁, l₁, ⟨rfl, rfl⟩, found, l₂, hwalk, ?_⟩
    simp only [hself, Bool.false_eq_true, if_false]
    exact h

/-- An induction over all that following a reference consists of.  What holds of a run that
stays where it is, is handed through a way, and is handed on from the end of the way, holds of
every run. -/
theorem settleWith_induct {P : Nat → Node → Library → Node → Library → Prop}
    (hplain : ∀ fuel n l, n.value.reference? = none → P fuel n l n l)
    (hreference : ∀ fuel n ref l found l₁ m l', n.value.reference? = some ref
      → (∀ n l m l', Runs (settleWith fuel n) l m l' → P fuel n l m l')
      → LeadsTo (settleWith fuel) n ref l found l₁
      → (found.isReference && found.isAt n) = false
      → Runs (settleWith fuel found) l₁ m l' → P (fuel + 1) n l m l') :
    ∀ fuel n l m l', Runs (settleWith fuel n) l m l' → P fuel n l m l' := by
  intro fuel
  induction fuel with
  | zero =>
    intro n l m l' h
    cases hn : n.value.reference? with
    | some ref => exact (not_runs_settleWith_zero hn h).elim
    | none =>
      obtain ⟨hm, hl⟩ := (runs_settleWith_of_plain hn).1 h
      rw [hm, hl]
      exact hplain 0 n l hn
  | succ fuel ih =>
    intro n l m l' h
    cases hn : n.value.reference? with
    | some ref =>
      obtain ⟨found, l₁, hleads, hself, hrest⟩ := (runs_settleWith_iff hn).1 h
      exact hreference fuel n ref l found l₁ m l' hn ih hleads hself hrest
    | none =>
      obtain ⟨hm, hl⟩ := (runs_settleWith_of_plain hn).1 h
      rw [hm, hl]
      exact hplain (fuel + 1) n l hn

/-! ## The library grows -/

/-- Nothing that has been read is forgotten, and nothing is read twice. -/
def Library.Extends (l l' : Library) : Prop :=
  l'.files = l.files ∧ l.documents <+: l'.documents

theorem Library.Extends.refl (l : Library) : l.Extends l := ⟨rfl, List.prefix_refl _⟩

theorem Library.Extends.trans {l l' l'' : Library} (h : l.Extends l') (h' : l'.Extends l'') :
    l.Extends l'' := ⟨h'.1.trans h.1, h.2.trans h'.2⟩

theorem documentAt_extends {ref : String} {address : List Char} {l l' : Library} {j : Nat}
    (h : Runs (documentAt ref address) l j l') : l.Extends l' ∧ j < l'.documents.length := by
  obtain ⟨normal, -, ⟨hfind, rfl⟩ | ⟨-, v, -, rfl, rfl⟩⟩ := runs_documentAt_iff.1 h
  · refine ⟨.refl _, ?_⟩
    obtain ⟨hlt, -⟩ := List.findIdx?_eq_some_iff_getElem.1 hfind
    exact hlt
  · refine ⟨⟨rfl, List.prefix_append _ _⟩, ?_⟩
    simp only [List.length_append, List.length_singleton]
    omega

theorem walk_extends {s : Node → Following Node} {self n m : Node} {e : Fault}
    {steps : List String} {l l' : Library}
    (hs : ∀ n l m l', Runs (s n) l m l' → l.Extends l')
    (h : Runs (walk s self e n steps) l m l') : l.Extends l' := by
  induction steps generalizing n l with
  | nil =>
    obtain ⟨-, rfl⟩ := runs_walk_nil_iff.1 h
    exact .refl _
  | cons step steps ih =>
    obtain ⟨here, l₁, next, hgo, -, hrest⟩ := runs_walk_cons_iff.1 h
    refine Library.Extends.trans ?_ (ih hrest)
    rcases hgo with ⟨-, -, rfl⟩ | ⟨-, hgo⟩
    · exact .refl _
    · exact hs n l here l₁ hgo

theorem settleWith_extends {fuel : Nat} {n m : Node} {l l' : Library}
    (h : Runs (settleWith fuel n) l m l') : l.Extends l' := by
  refine settleWith_induct (P := fun _ _ l _ l' => l.Extends l') (fun _ _ _ _ => .refl _) ?_
    fuel n l m l' h
  rintro fuel n ref l found l₁ m l' - ih ⟨full, address, pointer, j, l₀, -, hj, hwalk⟩ - hrest
  exact (documentAt_extends hj).1.trans ((walk_extends ih hwalk).trans (ih _ _ _ _ hrest))

/-! ## More fuel, and where a chain ends -/

theorem walk_mono {s s' : Node → Following Node} {self n m : Node} {e : Fault}
    {steps : List String} {l l' : Library}
    (hs : ∀ n l m l', Runs (s n) l m l' → Runs (s' n) l m l')
    (h : Runs (walk s self e n steps) l m l') : Runs (walk s' self e n steps) l m l' := by
  induction steps generalizing n l with
  | nil => exact runs_walk_nil_iff.2 (runs_walk_nil_iff.1 h)
  | cons step steps ih =>
    obtain ⟨here, l₁, next, hgo, hstep, hrest⟩ := runs_walk_cons_iff.1 h
    refine runs_walk_cons_iff.2 ⟨here, l₁, next, ?_, hstep, ih hrest⟩
    rcases hgo with hat | ⟨hat, hgo⟩
    · exact .inl hat
    · exact .inr ⟨hat, hs n l here l₁ hgo⟩

theorem settleWith_succ {fuel : Nat} {n m : Node} {l l' : Library}
    (h : Runs (settleWith fuel n) l m l') : Runs (settleWith (fuel + 1) n) l m l' := by
  refine settleWith_induct
    (P := fun fuel n l m l' => Runs (settleWith (fuel + 1) n) l m l') ?_ ?_ fuel n l m l' h
  · intro fuel n l hn
    exact (runs_settleWith_of_plain hn).2 ⟨rfl, rfl⟩
  · rintro fuel n ref l found l₁ m l' hn ih ⟨full, address, pointer, j, l₀, ht, hj, hwalk⟩ hself
      hrest
    exact (runs_settleWith_iff hn).2 ⟨found, l₁,
      ⟨full, address, pointer, j, l₀, ht, hj, walk_mono ih hwalk⟩, hself, ih _ _ _ _ hrest⟩

/-- A chain that can be followed can be followed with more fuel, and leads to the same node. -/
theorem settleWith_le {fuel fuel' : Nat} {n m : Node} {l l' : Library} (hle : fuel ≤ fuel')
    (h : Runs (settleWith fuel n) l m l') : Runs (settleWith fuel' n) l m l' := by
  induction hle with
  | refl => exact h
  | step _ ih => exact settleWith_succ ih

/-- No reference stands at the end of a chain. -/
theorem settleWith_plain {fuel : Nat} {n m : Node} {l l' : Library}
    (h : Runs (settleWith fuel n) l m l') : m.value.reference? = none := by
  refine settleWith_induct (P := fun _ _ _ m _ => m.value.reference? = none)
    (fun _ _ _ hn => hn) ?_ fuel n l m l' h
  intro fuel n ref l found l₁ m l' _ ih _ _ hrest
  exact ih _ _ _ _ hrest

/-! ## Nodes of the first document -/

/-- The first document of a library, to which the empty address leads, has a root. -/
def Library.Begins (files : Source.Files) (root : Value) (l : Library) : Prop :=
  ∃ rest, l = ⟨files, Shelved.mk [] [] root :: rest⟩

theorem Library.Begins.extends {files : Source.Files} {root : Value} {l l' : Library}
    (h : l.Begins files root) (hext : l.Extends l') : l'.Begins files root := by
  obtain ⟨rest, rfl⟩ := h
  obtain ⟨files', documents⟩ := l'
  obtain ⟨hfiles, more, hmore⟩ := hext
  dsimp only at hfiles hmore
  rw [hfiles, ← hmore]
  exact ⟨rest ++ more, rfl⟩

theorem Library.Begins.rootNode {files : Source.Files} {root : Value} {l : Library}
    (h : l.Begins files root) : l.rootNode 0 = ⟨0, [], root⟩ := by
  obtain ⟨rest, rfl⟩ := h
  rfl

theorem Library.Begins.baseOf {files : Source.Files} {root : Value} {l : Library}
    (h : l.Begins files root) : l.baseOf 0 = [] := by
  obtain ⟨rest, rfl⟩ := h
  rfl

/-- If a node belongs to the first document, its value is the one at its place there. -/
def Node.Grounded (root : Value) (n : Node) : Prop := n.document = 0 → n.StandsIn root

theorem Library.Begins.rootNode_grounded {files : Source.Files} {root : Value} {l : Library}
    (h : l.Begins files root) (j : Nat) : (l.rootNode j).Grounded root := by
  intro hj
  have hzero : j = 0 := hj
  rw [hzero, h.rootNode]
  rfl

theorem Node.Grounded.step {root : Value} {n next : Node} {step : String} (h : n.Grounded root)
    (hstep : n.step? step = some next) : next.Grounded root := by
  obtain ⟨i, slot, v, -, hpart, rfl⟩ := step?_eq_some_iff.1 hstep
  intro hdocument
  exact (h hdocument).child hpart

/-- A fact about a library and a node that every part of following a reference hands on: to the
root of the document that an address leads to, and to every part of the node. -/
structure HandedOn (P : Library → Node → Prop) : Prop where
  document : ∀ {l l' n ref address j}, P l n → Runs (documentAt ref address) l j l' →
    P l' (l'.rootNode j)
  step : ∀ {l n step next}, P l n → n.step? step = some next → P l next

theorem HandedOn.walk {P : Library → Node → Prop} (hP : HandedOn P) {s : Node → Following Node}
    {self n m : Node} {e : Fault} {steps : List String} {l l' : Library}
    (hs : ∀ n l m l', P l n → Runs (s n) l m l' → P l' m) (hn : P l n)
    (h : Runs (walk s self e n steps) l m l') : P l' m := by
  induction steps generalizing n l with
  | nil =>
    obtain ⟨rfl, rfl⟩ := runs_walk_nil_iff.1 h
    exact hn
  | cons step steps ih =>
    obtain ⟨here, l₁, next, hgo, hstep, hrest⟩ := runs_walk_cons_iff.1 h
    rcases hgo with ⟨-, rfl, rfl⟩ | ⟨-, hgo⟩
    · exact ih (hP.step hn hstep) hrest
    · exact ih (hP.step (hs n l here l₁ hn hgo) hstep) hrest

/-- So it is handed on to what stands in the place of the node. -/
theorem HandedOn.settleWith {P : Library → Node → Prop} (hP : HandedOn P) {fuel : Nat} {n m : Node}
    {l l' : Library} (hn : P l n) (h : Runs (settleWith fuel n) l m l') : P l' m := by
  refine settleWith_induct (P := fun _ n l m l' => P l n → P l' m) (fun _ _ _ _ hn => hn) ?_
    fuel n l m l' h hn
  rintro fuel n ref l found l₁ m l' - ih ⟨full, address, pointer, j, l₀, -, hj, hwalk⟩ - hrest hn
  have hfound : P l₁ found :=
    hP.walk (fun n l m l' hn h => ih n l m l' h hn) (hP.document hn hj) hwalk
  exact ih _ _ _ _ hrest hfound

/-- Following references from nodes of documents leads to nodes of documents. -/
theorem settleWith_grounded {files : Source.Files} {root : Value} {fuel : Nat} {n m : Node}
    {l l' : Library} (hl : l.Begins files root) (hn : n.Grounded root)
    (h : Runs (settleWith fuel n) l m l') : l'.Begins files root ∧ m.Grounded root := by
  have hhanded : HandedOn fun l n => l.Begins files root ∧ n.Grounded root := by
    refine ⟨?_, ?_⟩
    · intro l l' n ref address j h hj
      have hl' := h.1.extends (documentAt_extends hj).1
      exact ⟨hl', hl'.rootNode_grounded j⟩
    · intro l n step next h hstep
      exact ⟨h.1, h.2.step hstep⟩
  exact hhanded.settleWith ⟨hl, hn⟩ h

/-! ## Chains inside one document -/

theorem Library.Extends.eq_of_length {l l' : Library} (h : l.Extends l')
    (hlength : l'.documents.length ≤ l.documents.length) : l' = l := by
  obtain ⟨files, documents⟩ := l
  obtain ⟨files', documents'⟩ := l'
  obtain ⟨hfiles, hprefix⟩ := h
  dsimp only at hfiles hprefix hlength
  rw [hfiles, hprefix.eq_of_length_le hlength]

section Alone

variable {files : Source.Files} {d : Shelved}

/-- An address that leads to the only document of a library leads to it as well when others
have been read. -/
theorem documentAt_alone {ref : String} {address : List Char} {l' : Library} {j : Nat}
    (h : Runs (documentAt ref address) ⟨files, [d]⟩ j l') (hlength : l'.documents.length = 1) :
    j = 0 ∧ ∀ rest, Runs (documentAt ref address) ⟨files, d :: rest⟩ 0 ⟨files, d :: rest⟩ := by
  obtain ⟨normal, hnormal, ⟨hfind, -⟩ | ⟨-, v, -, -, rfl⟩⟩ := runs_documentAt_iff.1 h
  · obtain ⟨hlt, hat, -⟩ := List.findIdx?_eq_some_iff_getElem.1 hfind
    have hj : j = 0 := by
      simp only [List.length_singleton] at hlt
      omega
    subst hj
    refine ⟨rfl, fun rest => runs_documentAt_iff.2 ⟨normal, hnormal, .inl ⟨?_, rfl⟩⟩⟩
    exact List.findIdx?_eq_some_iff_getElem.2 ⟨by simp, hat, by simp⟩
  · simp at hlength

/-- What is followed inside the only document of a library is followed in the same way when
others have been read: what is known is never asked for. -/
def FollowedAlone (files : Source.Files) (d : Shelved) (f : Following Node) (m : Node)
    (l' : Library) : Prop :=
  l' = ⟨files, [d]⟩ ∧ m.document = 0
    ∧ ∀ rest, Runs f ⟨files, d :: rest⟩ m ⟨files, d :: rest⟩

theorem walk_alone {s : Node → Following Node} {self n m : Node} {e : Fault}
    {steps : List String} {l' : Library} (hext : ∀ n l m l', Runs (s n) l m l' → l.Extends l')
    (hs : ∀ n m l', n.document = 0 → l'.documents.length = 1 → Runs (s n) ⟨files, [d]⟩ m l'
      → FollowedAlone files d (s n) m l')
    (hn : n.document = 0) (hlength : l'.documents.length = 1)
    (h : Runs (walk s self e n steps) ⟨files, [d]⟩ m l') :
    FollowedAlone files d (walk s self e n steps) m l' := by
  induction steps generalizing n with
  | nil =>
    obtain ⟨rfl, rfl⟩ := runs_walk_nil_iff.1 h
    exact ⟨rfl, hn, fun rest => runs_walk_nil_iff.2 ⟨rfl, rfl⟩⟩
  | cons step steps ih =>
    obtain ⟨here, l₁, next, hgo, hstep, hrest⟩ := runs_walk_cons_iff.1 h
    have hdocument : next.document = here.document := by
      obtain ⟨i, slot, v, -, -, rfl⟩ := step?_eq_some_iff.1 hstep
      rfl
    rcases hgo with ⟨hat, rfl, rfl⟩ | ⟨hat, hgo⟩
    · obtain ⟨hl', hm, hagain⟩ := ih (hdocument.trans hn) hrest
      refine ⟨hl', hm, fun rest => ?_⟩
      exact runs_walk_cons_iff.2 ⟨here, _, next, .inl ⟨hat, rfl, rfl⟩, hstep, hagain rest⟩
    · -- The library did not grow afterwards, so it had not grown before.
      have hle : l₁.documents.length ≤ 1 := by
        rw [← hlength]
        exact (walk_extends hext hrest).2.length_le
      have hl₁ : l₁ = ⟨files, [d]⟩ := (hext _ _ _ _ hgo).eq_of_length hle
      subst hl₁
      obtain ⟨-, hhere, hfirst⟩ := hs n here _ hn rfl hgo
      obtain ⟨hl', hm, hagain⟩ := ih (hdocument.trans hhere) hrest
      refine ⟨hl', hm, fun rest => ?_⟩
      exact runs_walk_cons_iff.2 ⟨here, _, next, .inr ⟨hat, hfirst rest⟩, hstep, hagain rest⟩

theorem settleWith_alone {fuel : Nat} {n m : Node} {l' : Library} (hn : n.document = 0)
    (hlength : l'.documents.length = 1) (h : Runs (settleWith fuel n) ⟨files, [d]⟩ m l') :
    FollowedAlone files d (settleWith fuel n) m l' := by
  refine settleWith_induct (P := fun fuel n l m l' => l = ⟨files, [d]⟩ → n.document = 0 →
    l'.documents.length = 1 → FollowedAlone files d (settleWith fuel n) m l') ?_ ?_
    fuel n _ m l' h rfl hn hlength
  · intro fuel n l hplain hl hn _
    exact ⟨hl, hn, fun rest => (runs_settleWith_of_plain hplain).2 ⟨rfl, rfl⟩⟩
  · rintro fuel n ref l found l₁ m l' href ih ⟨full, address, pointer, j, l₀, ht, hj, hwalk⟩ hself
      hrest rfl hn hlength
    -- No step read another document, since the last library holds only one.
    have hext₁ := settleWith_extends hrest
    have hext₀ : l₀.Extends l₁ := walk_extends (fun _ _ _ _ => settleWith_extends) hwalk
    have hle₁ : l₁.documents.length ≤ 1 := hlength ▸ hext₁.2.length_le
    have hle₀ : l₀.documents.length ≤ 1 := Nat.le_trans hext₀.2.length_le hle₁
    have hl₀ : l₀ = ⟨files, [d]⟩ := (documentAt_extends hj).1.eq_of_length hle₀
    have hl₁ : l₁ = ⟨files, [d]⟩ := (hl₀ ▸ hext₀).eq_of_length hle₁
    subst hl₀ hl₁
    obtain ⟨rfl, hdocument⟩ := documentAt_alone hj rfl
    obtain ⟨-, hfound, hway⟩ := walk_alone (fun _ _ _ _ => settleWith_extends)
      (fun n m l' hn hlength h => ih n _ m l' h rfl hn hlength) rfl rfl hwalk
    obtain ⟨hl', hm, hagain⟩ := ih found _ m l' hrest rfl hfound hlength
    refine ⟨hl', hm, fun rest => (runs_settleWith_iff href).2 ⟨found, _, ?_, hself, hagain rest⟩⟩
    rw [hn] at ht
    refine ⟨full, address, pointer, 0, _, ?_, hdocument rest, hway rest⟩
    rw [hn]
    exact ht

end Alone

/-! ## References that look inside themselves -/

/-- A way comes to the reference `self`, and goes on inside of it. -/
inductive GoesInto (s : Node → Following Node) (self : Node) :
    Node → List String → Library → Prop
  | here {n next : Node} {step : String} {steps : List String} {l : Library} :
    n.isAt self = true → n.step? step = some next → GoesInto s self n (step :: steps) l
  | later {n here next : Node} {step : String} {steps : List String} {l l₁ : Library} :
    n.isAt self = false → Runs (s n) l here l₁ → here.step? step = some next
      → GoesInto s self next steps l₁ → GoesInto s self n (step :: steps) l

/-- Some reference in a document looks inside itself: its own way comes back to it and goes on
among its members, so what is found there depends on how the reference is written. -/
def LooksInside (files : Source.Files) (root : Value) : Prop :=
  ∃ (self : Node) (ref : String) (fuel : Nat) (l l₁ : Library) (full address pointer : List Char)
    (j : Nat), l.Begins files root ∧ self.document = 0 ∧ self.StandsIn root
      ∧ self.value.reference? = some ref
      ∧ View.target (l.baseOf self.document) ref = .ok (full, address, pointer)
      ∧ Runs (documentAt (.ofList full) address) l j l₁
      ∧ GoesInto (settleWith fuel) self (l₁.rootNode j) (pointerSteps pointer) l₁

/-- Whether no step of a reference is the name of a member of the reference itself. -/
def staysOut (v : Value) : Bool :=
  match v, v.reference? with
  | .object _ ms, some ref =>
    match View.target [] ref with
    | .ok (_, _, pointer) =>
      (pointerSteps pointer).all fun step => !(ms.map (·.1)).any fun k => k.isText step
    | .error _ => true
  | _, _ => true

mutual

/-- Whether this is so for all references in a value. -/
def allStayOut : Value → Bool
  | .object k ms => staysOut (.object k ms) && membersStayOut ms
  | .list items => itemsStayOut items
  | .pair k v => allStayOut k && allStayOut v
  | _ => true

/-- Whether this is so for all items of a list. -/
def itemsStayOut : List Value → Bool
  | [] => true
  | v :: vs => allStayOut v && itemsStayOut vs

/-- Whether this is so for all members of an object. -/
def membersStayOut : List (Scalar × Value) → Bool
  | [] => true
  | (_, v) :: ms => allStayOut v && membersStayOut ms

end

theorem itemsStayOut_iff {vs : List Value} :
    itemsStayOut vs = true ↔ ∀ v ∈ vs, allStayOut v = true := by
  induction vs with
  | nil => simp [itemsStayOut]
  | cons v vs ih => simp [itemsStayOut, ih]

theorem membersStayOut_iff {ms : Members} :
    membersStayOut ms = true ↔ ∀ m ∈ ms, allStayOut m.2 = true := by
  induction ms with
  | nil => simp [membersStayOut]
  | cons m ms ih => simp [membersStayOut, ih]

theorem allStayOut_part {v w : Value} {i : Nat} {slot : Slot} (hv : allStayOut v = true)
    (hpart : part? v i = some (slot, w)) : allStayOut w = true := by
  rcases part?_cases hpart with ⟨k, ms, m, rfl, hm, -, rfl⟩ | ⟨items, rfl, hw, -⟩
    | ⟨s, c, -, -, -, rfl⟩ | ⟨k, u, rfl, -, ⟨-, rfl⟩ | ⟨-, rfl⟩⟩
  · rw [allStayOut, Bool.and_eq_true] at hv
    exact membersStayOut_iff.1 hv.2 m (List.mem_of_getElem? hm)
  · rw [allStayOut] at hv
    exact itemsStayOut_iff.1 hv w (List.mem_of_getElem? hw)
  · rfl
  · rw [allStayOut, Bool.and_eq_true] at hv
    exact hv.1
  · rw [allStayOut, Bool.and_eq_true] at hv
    exact hv.2

theorem staysOut_of_allStayOut {v : Value} (h : allStayOut v = true) : staysOut v = true := by
  cases v with
  | object k ms =>
    rw [allStayOut, Bool.and_eq_true] at h
    exact h.1
  | _ => rfl

theorem isAt_iff {n m : Node} :
    n.isAt m = true ↔ n.document = m.document ∧ n.place = m.place := by
  simp [Node.isAt]

theorem Node.eq_of_isAt {root : Value} {n m : Node} (hat : n.isAt m = true)
    (hn : n.StandsIn root) (hm : m.StandsIn root) : n = m := by
  have hat' := isAt_iff.1 hat
  have hvalue := hn.value_eq hm hat'.2
  obtain ⟨document, place, v⟩ := n
  obtain ⟨document', place', v'⟩ := m
  obtain ⟨rfl, rfl⟩ := hat'
  dsimp only at hvalue
  rw [hvalue]

/-- A way that goes into a reference has a step that names a part of it. -/
theorem GoesInto.exists_step {files : Source.Files} {root : Value} {fuel : Nat} {self n : Node}
    {steps : List String} {l : Library} (h : GoesInto (settleWith fuel) self n steps l)
    (hself : self.document = 0) (hstands : self.StandsIn root) (hl : l.Begins files root)
    (hn : n.Grounded root) : ∃ step ∈ steps, (self.step? step).isSome = true := by
  induction h with
  | @here n next step steps l hat hstep =>
    -- two nodes at one place of a document have one value
    have hdocument : n.document = self.document := (isAt_iff.1 hat).1
    have heq : n = self := Node.eq_of_isAt hat (hn (hdocument.trans hself)) hstands
    refine ⟨step, List.mem_cons_self, ?_⟩
    rw [← heq, hstep]
    rfl
  | later hat hrun hstep _ ih =>
    obtain ⟨hl₁, hhere⟩ := settleWith_grounded hl hn hrun
    obtain ⟨step, hmem, hsome⟩ := ih hl₁ (hhere.step hstep)
    exact ⟨step, List.mem_cons_of_mem _ hmem, hsome⟩

/-- No reference looks inside itself if none has a step that is the name of a member of its
own. -/
theorem not_looksInside_of_allStayOut {files : Source.Files} {root : Value}
    (h : allStayOut root = true) : ¬ LooksInside files root := by
  rintro ⟨self, ref, fuel, l, l₁, full, address, pointer, j, hl, hself, hstands, href, ht, hj,
    hinto⟩
  -- the step that goes into the reference would be the key of one of its members
  have hl₁ := hl.extends (documentAt_extends hj).1
  obtain ⟨step, hmem, hsome⟩ :=
    hinto.exists_step hself hstands hl₁ (hl₁.rootNode_grounded j)
  have hout : staysOut self.value = true := staysOut_of_allStayOut
    (of_valueAt (P := fun v => allStayOut v = true) h (fun _ _ _ _ => allStayOut_part) hstands)
  rw [hself, hl.baseOf] at ht
  obtain ⟨document, place, v⟩ := self
  cases v with
  | object k ms =>
    dsimp only at href hout
    simp only [staysOut, href, ht, List.all_eq_true] at hout
    have hnone := hout step hmem
    obtain ⟨next, hstep⟩ := Option.isSome_iff_exists.1 hsome
    obtain ⟨i, slot, v, hi, -, -⟩ := step?_eq_some_iff.1 hstep
    obtain ⟨hlt, hk, -⟩ := List.findIdx?_eq_some_iff_getElem.1 hi
    rw [Bool.not_eq_true', List.any_eq_false] at hnone
    exact hnone _ (List.getElem_mem hlt) hk
  | _ => cases href

end OpenApiClient.Reference
