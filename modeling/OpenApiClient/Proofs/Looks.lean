/-
Looking at places of a document and of what is made of it.

Everything that is asked of a node is answered in the same way by its mirror: whether it is
given, which members and parts it has, and which text it is.  The members of mirrored nodes
are mirrored, and those under a kept key have the same values.

Besides the nodes of a document there are nodes that only carry a scalar: the keys of an object
that is gone through, or the numbers of bytes.  They stand nowhere, so they are no mirrors;
`Resembles` takes both kinds together.
-/
import Mathlib.Data.List.Forall2
import OpenApiClient.Proofs.Mirror

set_option autoImplicit false

namespace OpenApiClient.Document

open Reference

section Looks

variable {files : Source.Files} {root : Value} {o : Outline}

/-- Two nodes that are mirrored, or carry the same scalar. -/
def Resembles (files : Source.Files) (root : Value) (o : Outline) (c c' : Node) : Prop :=
  Mirrors files root o c c' ∨ ∃ s, c.value = .scalar s ∧ c'.value = .scalar s

/-- Whenever the first computation succeeds in the old document, the second one does in the new
one, and gives what is related by `R`. -/
abbrev Agree (files : Source.Files) (root : Value) (o : Outline) {α α' : Type}
    (R : α → α' → Prop) (m : Reading α) (m' : Reading α') : Prop :=
  Matches (LibraryMirrors files root o) R m m'

/-! ## What mirrored nodes have in common -/

/-- A node that stands for itself, and one that resembles it. -/
def Settled (files : Source.Files) (root : Value) (o : Outline) (c c' : Node) : Prop :=
  Resembles files root o c c' ∧ c.isReference = false

theorem runs_settle_iff {n m : Node} {l l' : Library} :
    Runs (settle n) l m l' ↔ Runs (View.settle n) l m l' :=
  mapError_eq_ok_iff

/-- What stands there itself in the old document does so in the new one. -/
theorem Resembles.plain {c c' : Node} (h : Resembles files root o c c')
    (hplain : c.isReference = false) : c'.isReference = false := by
  rw [Node.isReference, Option.isSome_eq_false_iff, Option.isNone_iff_eq_none] at hplain ⊢
  rcases h with h | ⟨s, -, hs'⟩
  · exact h.of_plain hplain
  · rw [hs']
    rfl

theorem Settled.alike {c c' : Node} (h : Settled files root o c c') : Alike c.value c'.value := by
  obtain ⟨(⟨rfl, -⟩ | hmade) | ⟨s, hs, hs'⟩, hplain⟩ := h
  · exact .same
  · exact hmade.alike hplain
  · rw [hs, hs']
    exact .same

/-- A part of a node and the part of its mirror at the same position. -/
theorem Settled.child {c c' : Node} (h : Settled files root o c c') {i : Nat} {slot : Slot}
    {v : Value} (hobject : ∀ s, c.value ≠ .scalar s) (hpart : part? c.value i = some (slot, v)) :
    ∃ v', part? c'.value i = some (slot, v') ∧ Mirrors files root o (c.child i v) (c'.child i v')
      ∧ (slot.isKept = true → v' = v) := by
  obtain ⟨(⟨rfl, hdocument⟩ | hmade) | ⟨s, hs, -⟩, hplain⟩ := h
  · exact ⟨v, hpart, .inl ⟨rfl, hdocument⟩, fun _ => rfl⟩
  · obtain ⟨v', hpart', hchild, hkept⟩ := hmade.child hplain hpart
    exact ⟨v', hpart', .inr hchild, hkept⟩
  · exact (hobject s hs).elim

/-! ## Members -/

/-- Two members with one key whose nodes are mirrored, and which have one value if the key is a
kept one. -/
def MemberMirrors (files : Source.Files) (root : Value) (o : Outline) (m m' : Scalar × Node) :
    Prop :=
  m'.1 = m.1 ∧ Mirrors files root o m.2 m'.2
    ∧ ((Slot.member m.1).isKept = true → m'.2.value = m.2.value)

theorem forall₂_of_getElem? {α β : Type} {R : α → β → Prop} {xs : List α} {ys : List β}
    (hlength : ys.length = xs.length)
    (h : ∀ (i : Nat) x y, xs[i]? = some x → ys[i]? = some y → R x y) : List.Forall₂ R xs ys := by
  rw [List.forall₂_iff_get]
  refine ⟨hlength.symm, fun i hi hi' => ?_⟩
  exact h i _ _ (List.getElem?_eq_getElem hi) (List.getElem?_eq_getElem hi')

theorem memberNodes_mirror {c c' : Node} (h : Settled files root o c c') {k : Nat} {ms : Members}
    (hvalue : c.value = .object k ms) :
    ∃ ms', c'.value = .object k ms'
      ∧ List.Forall₂ (MemberMirrors files root o) (memberNodes c ms) (memberNodes c' ms') := by
  obtain ⟨ms', hvalue', hkeys⟩ := h.alike.exists_object hvalue
  refine ⟨ms', hvalue', forall₂_of_getElem? ?_ ?_⟩
  · have hlength := congrArg List.length hkeys
    rw [List.length_map, List.length_map] at hlength
    rw [memberNodes_length, memberNodes_length, hlength]
  · intro i m m' hm hm'
    rw [memberNodes_getElem?] at hm hm'
    obtain ⟨⟨key, v⟩, hi, rfl⟩ := Option.map_eq_some_iff.1 hm
    obtain ⟨⟨key', v'⟩, hi', rfl⟩ := Option.map_eq_some_iff.1 hm'
    have hmember : part? c.value i = some (.member key, v) := by
      rw [hvalue, part?, hi]
      rfl
    obtain ⟨w, hpart, hchild, hkept⟩ := h.child
      (fun s hs => by rw [hvalue] at hs; cases hs) hmember
    rw [hvalue', part?, hi', Option.map_some] at hpart
    cases hpart
    exact ⟨rfl, hchild, hkept⟩

theorem find?_mirror {ms ms' : List (Scalar × Node)} (key : String)
    (h : List.Forall₂ (MemberMirrors files root o) ms ms') :
    Option.Rel (fun n n' => Mirrors files root o n n' ∧ (key ∈ keptKeys → n'.value = n.value))
      (find? ms key) (find? ms' key) := by
  induction h with
  | nil => exact .none
  | @cons m m' ms ms' hm _ ih =>
    unfold find? at ih ⊢
    rw [List.find?_cons, List.find?_cons, hm.1]
    cases hkey : m.1.isText key with
    | true => exact .some ⟨hm.2.1, fun hmem => hm.2.2 (isKept_of_isText hmem hkey)⟩
    | false => exact ih

/-- A member with a name: mirrored, or missing in both. -/
theorem find?_resembles {ms ms' : List (Scalar × Node)} (key : String)
    (h : List.Forall₂ (MemberMirrors files root o) ms ms') :
    Option.Rel (Resembles files root o) (find? ms key) (find? ms' key) := by
  have hfind := find?_mirror key h
  generalize find? ms key = n at hfind ⊢
  generalize find? ms' key = n' at hfind ⊢
  cases hfind with
  | none => exact .none
  | some h => exact .some (.inl h.1)

/-- Under a kept key stands one value in both. -/
theorem find?_value {ms ms' : List (Scalar × Node)} (key : String) (hkey : key ∈ keptKeys)
    (h : List.Forall₂ (MemberMirrors files root o) ms ms') :
    (find? ms' key).map (·.value) = (find? ms key).map (·.value) := by
  have hfind := find?_mirror key h
  generalize find? ms key = n at hfind ⊢
  generalize find? ms' key = n' at hfind ⊢
  cases hfind with
  | none => rfl
  | some h => rw [Option.map_some, Option.map_some, h.2 hkey]

/-! ## Parts -/

theorem children_scalars {c c' : Node} {vs : List Value}
    (h : ∀ v ∈ vs, ∃ s, v = .scalar s) :
    List.Forall₂ (Resembles files root o) (c.children vs) (c'.children vs) := by
  refine forall₂_of_getElem? (by rw [children_length, children_length]) fun i n n' hn hn' => ?_
  rw [children_getElem?] at hn hn'
  obtain ⟨v, hv, rfl⟩ := Option.map_eq_some_iff.1 hn
  obtain ⟨v', hv', rfl⟩ := Option.map_eq_some_iff.1 hn'
  rw [hv] at hv'
  cases hv'
  obtain ⟨s, hs⟩ := h v (List.mem_of_getElem? hv)
  exact .inr ⟨s, hs, hs⟩

/-- Parts that stand at the same positions are mirrored. -/
theorem children_mirror {c c' : Node} (h : Settled files root o c c')
    (hobject : ∀ s, c.value ≠ .scalar s) {vs vs' : List Value} (hlength : vs'.length = vs.length)
    (hvs : ∀ (i : Nat) v, vs[i]? = some v → part? c.value i = some (.item, v))
    (hvs' : ∀ (i : Nat) v, vs'[i]? = some v → part? c'.value i = some (.item, v)) :
    List.Forall₂ (Resembles files root o) (c.children vs) (c'.children vs') := by
  refine forall₂_of_getElem? (by rw [children_length, children_length, hlength])
    fun i n n' hn hn' => ?_
  rw [children_getElem?] at hn hn'
  obtain ⟨v, hv, rfl⟩ := Option.map_eq_some_iff.1 hn
  obtain ⟨v', hv', rfl⟩ := Option.map_eq_some_iff.1 hn'
  obtain ⟨w, hpart, hchild, -⟩ := h.child hobject (hvs i v hv)
  rw [hvs' i v' hv'] at hpart
  cases hpart
  exact .inl hchild

theorem parts_resemble {c c' : Node} (h : Settled files root o c c') {vs : List Value}
    (hparts : c.value.parts? = some vs) :
    ∃ vs', c'.value.parts? = some vs'
      ∧ List.Forall₂ (Resembles files root o) (c.children vs) (c'.children vs') := by
  -- items of lists and halves of pairs are parts of the node; all other parts are scalars
  rcases Value.parts?_cases hparts with hitems | ⟨k, w, hpair, rfl⟩ | ⟨hlist, hpair, hscalars⟩
  · obtain ⟨items', hitems', hlength⟩ := h.alike.exists_list hitems
    refine ⟨items', by rw [hitems']; rfl, children_mirror h ?_ hlength ?_ ?_⟩
    · intro s hs
      rw [hitems] at hs
      cases hs
    · intro i v hv
      rw [hitems, part?, hv]
      rfl
    · intro i v hv
      rw [hitems', part?, hv]
      rfl
  · obtain ⟨k', w', hpair'⟩ := h.alike.exists_pair hpair
    have htwo : ∀ (a b v : Value) (i : Nat), [a, b][i]? = some v →
        part? (.pair a b) i = some (.item, v) := by
      intro a b v i hi
      rcases i with _ | _ | i
      · cases hi
        rfl
      · cases hi
        rfl
      · cases hi
    refine ⟨[k', w'], by rw [hpair']; rfl, children_mirror h ?_ rfl ?_ ?_⟩
    · intro s hs
      rw [hpair] at hs
      cases hs
    · intro i v hv
      rw [hpair]
      exact htwo k w v i hv
    · intro i v hv
      rw [hpair']
      exact htwo k' w' v i hv
  · exact ⟨vs, (h.alike.parts? hlist hpair).trans hparts, children_scalars hscalars⟩

/-! ## What is answered -/

section Agreement

variable (hroot : root.spreadBytes = root) (hout : ¬ LooksInside files root)
include hroot hout

theorem settle_agree {c c' : Node} (hc : Resembles files root o c c') :
    Agree files root o (Settled files root o) (settle c) (settle c') := by
  intro l l' m l₁ hl hrun
  rw [runs_settle_iff] at hrun
  rcases hc with hc | ⟨s, hs, hs'⟩
  · obtain ⟨m', l₁', hrun', hl₁, hm⟩ :=
      settleWith_mirrors hroot hout (Nat.le_refl _) hc hl hrun
    refine ⟨m', l₁', runs_settle_iff.2 hrun', hl₁, .inl hm, ?_⟩
    rw [Node.isReference, settleWith_plain hrun]
    rfl
  · have hplain : c.value.reference? = none := by rw [hs]; rfl
    have hplain' : c'.value.reference? = none := by rw [hs']; rfl
    obtain ⟨rfl, rfl⟩ := (runs_settleWith_of_plain hplain).1 hrun
    refine ⟨c', l', runs_settle_iff.2 ((runs_settleWith_of_plain hplain').2 ⟨rfl, rfl⟩), hl,
      .inr ⟨s, hs, hs'⟩, ?_⟩
    rw [Node.isReference, hplain]
    rfl

theorem membersFor_agree {name : String} {c c' : Node} (hc : Resembles files root o c c') :
    Agree files root o (List.Forall₂ (MemberMirrors files root o)) (membersFor name c)
      (membersFor name c') := by
  refine (settle_agree hroot hout hc).bind fun m m' hm => ?_
  split
  · rename_i k ms hvalue
    obtain ⟨ms', hvalue', hmembers⟩ := memberNodes_mirror hm hvalue
    rw [hvalue']
    exact .pure hmembers
  · exact .throw _ _

theorem membersOfOptional_agree {name : String} {c c' : Option Node}
    (hc : Option.Rel (Resembles files root o) c c') :
    Agree files root o (List.Forall₂ (MemberMirrors files root o)) (membersOfOptional name c)
      (membersOfOptional name c') := by
  cases hc with
  | none => exact .pure .nil
  | some hc => exact membersFor_agree hroot hout hc

theorem partsOf_agree {c c' : Node} (hc : Resembles files root o c c') :
    Agree files root o (List.Forall₂ (Resembles files root o)) (partsOf c) (partsOf c') := by
  refine (settle_agree hroot hout hc).bind fun m m' hm => ?_
  cases hparts : m.value.parts? with
  | none => exact .throw _ _
  | some vs =>
    obtain ⟨vs', hparts', hchildren⟩ := parts_resemble hm hparts
    rw [hparts']
    exact .pure hchildren

theorem partsOfOptional_agree {c c' : Option Node} (hc : Option.Rel (Resembles files root o) c c') :
    Agree files root o (List.Forall₂ (Resembles files root o)) (partsOfOptional c)
      (partsOfOptional c') := by
  cases hc with
  | none => exact .pure .nil
  | some hc => exact partsOf_agree hroot hout hc

theorem isGiven_agree {c c' : Node} (hc : Resembles files root o c c') :
    Agree files root o Eq (isGiven c) (isGiven c') :=
  (settle_agree hroot hout hc).bind fun _ _ hm => .pure hm.alike.isGiven.symm

theorem isGivenOr_agree {default : Bool} {c c' : Option Node}
    (hc : Option.Rel (Resembles files root o) c c') :
    Agree files root o Eq (isGivenOr default c) (isGivenOr default c') := by
  cases hc with
  | none => exact .pure rfl
  | some hc => exact isGiven_agree hroot hout hc

theorem holdsText_agree {name : String} {cs cs' : List Node}
    (hcs : List.Forall₂ (Resembles files root o) cs cs') :
    Agree files root o Eq (holdsText name cs) (holdsText name cs') := by
  induction hcs with
  | nil => exact .pure rfl
  | cons hc _ ih =>
    refine (settle_agree hroot hout hc).bind fun m m' hm => ?_
    rw [hm.alike.text?]
    split
    · exact .pure rfl
    · exact ih

/-- A part with a name is found in both, and has one value if the name is a kept key. -/
theorem partNamed?_agree {name : String} {c c' : Node} (hc : Resembles files root o c c') :
    Agree files root o
      (Option.Rel fun n n' => Mirrors files root o n n' ∧ (name ∈ keptKeys → n'.value = n.value))
      (partNamed? c name) (partNamed? c' name) := by
  refine (settle_agree hroot hout hc).bind fun m m' hm => ?_
  cases hvalue : m.value with
  | object k ms =>
    obtain ⟨ms', hvalue', hmembers⟩ := memberNodes_mirror hm hvalue
    rw [hvalue']
    exact .pure (find?_mirror name hmembers)
  | list items =>
    obtain ⟨items', hvalue', -⟩ := hm.alike.exists_list hvalue
    have hparts : m.value.parts? = some items := by
      rw [hvalue]
      rfl
    obtain ⟨vs', hparts', hchildren⟩ := parts_resemble hm hparts
    rw [hvalue'] at hparts' ⊢
    cases hparts'
    -- a list has no part with a name, and what is asked is whether the name is an item
    refine (holdsText_agree hroot hout hchildren).bind fun b b' hb => ?_
    subst hb
    split
    · exact .throw _ _
    · exact .pure .none
  | set ms =>
    have hvalue' : m'.value = .set ms := by
      have halike := hm.alike
      rw [hvalue] at halike
      generalize m'.value = v' at halike ⊢
      cases halike
      rfl
    rw [hvalue']
    dsimp only
    split
    · exact .throw _ _
    · exact .pure .none
  | scalar s =>
    rw [hm.alike.scalar hvalue]
    cases s with
    | text t =>
      dsimp only
      split
      · exact .throw _ _
      · exact .pure .none
    | _ => exact .throw _ _
  | pair k w => exact .throw _ _
  | again k => exact .throw _ _

end Agreement

/-! ## Texts

What is shown of a faulty field is found by following references, which can read other
documents; two documents are not alike in that.  A field that is in order is read without
following anything. -/

theorem runs_text_ok_iff {n : Node} {s : String} {l l' : Library} :
    Runs (text n) l (.ok s) l' ↔
      n.isReference = false ∧ Validation.text n.value = .ok s ∧ l' = l := by
  unfold text
  -- a reference is no text, whatever it leads to
  cases href : n.isReference with
  | true =>
    rw [if_pos rfl, runs_bind_iff]
    constructor
    · rintro ⟨literal, l₁, -, h⟩
      obtain ⟨h, -⟩ := runs_pure_iff.1 h
      cases h
    · rintro ⟨h, -⟩
      cases h
  | false =>
    rw [if_neg Bool.false_ne_true]
    cases htext : Validation.text n.value with
    | faults x xs =>
      dsimp only
      rw [runs_bind_iff]
      constructor
      · rintro ⟨input, l₁, -, h⟩
        obtain ⟨h, -⟩ := runs_pure_iff.1 h
        cases h
      · rintro ⟨-, h, -⟩
        cases h
    | ok t =>
      refine runs_pure_iff.trans ?_
      constructor
      · rintro ⟨h, hl⟩
        exact ⟨rfl, h.symm, hl⟩
      · rintro ⟨-, h, hl⟩
        exact ⟨h.symm, hl⟩
    | stopped =>
      refine runs_pure_iff.trans ?_
      constructor
      · rintro ⟨h, -⟩
        cases h
      · rintro ⟨-, h, -⟩
        cases h

theorem exists_scalar_of_text {v : Value} {s : String} (h : Validation.text v = .ok s) :
    ∃ scalar, v = .scalar scalar := by
  cases v with
  | scalar scalar => exact ⟨scalar, rfl⟩
  | _ => cases h

/-- A text stands in both, if it stands in one. -/
theorem text_agree {c c' : Node} {s : String} {l l₁ : Library} (l' : Library)
    (hc : Resembles files root o c c') (h : Runs (text c) l (.ok s) l₁) :
    l₁ = l ∧ Runs (text c') l' (.ok s) l' := by
  obtain ⟨hplain, htext, hl⟩ := runs_text_ok_iff.1 h
  obtain ⟨scalar, hscalar⟩ := exists_scalar_of_text htext
  have hsettled : Settled files root o c c' := ⟨hc, hplain⟩
  refine ⟨hl, runs_text_ok_iff.2 ⟨hc.plain hplain, ?_, rfl⟩⟩
  rw [hsettled.alike.scalar hscalar, ← hscalar, htext]

theorem optionalText_agree {c c' : Option Node} {s : Option String} {l l₁ : Library}
    (l' : Library) (hc : Option.Rel (Resembles files root o) c c')
    (h : Runs (optionalText c) l (.ok s) l₁) :
    l₁ = l ∧ Runs (optionalText c') l' (.ok s) l' := by
  cases hc with
  | none =>
    obtain ⟨hs, hl⟩ := runs_pure_iff.1 h
    exact ⟨hl, runs_pure_iff.2 ⟨hs, rfl⟩⟩
  | @some c c' hc =>
    -- a reference is no null, so both are null or neither is
    have hnull : c.isReference = false → c'.value.isNull = c.value.isNull :=
      fun hplain => (show Settled files root o c c' from ⟨hc, hplain⟩).alike.isNull
    unfold optionalText at h ⊢
    dsimp only at h ⊢
    by_cases habsent : c.value.isNull = true
    · have hplain : c.isReference = false := by
        rw [Node.isReference, Value.eq_null_of_isNull habsent]
        rfl
      rw [if_pos habsent] at h
      rw [if_pos ((hnull hplain).trans habsent)]
      obtain ⟨hs, hl⟩ := runs_pure_iff.1 h
      exact ⟨hl, runs_pure_iff.2 ⟨hs, rfl⟩⟩
    · rw [if_neg habsent, runs_bind_iff] at h
      obtain ⟨checked, l₂, htext, h⟩ := h
      obtain ⟨hs, rfl⟩ := runs_pure_iff.1 h
      obtain ⟨t, rfl, ht⟩ := Validation.Checked.map_eq_ok_iff.1 hs.symm
      have hplain := (runs_text_ok_iff.1 htext).1
      obtain ⟨hl, htext'⟩ := text_agree l' hc htext
      rw [if_neg (by rw [hnull hplain]; exact habsent), runs_bind_iff]
      exact ⟨hl, _, _, htext', runs_pure_iff.2 ⟨hs, rfl⟩⟩

/-- Several texts stand in both, if all of them stand in one. -/
theorem texts_agree {cs cs' : List Node} {ss : List String} {l l₁ : Library} (l' : Library)
    (hcs : List.Forall₂ (Resembles files root o) cs cs')
    (h : Runs (cs.mapM text) l (ss.map .ok) l₁) :
    l₁ = l ∧ Runs (cs'.mapM text) l' (ss.map .ok) l' := by
  induction hcs generalizing ss l with
  | nil =>
    rw [List.mapM_nil] at h ⊢
    obtain ⟨hs, hl⟩ := runs_pure_iff.1 h
    exact ⟨hl, runs_pure_iff.2 ⟨hs, rfl⟩⟩
  | @cons c c' cs cs' hc _ ih =>
    rw [List.mapM_cons] at h ⊢
    simp only [runs_bind_iff, runs_pure_iff] at h ⊢
    obtain ⟨checked, l₂, hfirst, rest, l₃, hrest, hss, rfl⟩ := h
    cases ss with
    | nil => cases hss
    | cons s ss =>
      rw [List.map_cons, List.cons.injEq] at hss
      obtain ⟨rfl, rfl⟩ := hss
      obtain ⟨rfl, hfirst'⟩ := text_agree l' hc hfirst
      obtain ⟨hl, hrest'⟩ := ih hrest
      exact ⟨hl, _, _, hfirst', _, _, hrest', rfl, rfl⟩

theorem numbered_eq_ok_iff {i : Nat} {cs : List (Validation.Checked String)} {ss : List String} :
    numbered i cs = .ok ss ↔ cs = ss.map .ok := by
  induction cs generalizing i ss with
  | nil =>
    rw [numbered]
    constructor
    · rintro ⟨⟩
      rfl
    · intro h
      rw [List.map_eq_nil_iff.1 h.symm]
  | cons c cs ih =>
    rw [numbered, Validation.Checked.seq_eq_ok_iff]
    simp only [Validation.Checked.map_eq_ok_iff, Validation.Checked.within_eq_ok_iff, ih]
    constructor
    · rintro ⟨g, rest, ⟨s, rfl, rfl⟩, rfl, rfl⟩
      rfl
    · intro h
      cases ss with
      | nil => cases h
      | cons s ss =>
        rw [List.map_cons, List.cons.injEq] at h
        exact ⟨_, ss, ⟨s, h.1, rfl⟩, h.2, rfl⟩

theorem runs_finished_iff {α : Type} {part : String} {checked : Validation.Checked α} {a : α}
    {l l' : Library} : Runs (finished part checked) l a l' ↔ checked = .ok a ∧ l' = l := by
  rw [finished, runs_lift_iff]
  cases checked <;> simp [check]

end Looks

end OpenApiClient.Document
