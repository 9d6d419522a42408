/-
Reading what is given in place.

Where no reference stands nothing is followed, so what is read of a node depends on the value
that the node shows, and on nothing else: neither on the place of the node nor on the documents
that have been read so far.  `Reads` compares two readings of this kind, begun with whatever
libraries.

A field that has to be a text may be a reference nevertheless.  Then it is at fault, and so is
the same field of the other document, whatever is shown of it.
-/
import OpenApiClient.Proofs.Agreement
import OpenApiClient.Proofs.Looks
import OpenApiClient.Proofs.Renewal

set_option autoImplicit false

namespace OpenApiClient.Document

open Reference (Node Library)
open Validation (Checked)
open Value (spreadBytes spreadItems spreadMembers)

/-! ## Nodes and what they show -/

/-- The node shows the value: with bytes as lists of numbers. -/
def Shows (v : Value) (n : Node) : Prop := n.value = v.spreadBytes

/-- The nodes show the members. -/
abbrev ShowsMembers : Members → List (Scalar × Node) → Prop :=
  List.Forall₂ fun m p => m.1 = p.1 ∧ Shows m.2 p.2

theorem Shows.reference? {v : Value} {n : Node} (h : Shows v n) :
    n.value.reference? = v.reference? := by
  rw [h, Reference.reference?_spreadBytes]

theorem showsMembers_memberNodes (n : Node) (ms : Members) :
    ShowsMembers ms (memberNodes n (spreadMembers ms)) := by
  refine forall₂_of_getElem? ?_ fun i m p hm hp => ?_
  · rw [Reference.memberNodes_length, Reference.spreadMembers_eq, List.length_map]
  · rw [Reference.memberNodes_getElem?, Reference.spreadMembers_eq, List.getElem?_map, hm] at hp
    cases hp
    exact ⟨rfl, rfl⟩

theorem children_values (n : Node) (vs : List Value) :
    List.Forall₂ (fun v m => m.value = v) vs (n.children vs) := by
  refine forall₂_of_getElem? (Reference.children_length n vs) fun i v m hv hm => ?_
  rw [Reference.children_getElem?, hv] at hm
  cases hm
  rfl

theorem shows_children (n : Node) (vs : List Value) :
    List.Forall₂ Shows vs (n.children (vs.map spreadBytes)) := by
  have h := children_values n (vs.map spreadBytes)
  rwa [List.forall₂_map_left_iff] at h

theorem children_same (n n' : Node) (vs : List Value) :
    List.Forall₂ (fun m m' => m.value = m'.value) (n.children vs) (n'.children vs) := by
  refine forall₂_of_getElem? ?_ fun i m m' hm hm' => ?_
  · rw [Reference.children_length, Reference.children_length]
  · rw [Reference.children_getElem?] at hm hm'
    obtain ⟨v, hv, rfl⟩ := Option.map_eq_some_iff.1 hm
    obtain ⟨v', hv', rfl⟩ := Option.map_eq_some_iff.1 hm'
    exact Option.some.inj (hv.symm.trans hv')

theorem ShowsMembers.find? {ms : Members} {ps : List (Scalar × Node)} (h : ShowsMembers ms ps)
    (key : String) : Option.Rel Shows (Members.getText? ms key) (find? ps key) :=
  rel_map_option (rel_find? h fun m p hmp => by rw [hmp.1]) fun _ _ hmp => hmp.1.2

/-- Two nodes that show the same have the same value. -/
theorem map_value_eq {v : Option Value} {a a' : Option Node} (h : Option.Rel Shows v a)
    (h' : Option.Rel Shows v a') : a.map (·.value) = a'.map (·.value) := by
  cases h with
  | none =>
    cases h'
    rfl
  | some h =>
    cases h' with
    | some h' => exact congrArg some (h.trans h'.symm)

/-- Members that are changed keep their keys. -/
theorem ShowsMembers.map {ms : Members} {ps ps' : List (Scalar × Node)}
    {f : Scalar → Value → Value} (h : ShowsMembers ms ps)
    (h' : ShowsMembers (ms.map fun m => (m.1, f m.1 m.2)) ps') :
    List.Forall₂ (fun p p' => p.1 = p'.1 ∧ ∃ v, (p.1, v) ∈ ms ∧ Shows v p.2
      ∧ Shows (f p.1 v) p'.2) ps ps' := by
  induction h generalizing ps' with
  | nil =>
    cases h'
    exact .nil
  | @cons m p ms ps hm _ ih =>
    rw [List.map_cons] at h'
    cases h' with
    | cons hm' h' =>
      refine .cons ⟨hm.1.symm.trans hm'.1, m.2, ?_, hm.2, ?_⟩ ?_
      · rw [← hm.1]
        exact List.mem_cons_self
      · rw [← hm.1]
        exact hm'.2
      · exact (ih h').imp fun p p' ⟨hkey, v, hv, hshows⟩ =>
          ⟨hkey, v, List.mem_cons_of_mem m hv, hshows⟩

/-! ## Readings -/

/-- Begun with whatever libraries, both readings fail, or both give related results. -/
abbrev Reads {α α' : Type} (R : α → α' → Prop) (m : Reading α) (m' : Reading α') : Prop :=
  Tally (fun _ _ => True) R m m'

section Readings

variable {α α' β β' : Type} {R : α → α' → Prop} {Q : β → β' → Prop}

theorem reads_misused (m m' : Misuse) :
    Reads R (misused m : Reading α) (misused m' : Reading α') :=
  Tally.throw _ _

theorem reads_mapM {f : α → Reading β} {f' : α' → Reading β'} {xs : List α} {xs' : List α'}
    (hxs : List.Forall₂ R xs xs') (hf : ∀ a a', R a a' → Reads Q (f a) (f' a')) :
    Reads (List.Forall₂ Q) (xs.mapM f) (xs'.mapM f') := by
  induction hxs with
  | nil => exact Tally.pure .nil
  | cons h _ ih =>
    rw [List.mapM_cons, List.mapM_cons]
    refine (hf _ _ h).bind fun b b' hb => ?_
    exact ih.bind fun bs bs' hbs => Tally.pure (.cons hb hbs)

/-- Checked fields that concur are in order in both parts, or in none. -/
theorem concur_check {part part' : String} {c : Checked α} {c' : Checked α'}
    (h : Checked.Concur R c c') : Concur R (check part c) (check part' c') := by
  cases h with
  | ok h => exact .ok h
  | fault h h' =>
    cases c with
    | ok a => exact absurd rfl (h a)
    | _ =>
      cases c' with
      | ok a => exact absurd rfl (h' a)
      | _ => exact .fault _ _

theorem reads_finished {part part' : String} {c : Checked α} {c' : Checked α'}
    (h : Checked.Concur R c c') : Reads R (finished part c) (finished part' c') :=
  Tally.lift (concur_check h)

end Readings

/-! ## Looking at nodes in place -/

theorem settle_eq {n : Node} (h : n.value.reference? = none) : settle n = pure n := by
  have hview : Reference.View.settle n = pure n := by
    unfold Reference.View.settle Reference.View.maxChain Reference.View.settleWith
    rw [h]
  funext l
  unfold settle
  rw [hview]
  rfl

theorem membersFor_eq {n : Node} {k : Nat} {ms : Members} (name : String)
    (h : Shows (.object k ms) n) (href : (Value.object k ms).reference? = none) :
    membersFor name n = pure (memberNodes n (spreadMembers ms)) := by
  unfold membersFor
  rw [settle_eq (h.reference?.trans href), pure_bind, h]
  rfl

/-- Only an object has members. -/
theorem exists_misused_membersFor {n : Node} (name : String) (h : n.value.isObject = false) :
    ∃ m, membersFor name n = misused m := by
  have href : n.value.reference? = none := by
    cases hvalue : n.value with
    | object _ _ =>
      rw [hvalue] at h
      cases h
    | _ => rfl
  unfold membersFor
  rw [settle_eq href, pure_bind]
  cases hvalue : n.value with
  | object _ _ =>
    rw [hvalue] at h
    cases h
  | _ => exact ⟨_, rfl⟩

theorem isObject_spreadBytes (v : Value) : v.spreadBytes.isObject = v.isObject := by
  cases v with
  | scalar s => cases s <;> rfl
  | _ => rfl

/-- Objects in place are gone into together; what is no object is misused in both. -/
theorem reads_membersFor {α α' : Type} {R : α → α' → Prop} {n n' : Node} {v v' : Value}
    {name name' : String} {f : List (Scalar × Node) → Reading α}
    {f' : List (Scalar × Node) → Reading α'} (hn : Shows v n) (hn' : Shows v' n')
    (href : v.reference? = none) (href' : v'.reference? = none)
    (hobject : v'.isObject = v.isObject)
    (hf : ∀ k k' ms ms' ps ps', v = .object k ms → v' = .object k' ms' → ShowsMembers ms ps →
      ShowsMembers ms' ps' → Reads R (f ps) (f' ps')) :
    Reads R (membersFor name n >>= f) (membersFor name' n' >>= f') := by
  cases hv : v.isObject with
  | true =>
    rw [hv] at hobject
    obtain ⟨k, ms, rfl⟩ : ∃ k ms, v = .object k ms := by
      cases v with
      | object k ms => exact ⟨k, ms, rfl⟩
      | _ => cases hv
    obtain ⟨k', ms', rfl⟩ : ∃ k ms, v' = .object k ms := by
      cases v' with
      | object k ms => exact ⟨k, ms, rfl⟩
      | _ => cases hobject
    rw [membersFor_eq name hn href, membersFor_eq name' hn' href', pure_bind, pure_bind]
    exact hf k k' ms ms' _ _ rfl rfl (showsMembers_memberNodes n ms)
      (showsMembers_memberNodes n' ms')
  | false =>
    have hnone : ∀ {w : Value} {m : Node}, Shows w m → w.isObject = false →
        m.value.isObject = false :=
      fun hm hw => (congrArg Value.isObject hm).trans ((isObject_spreadBytes _).trans hw)
    -- what is no object is refused for the same call in both forms
    obtain ⟨m, hm⟩ := exists_misused_membersFor name (hnone hn hv)
    obtain ⟨m', hm'⟩ := exists_misused_membersFor name' (hnone hn' (hobject.trans hv))
    rw [hm, hm']
    exact Tally.bind (R := fun _ _ => False) (reads_misused m m') fun _ _ h => h.elim

/-- The parts of one value in two places. -/
theorem reads_partsOfOptional {v : Option Value} {a a' : Option Node} (h : Option.Rel Shows v a)
    (h' : Option.Rel Shows v a') (hplace : v.all (·.reference?.isNone) = true) :
    Reads (List.Forall₂ fun n n' => n.value = n'.value) (partsOfOptional a)
      (partsOfOptional a') := by
  cases h with
  | none =>
    cases h'
    exact Tally.pure .nil
  | @some v n h =>
    cases h' with
    | @some _ n' h' =>
      have href := Option.isNone_iff_eq_none.1 hplace
      unfold partsOfOptional partsOf
      dsimp only
      rw [settle_eq (h.reference?.trans href), settle_eq (h'.reference?.trans href), pure_bind,
        pure_bind, h, h']
      cases v.spreadBytes.parts? with
      | none => exact reads_misused _ _
      | some vs => exact Tally.pure (children_same n n' vs)

/-- Whether a value counts as given is asked of what stands in place. -/
theorem isGivenOr_eq {v : Option Value} {a : Option Node} (default : Bool)
    (h : Option.Rel Shows v a) (hplace : v.all (·.reference?.isNone) = true) :
    isGivenOr default a = pure ((v.map (·.spreadBytes.isGiven)).getD default) := by
  cases h with
  | none => rfl
  | some h =>
    have href := Option.isNone_iff_eq_none.1 hplace
    unfold isGivenOr isGiven
    dsimp only
    rw [settle_eq (h.reference?.trans href), pure_bind, h]
    rfl

/-- The half of a key that a value gives, if it can be told apart from others. -/
def keyOf (v : Option Value) : Except Misuse KeyPart :=
  match v with
  | none => .ok ⟨.null, true⟩
  | some v =>
    match v.spreadBytes with
    | .scalar s => .ok ⟨s, true⟩
    | w => .error (.unhashable w.fullKind)

/-- Reads the half of a key that a value gives. -/
def readKey (v : Option Value) : Reading KeyPart :=
  match keyOf v with
  | .ok k => pure k
  | .error m => misused m

theorem keyPart_eq {v : Option Value} {a : Option Node} (h : Option.Rel Shows v a)
    (hplace : v.all (·.reference?.isNone) = true) : KeyPart.ofNode a = readKey v := by
  cases h with
  | none => rfl
  | @some v n h =>
    have href := h.reference?.trans (Option.isNone_iff_eq_none.1 hplace)
    unfold KeyPart.ofNode readKey keyOf
    dsimp only
    rw [settle_eq href, pure_bind, ← h]
    cases hvalue : n.value with
    | scalar s =>
      have hdirect : n.isReference = false := by
        rw [Node.isReference, href]
        rfl
      rw [hdirect]
      rfl
    | _ => rfl

theorem readKey_eq {v : Option Value} {k : KeyPart} (h : keyOf v = .ok k) :
    readKey v = pure k := by
  unfold readKey
  rw [h]

theorem reads_readKey (v : Option Value) :
    Reads (fun k k' => k' = k ∧ keyOf v = .ok k) (readKey v) (readKey v) := by
  unfold readKey
  cases hkey : keyOf v with
  | ok k => exact Tally.pure ⟨rfl, rfl⟩
  | error m => exact reads_misused m m

/-! ## Texts -/

/-- A reading that does not fail. -/
def Succeeds {α : Type} (m : Reading α) : Prop := ∀ l, ∃ a l', m.run l = .ok (a, l')

theorem Succeeds.pure {α : Type} (a : α) : Succeeds (Pure.pure a) := fun l => ⟨a, l, rfl⟩

theorem Succeeds.bind {α β : Type} {m : Reading α} {f : α → Reading β} (hm : Succeeds m)
    (hf : ∀ a, Succeeds (f a)) : Succeeds (m >>= f) := by
  intro l
  obtain ⟨a, l₁, ha⟩ := hm l
  obtain ⟨b, l₂, hb⟩ := hf a l₁
  refine ⟨b, l₂, ?_⟩
  rw [StateT.run_bind, ha]
  exact hb

/-- Readings that do not fail agree in whatever holds of all results. -/
theorem Succeeds.reads {α α' : Type} {R : α → α' → Prop} {m : Reading α} {m' : Reading α'}
    (hm : Succeeds m) (hm' : Succeeds m') (hR : ∀ a a', R a a') : Reads R m m' := by
  intro l l' _
  obtain ⟨a, k, ha⟩ := hm l
  obtain ⟨a', k', ha'⟩ := hm' l'
  rw [ha, ha']
  exact .ok ⟨hR a a', trivial⟩

theorem succeeds_settled? (n : Node) : Succeeds (settled? n) := by
  intro l
  cases h : settle n l with
  | ok p => exact ⟨some p.1, p.2, by simp [settled?, StateT.run, h]⟩
  | error e => exact ⟨none, l, by simp [settled?, StateT.run, h]⟩

theorem succeeds_eachShown {shown : Node → Reading (Option String)}
    (h : ∀ n, Succeeds (shown n)) (ns : List Node) : Succeeds (eachShown shown ns) := by
  induction ns with
  | nil => exact .pure _
  | cons n ns ih =>
    rw [eachShown]
    refine (h n).bind fun s => ?_
    cases s with
    | none => exact .pure _
    | some s => exact ih.bind fun _ => .pure _

/-- Something can be shown of every node, if only that it cannot be shown. -/
theorem succeeds_literalOf (fuel : Nat) (around : List Node) (n : Node) :
    Succeeds (literalOf fuel around n) := by
  induction fuel generalizing around n with
  | zero => exact .pure _
  | succ fuel ih =>
    rw [literalOf]
    refine (succeeds_settled? n).bind fun m => ?_
    cases m with
    | none => exact .pure _
    | some m =>
      dsimp only
      split
      · split
        · exact .pure _
        · exact (succeeds_eachShown (ih _) _).bind fun _ => .pure _
      · split
        · exact .pure _
        · exact (succeeds_eachShown (ih _) _).bind fun _ => .pure _
      · exact .pure _

theorem succeeds_exhibit (n : Node) : Succeeds (exhibit n) :=
  (succeeds_literalOf _ _ n).bind fun _ => .pure _

/-- A text is the same in both, or none in both. -/
theorem reads_text {n n' : Node} (h : n.value = n'.value) :
    Reads (Checked.Concur Eq) (text n) (text n') := by
  have href : n.isReference = n'.isReference := by rw [Node.isReference, Node.isReference, h]
  unfold text
  rw [← href, ← h]
  cases n.isReference with
  | true =>
    refine Tally.bind ((succeeds_literalOf _ _ n).reads (succeeds_literalOf _ _ n')
      fun _ _ => trivial) fun a a' _ => Tally.pure (.fault ?_ ?_)
    · simp [referenceFault]
    · simp [referenceFault]
  | false =>
    cases Validation.text n.value with
    | ok s => exact Tally.pure (.ok rfl)
    | faults x xs =>
      refine Tally.bind ((succeeds_exhibit n).reads (succeeds_exhibit n') fun _ _ => trivial)
        fun a a' _ => Tally.pure (.fault (by simp) (by simp))
    | stopped => exact Tally.pure (.fault (by simp) (by simp))

theorem reads_optionalText {a a' : Option Node} (h : a.map (·.value) = a'.map (·.value)) :
    Reads (Checked.Concur Eq) (optionalText a) (optionalText a') := by
  cases a with
  | none =>
    cases a' with
    | none => exact Tally.pure (.ok rfl)
    | some n' => cases h
  | some n =>
    cases a' with
    | none => cases h
    | some n' =>
      have hvalue : n.value = n'.value := Option.some.inj h
      unfold optionalText
      dsimp only
      rw [← hvalue]
      split
      · exact Tally.pure (.ok rfl)
      · refine (reads_text hvalue).bind fun c c' hc => Tally.pure (hc.map fun s s' hs => ?_)
        rw [hs]

theorem concur_numbered {i : Nat} {cs cs' : List (Checked String)}
    (h : List.Forall₂ (Checked.Concur Eq) cs cs') :
    Checked.Concur Eq (numbered i cs) (numbered i cs') := by
  induction h generalizing i with
  | nil => exact .ok rfl
  | cons hc _ ih =>
    rw [numbered, numbered]
    refine .seq (.map hc.within fun s s' hs ss ss' hss => ?_) ih
    rw [hs, hss]

end OpenApiClient.Document
