/-
The libraries that reading a document goes through.

Reading begins with one document and adds another whenever a reference leads to it.  A library is
opened from a document if it comes about in this way, and what is known of it is said here once:
it begins with that document, it only ever grows, and every document in it was read from JSON.

References are followed only at nodes that stand in a document of the library, with one exception.
What is gone through part by part can be the keys of an object or the characters of a text, and
these stand nowhere; but they are scalars, and no reference is one.  Hence `Library.Knows`, which
is kept by everything that the reader does with nodes.
-/
import OpenApiClient.Proofs.Decoded
import OpenApiClient.Proofs.Following

set_option autoImplicit false

namespace OpenApiClient.Reference

open Document (memberNodes)

/-! ## Nodes of a library -/

/-- A node stands in a document of a library. -/
def Library.Holds (l : Library) (n : Node) : Prop :=
  ∃ d, l.documents[n.document]? = some d ∧ n.StandsIn d.root

theorem Library.Holds.extends {l l' : Library} {n : Node} (h : l.Holds n) (hext : l.Extends l') :
    l'.Holds n := by
  obtain ⟨d, hd, hn⟩ := h
  obtain ⟨hlt, hat⟩ := List.getElem?_eq_some_iff.1 hd
  refine ⟨d, ?_, hn⟩
  obtain ⟨more, hmore⟩ := hext.2
  rw [← hmore, List.getElem?_append_left hlt]
  exact hd

theorem Library.Holds.child {l : Library} {n : Node} (h : l.Holds n) {i : Nat} {slot : Slot}
    {v : Value} (hpart : part? n.value i = some (slot, v)) : l.Holds (n.child i v) := by
  obtain ⟨d, hd, hn⟩ := h
  exact ⟨d, hd, hn.child hpart⟩

theorem Library.holds_rootNode {l : Library} {j : Nat} (h : j < l.documents.length) :
    l.Holds (l.rootNode j) := by
  refine ⟨l.documents[j], List.getElem?_eq_getElem h, ?_⟩
  unfold Node.StandsIn Library.rootNode
  rw [List.getElem?_eq_getElem h]
  rfl

/-- All documents of a library are values that JSON can hold. -/
def Library.Decoded (l : Library) : Prop := ∀ d ∈ l.documents, d.root.Decoded

theorem Library.Holds.decoded {l : Library} {n : Node} (h : l.Holds n) (hl : l.Decoded) :
    n.value.Decoded := by
  obtain ⟨d, hd, hn⟩ := h
  exact of_valueAt (hl d (List.mem_of_getElem? hd)) (fun _ _ _ _ hv hpart => hv.part hpart) hn

/-- A node whose value is certain: it stands in a document, or is a scalar. -/
def Library.Knows (l : Library) (n : Node) : Prop := l.Holds n ∨ ∃ s, n.value = .scalar s

theorem Library.Knows.extends {l l' : Library} {n : Node} (h : l.Knows n) (hext : l.Extends l') :
    l'.Knows n := h.imp (·.extends hext) id

theorem Library.Knows.holds_of_object {l : Library} {n : Node} (h : l.Knows n) {k : Nat}
    {ms : Members} (hvalue : n.value = .object k ms) : l.Holds n := by
  rcases h with h | ⟨s, hs⟩
  · exact h
  · rw [hvalue] at hs
    cases hs

/-- The parts that a value is gone through by stand in it, or are scalars. -/
theorem part?_or_scalar {v w : Value} {vs : List Value} (hparts : v.parts? = some vs) {i : Nat}
    (hw : vs[i]? = some w) : (∃ slot, part? v i = some (slot, w)) ∨ ∃ s, w = .scalar s := by
  rcases Value.parts?_cases hparts with rfl | ⟨k, u, rfl, rfl⟩ | ⟨-, -, hscalars⟩
  · exact .inl ⟨.item, by rw [part?, hw]; rfl⟩
  · rcases i with _ | _ | i
    · cases hw
      exact .inl ⟨.item, rfl⟩
    · cases hw
      exact .inl ⟨.item, rfl⟩
    · cases hw
  · exact .inr (hscalars w (List.mem_of_getElem? hw))

/-- Whoever goes through a known node part by part meets known nodes. -/
theorem Library.Knows.children {l : Library} {n : Node} (h : l.Knows n) {vs : List Value}
    (hparts : n.value.parts? = some vs) : ∀ m ∈ n.children vs, l.Knows m := by
  intro m hm
  obtain ⟨i, hi⟩ := List.mem_iff_getElem?.1 hm
  rw [children_getElem?] at hi
  obtain ⟨w, hw, rfl⟩ := Option.map_eq_some_iff.1 hi
  rcases part?_or_scalar hparts hw with ⟨slot, hpart⟩ | hs
  · rcases h with h | ⟨s, hs⟩
    · exact .inl (h.child hpart)
    · -- the parts of a scalar are its characters
      rw [hs] at hpart
      rcases part?_cases hpart with ⟨k, ms, m, heq, -⟩ | ⟨items, heq, -⟩
        | ⟨s, c, -, -, -, hc⟩ | ⟨k, u, heq, -⟩
      · cases heq
      · cases heq
      · exact .inr ⟨_, hc⟩
      · cases heq
  · exact .inr hs

/-- Members of an object of JSON, as known nodes under textual keys. -/
def Library.KnowsMembers (l : Library) (ms : List (Scalar × Node)) : Prop :=
  ∀ m ∈ ms, (∃ s, m.1 = .text s) ∧ l.Knows m.2

theorem Library.KnowsMembers.extends {l l' : Library} {ms : List (Scalar × Node)}
    (h : l.KnowsMembers ms) (hext : l.Extends l') : l'.KnowsMembers ms := by
  intro m hm
  exact ⟨(h m hm).1, (h m hm).2.extends hext⟩

theorem Library.KnowsMembers.find? {l : Library} {ms : List (Scalar × Node)}
    (h : l.KnowsMembers ms) (key : String) : ∀ n ∈ Document.find? ms key, l.Knows n := by
  intro n hn
  obtain ⟨m, hm, rfl⟩ := Option.map_eq_some_iff.1 hn
  exact (h m (List.mem_of_find?_eq_some hm)).2

/-- The values of the members of an object that stands in a document. -/
theorem Library.Holds.memberValues {l : Library} {n : Node} {k : Nat} {ms : Members}
    (h : l.Holds n) (hvalue : n.value = .object k ms) :
    ∀ m ∈ n.children (ms.map (·.2)), l.Holds m := by
  intro m hm
  obtain ⟨i, hi⟩ := List.mem_iff_getElem?.1 hm
  rw [children_getElem?, List.getElem?_map, Option.map_map] at hi
  obtain ⟨w, hw, rfl⟩ := Option.map_eq_some_iff.1 hi
  have hpart : part? n.value i = some (.member w.1, w.2) := by
    rw [hvalue, part?, hw]
    rfl
  exact h.child hpart

/-- The values of the members of a known object. -/
theorem Library.Knows.memberValues {l : Library} {n : Node} {k : Nat} {ms : Members}
    (h : l.Knows n) (hvalue : n.value = .object k ms) :
    ∀ m ∈ n.children (ms.map (·.2)), l.Knows m :=
  fun m hm => .inl ((h.holds_of_object hvalue).memberValues hvalue m hm)

/-- The members of a known object: in JSON its keys are texts. -/
theorem Library.Knows.memberNodes {l : Library} {n : Node} {k : Nat} {ms : Members}
    (h : l.Knows n) (hl : l.Decoded) (hvalue : n.value = .object k ms) :
    l.KnowsMembers (memberNodes n ms) := by
  intro m hm
  obtain ⟨hkey, hnode⟩ := List.of_mem_zip hm
  refine ⟨?_, h.memberValues hvalue m.2 hnode⟩
  obtain ⟨w, hw, hw'⟩ := List.mem_map.1 hkey
  have hdecoded : n.value.Decoded := (h.holds_of_object hvalue).decoded hl
  rw [hvalue] at hdecoded
  cases hdecoded with
  | object hkeys _ =>
    rw [← hw']
    exact hkeys w hw

/-! ## Libraries that come about -/

/-- The libraries that come about when references are followed, beginning with one document. -/
inductive Library.Opened (files : Source.Files) (raw : Value) : Library → Prop
  | start : Opened files raw (.ofValue files raw)
  | follow {l l' : Library} {n m : Node} : Opened files raw l → l.Holds n →
    Runs (View.settle n) l m l' → Opened files raw l'

/-- Following references leads from nodes of a library to nodes of the library.  What is read in
addition is JSON, so a fact about all its documents that holds of JSON stays true. -/
theorem handedOn_holds {P : Value → Prop} (hP : ∀ v : Value, v.Decoded → P v) :
    HandedOn fun l n => (∀ d ∈ l.documents, P d.root) ∧ l.Holds n := by
  refine ⟨?_, ?_⟩
  · intro l l' n ref address j h hj
    obtain ⟨hl, -⟩ := h
    refine ⟨?_, Library.holds_rootNode (documentAt_extends hj).2⟩
    obtain ⟨normal, -, ⟨-, rfl⟩ | ⟨-, v, hv, -, rfl⟩⟩ := runs_documentAt_iff.1 hj
    · exact hl
    · intro d hd
      rcases List.mem_append.1 hd with hd | hd
      · exact hl d hd
      · rw [List.mem_singleton.1 hd]
        exact hP v (decoded_retrieve hv)
  · intro l n step next h hstep
    obtain ⟨i, slot, v, -, hpart, rfl⟩ := step?_eq_some_iff.1 hstep
    exact ⟨h.1, h.2.child hpart⟩

namespace Library.Opened

variable {files : Source.Files} {raw : Value} {l l' : Library}

/-- A fact that holds of JSON and of the first document holds of all documents. -/
theorem roots {P : Value → Prop} (hP : ∀ v : Value, v.Decoded → P v) (hraw : P raw)
    (h : l.Opened files raw) : ∀ d ∈ l.documents, P d.root := by
  induction h with
  | start =>
    intro d hd
    rw [List.mem_singleton.1 hd]
    exact hraw
  | follow _ hn hrun ih => exact ((handedOn_holds hP).settleWith ⟨ih, hn⟩ hrun).1

theorem decoded (hraw : raw.Decoded) (h : l.Opened files raw) : l.Decoded :=
  h.roots (fun _ hv => hv) hraw

theorem begins (h : l.Opened files raw) : l.Begins files raw := by
  induction h with
  | start => exact ⟨[], rfl⟩
  | follow _ _ hrun ih => exact ih.extends (settleWith_extends hrun)

/-- The root of the document that reading begins with stands in every opened library. -/
theorem holds_root (h : l.Opened files raw) : l.Holds (l.rootNode 0) := by
  obtain ⟨rest, rfl⟩ := h.begins
  exact holds_rootNode (Nat.succ_pos _)

/-- Following a reference from a node of a document. -/
theorem settle_holds {n m : Node} (h : l.Opened files raw) (hn : l.Holds n)
    (hrun : Runs (View.settle n) l m l') : l'.Opened files raw ∧ l.Extends l' ∧ l'.Holds m := by
  refine ⟨.follow h hn hrun, settleWith_extends hrun, ?_⟩
  exact ((handedOn_holds (P := fun _ => True) fun _ _ => trivial).settleWith
    ⟨fun _ _ => trivial, hn⟩ hrun).2

/-- Following a reference from a known node. -/
theorem settle {n m : Node} (h : l.Opened files raw) (hn : l.Knows n)
    (hrun : Runs (View.settle n) l m l') : l'.Opened files raw ∧ l.Extends l' ∧ l'.Knows m := by
  rcases hn with hn | ⟨s, hs⟩
  · obtain ⟨hl', hext, hm⟩ := h.settle_holds hn hrun
    exact ⟨hl', hext, .inl hm⟩
  · have hplain : n.value.reference? = none := by
      rw [hs]
      rfl
    obtain ⟨rfl, rfl⟩ := (runs_settleWith_of_plain hplain).1 hrun
    exact ⟨h, .refl _, .inr ⟨s, hs⟩⟩

end Library.Opened

end OpenApiClient.Reference
