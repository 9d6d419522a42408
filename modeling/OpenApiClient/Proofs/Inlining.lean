/-
A document with references replaced by what they stand for.

Which references are replaced is said by an `Outline`: for the parts of a value it says whether
a reference in the place of the part is replaced, and what is to be looked at below.  Outlines
are finite, and what is put in the place of a reference is gone through by the rest of the
outline, so nothing is asked of the document: it can be full of references in a circle.

Two kinds of references stay.  One whose chain leaves the document, or has no end, is left as
it is.  And so is one under a key of `keptKeys`: a schema is taken as it is written, so what
stands under such a key may not be touched.

What a part of the new document is made from is the content of `part?_inlineWith`, and `origin`
follows it from the root to any place.
-/
import OpenApiClient.Document.Reader
import OpenApiClient.Proofs.Following

set_option autoImplicit false

namespace OpenApiClient.Reference

open View

/-! ## Outlines -/

/-- Which references below a value are replaced. -/
inductive Outline where
  /-- None of them. -/
  | leaf
  /-- For each kind of parts: whether a reference in their place is replaced, and what is to be
  done below. -/
  | node (replaced : Slot → Bool) (below : Slot → Outline)

namespace Outline

/-- Every item of a list. -/
def allItems (inner : Outline) : Outline :=
  .node (fun slot => match slot with
    | .item => true
    | _ => false) fun _ => inner

/-- Every member of an object. -/
def allMembers (inner : Outline) : Outline :=
  .node (fun slot => match slot with
    | .member _ => true
    | _ => false) fun _ => inner

/-- What a table says about a part: nothing if it is no member that the table names. -/
def field (table : List (String × Bool × Outline)) (slot : Slot) : Bool × Outline :=
  match slot with
  | .member key => ((table.find? fun row => key.isText row.1).map (·.2)).getD (false, .leaf)
  | _ => (false, .leaf)

/-- The members that a table names. -/
def fields (table : List (String × Bool × Outline)) : Outline :=
  .node (fun slot => (field table slot).1) fun slot => (field table slot).2

/-- Every member of an object, none of which is replaced itself. -/
def underMembers (inner : Outline) : Outline :=
  .node (fun _ => false) fun slot => match slot with
    | .member _ => inner
    | _ => .leaf

/-- An operation: each of its parameters, its body, each of its responses, and the path items of
its callbacks. -/
def operation (callback : Outline) : Outline :=
  fields [("parameters", false, allItems leaf), ("requestBody", true, leaf),
    ("responses", false, allMembers leaf), ("callbacks", false, underMembers (allMembers callback))]

/-- A path item: each of its parameters, and what belongs to its operations.  Path items can
stand in callbacks of path items, and `levels` of them are gone through. -/
def pathItem : Nat → Outline
  | 0 => .leaf
  | levels + 1 => fields (("parameters", false, allItems leaf)
    :: Verb.all.map fun verb => (verb.name, false, operation (pathItem levels)))

/-- The parts that are defined once and referred to. -/
def components (levels : Nat) : Outline :=
  fields [("parameters", false, allMembers leaf), ("requestBodies", false, allMembers leaf),
    ("responses", false, allMembers leaf), ("pathItems", false, allMembers (pathItem levels))]

/-- The members of a document of either generation in which something can be replaced. -/
def documentFields (levels : Nat) : List (String × Bool × Outline) :=
  [("paths", false, allMembers (pathItem levels)),
    ("webhooks", false, allMembers (pathItem levels)), ("components", false, components levels),
    ("parameters", false, allMembers leaf), ("responses", false, allMembers leaf)]

/-- A document: every place in which a whole path item, parameter, body or response stands. -/
def document (levels : Nat) : Outline := fields (documentFields levels)

end Outline

/-! ## Replacing references -/

/-- The keys under which schemas are looked for, and that of a reference. -/
def keptKeys : List String := ["$ref", "schema"] ++ Document.typeMembers

/-- Whether a part is left as it is: it stands under a kept key, or is a character. -/
def Slot.isKept : Slot → Bool
  | .member key => keptKeys.any fun name => key.isText name
  | .item => false
  | .piece => true

/-- A value with other parts; characters stay. -/
def mapParts (f : Nat → Slot → Value → Value) : Value → Value
  | .object k ms => .object k (ms.mapIdx fun i m => (m.1, f i (.member m.1) m.2))
  | .list items => .list (items.mapIdx fun i v => f i .item v)
  | .pair k v => .pair (f 0 .item k) (f 1 .item v)
  | v => v

/-- What is put in the place of a node: if it is a reference and its chain comes to an end
without another document, what stands there, and else the node itself. -/
def landing (files : Source.Files) (root : Value) (n : Node) : Node :=
  if n.isReference then
    match (settle n.seen).run (Library.ofValue files root) with
    | .ok (m, l) => if l.documents.length = 1 then m else n
    | .error _ => n
  else n

/-- What an outline leaves to be done below a part, and the node that the part is made from. -/
def Outline.part (land : Node → Node) (o : Outline) (n : Node) (i : Nat) (slot : Slot)
    (v : Value) : Outline × Node :=
  match o with
  | .leaf => (.leaf, n.child i v)
  | .node replaced below =>
    if n.isReference || slot.isKept then (.leaf, n.child i v)
    else (below slot, if replaced slot then land (n.child i v) else n.child i v)

/-- The value of a node with references replaced by what `land` puts in their place. -/
def inlineWith (land : Node → Node) : Outline → Node → Value
  | .leaf, n => n.value
  | .node replaced below, n =>
    if n.isReference then n.value
    else
      mapParts (fun i slot v =>
        if slot.isKept then v
        else inlineWith land (below slot)
          (if replaced slot then land (n.child i v) else n.child i v)) n.value

/-- A document with every reference replaced that stands in the place of a whole path item,
parameter, body or response. -/
def inlined (files : Source.Files) (levels : Nat) (raw : Value) : Value :=
  inlineWith (landing files raw.spreadBytes) (Outline.document levels) ⟨0, [], raw⟩

/-! ## The parts of what is made -/

section Parts

variable {land : Node → Node} {o : Outline} {n : Node}

theorem part?_mapParts {f : Nat → Slot → Value → Value} (hpiece : ∀ i v, f i .piece v = v)
    (v : Value) (i : Nat) :
    part? (mapParts f v) i = (part? v i).map fun p => (p.1, f i p.1 p.2) := by
  cases v with
  | object k ms =>
    simp only [mapParts, part?, List.getElem?_mapIdx, Option.map_map]
    rfl
  | list items =>
    simp only [mapParts, part?, List.getElem?_mapIdx, Option.map_map]
    rfl
  | pair k v =>
    rcases i with _ | _ | i
    · rfl
    · rfl
    · rfl
  | scalar s =>
    cases s with
    | text s =>
      simp only [mapParts, part?, Option.map_map]
      exact congrFun (congrArg Option.map (funext fun c => by simp [hpiece])) _
    | _ => rfl
  | _ => rfl

/-- Every part of what is made of a node is made of the node that the outline says. -/
theorem part?_inlineWith (land : Node → Node) (o : Outline) (n : Node) (i : Nat) :
    part? (inlineWith land o n) i = (part? n.value i).map fun p =>
      (p.1, inlineWith land (o.part land n i p.1 p.2).1 (o.part land n i p.1 p.2).2) := by
  cases o with
  | leaf =>
    simp only [inlineWith, Outline.part, Node.child]
    exact (Option.map_id_apply).symm
  | node replaced below =>
    rw [inlineWith]
    cases href : n.isReference with
    | true =>
      simp only [if_true, Outline.part, href, Bool.true_or, inlineWith, Node.child]
      exact (Option.map_id_apply).symm
    | false =>
      rw [if_neg Bool.false_ne_true, part?_mapParts (fun i v => rfl)]
      congr 1
      funext p
      -- both sides ask in the same order whether the part is kept and whether it is replaced
      cases hkept : p.1.isKept with
      | true => simp only [hkept, if_true, Outline.part, Bool.or_true, inlineWith, Node.child]
      | false =>
        simp only [hkept, Bool.false_eq_true, if_false, Outline.part, href, Bool.false_or]

/-- Two values of one shape: objects with the same keys, lists of the same length, two entries,
or one and the same value. -/
inductive Alike : Value → Value → Prop
  | object {k : Nat} {ms ms' : Members} :
    ms'.map (·.1) = ms.map (·.1) → Alike (.object k ms) (.object k ms')
  | list {items items' : List Value} :
    items'.length = items.length → Alike (.list items) (.list items')
  | pair {k v k' v' : Value} : Alike (.pair k v) (.pair k' v')
  | same {v : Value} : Alike v v

theorem mapParts_alike (f : Nat → Slot → Value → Value) (v : Value) : Alike v (mapParts f v) := by
  cases v with
  | object k ms =>
    refine .object (List.ext_getElem? fun i => ?_)
    rw [List.getElem?_map, List.getElem?_map, List.getElem?_mapIdx, Option.map_map]
    rfl
  | list items => exact .list List.length_mapIdx
  | pair k v => exact .pair
  | _ => exact .same

/-- What is made of a value has its shape. -/
theorem inlineWith_alike (land : Node → Node) (o : Outline) (n : Node) :
    Alike n.value (inlineWith land o n) := by
  cases o with
  | leaf => exact .same
  | node replaced below =>
    rw [inlineWith]
    split
    · exact .same
    · exact mapParts_alike _ _

theorem Alike.stepIndex? {v v' : Value} (h : Alike v v') (step : String) :
    stepIndex? v' step = stepIndex? v step := by
  cases h with
  | object hkeys => rw [Reference.stepIndex?, Reference.stepIndex?, hkeys]
  | list hlength => rw [Reference.stepIndex?, Reference.stepIndex?, hlength]
  | pair => rfl
  | same => rfl

theorem Alike.isGiven {v v' : Value} (h : Alike v v') : v'.isGiven = v.isGiven := by
  have hempty : ∀ {α β : Type} (xs : List α) (ys : List β), ys.length = xs.length →
      ys.isEmpty = xs.isEmpty := by
    intro α β xs ys hlength
    rw [Bool.eq_iff_iff, List.isEmpty_iff_length_eq_zero, List.isEmpty_iff_length_eq_zero, hlength]
  cases h with
  | @object k ms ms' hkeys =>
    have hlength := congrArg List.length hkeys
    rw [List.length_map, List.length_map] at hlength
    rw [Value.isGiven, Value.isGiven, hempty ms ms' hlength]
  | @list items items' hlength => rw [Value.isGiven, Value.isGiven, hempty items items' hlength]
  | pair => rfl
  | same => rfl

theorem Alike.isNull {v v' : Value} (h : Alike v v') : v'.isNull = v.isNull := by
  cases h <;> rfl

theorem Alike.text? {v v' : Value} (h : Alike v v') : v'.text? = v.text? := by
  cases h <;> rfl

theorem Alike.exists_object {v v' : Value} {k : Nat} {ms : Members} (h : Alike v v')
    (hv : v = .object k ms) : ∃ ms', v' = .object k ms' ∧ ms'.map (·.1) = ms.map (·.1) := by
  cases h with
  | object hkeys =>
    cases hv
    exact ⟨_, rfl, hkeys⟩
  | same => exact ⟨ms, hv, rfl⟩
  | _ => cases hv

theorem Alike.exists_list {v v' : Value} {items : List Value} (h : Alike v v')
    (hv : v = .list items) : ∃ items', v' = .list items' ∧ items'.length = items.length := by
  cases h with
  | list hlength =>
    cases hv
    exact ⟨_, rfl, hlength⟩
  | same => exact ⟨items, hv, rfl⟩
  | _ => cases hv

theorem Alike.exists_pair {v v' k w : Value} (h : Alike v v') (hv : v = .pair k w) :
    ∃ k' w', v' = .pair k' w' := by
  cases h with
  | pair => exact ⟨_, _, rfl⟩
  | same => exact ⟨k, w, hv⟩
  | _ => cases hv

/-- Where the parts of a value are scalars, values of one shape have the same parts. -/
theorem Alike.parts? {v v' : Value} (h : Alike v v') (hlist : ∀ items, v ≠ .list items)
    (hpair : ∀ k w, v ≠ .pair k w) : v'.parts? = v.parts? := by
  cases h with
  | object hkeys =>
    have hmap := congrArg (List.map Value.scalar) hkeys
    rw [List.map_map, List.map_map] at hmap
    exact congrArg some hmap
  | list _ => exact (hlist _ rfl).elim
  | pair => exact (hpair _ _ rfl).elim
  | same => rfl

theorem Alike.scalar {v v' : Value} {s : Scalar} (h : Alike v v') (hs : v = .scalar s) :
    v' = .scalar s := by
  cases h with
  | same => exact hs
  | _ => cases hs

/-! ## Members under kept keys -/

/-- The member of an object with a key is the part at the position of the key. -/
theorem member?_eq {k : Nat} {ms : Members} (key : String) :
    (Value.object k ms).member? key = (stepIndex? (.object k ms) key).bind fun i =>
      (part? (.object k ms) i).map (·.2) := by
  rw [Value.member?, Members.getText?, stepIndex?]
  induction ms with
  | nil => rfl
  | cons m ms ih =>
    rw [List.find?_cons, List.map_cons, List.findIdx?_cons]
    cases m.1.isText key with
    | true => rfl
    | false =>
      rw [ih, if_neg Bool.false_ne_true, Option.bind_map]
      rfl

theorem slot_of_stepIndex? {k : Nat} {ms : Members} {key : String} {i : Nat} {slot : Slot}
    {v : Value} (hi : stepIndex? (.object k ms) key = some i)
    (hpart : part? (.object k ms) i = some (slot, v)) :
    ∃ name, slot = .member name ∧ name.isText key = true := by
  obtain ⟨hlt, hkey, -⟩ := List.findIdx?_eq_some_iff_getElem.1 hi
  rw [List.getElem_map] at hkey
  obtain ⟨m, hm, heq⟩ := Option.map_eq_some_iff.1 hpart
  cases heq
  rw [List.length_map] at hlt
  rw [List.getElem?_eq_getElem hlt] at hm
  cases hm
  exact ⟨_, rfl, hkey⟩

/-- Nothing is done to a part under a kept key. -/
theorem Outline.part_of_kept {i : Nat} {slot : Slot} {v : Value} (h : slot.isKept = true) :
    o.part land n i slot v = (.leaf, n.child i v) := by
  cases o with
  | leaf => rfl
  | node replaced below => rw [Outline.part, h, Bool.or_true, if_pos rfl]

theorem isKept_of_isText {key : Scalar} {name : String} (hname : name ∈ keptKeys)
    (h : key.isText name = true) : (Slot.member key).isKept = true :=
  List.any_eq_true.2 ⟨name, hname, h⟩

/-- A member of what is made is made of the member with the same key. -/
theorem member?_cases (land : Node → Node) (o : Outline) (n : Node) (key : String) :
    ((inlineWith land o n).member? key = none ∧ n.value.member? key = none)
      ∨ ∃ i v, n.value.member? key = some v ∧ (inlineWith land o n).member? key
        = some (inlineWith land (o.part land n i (.member (.text key)) v).1
          (o.part land n i (.member (.text key)) v).2) := by
  have hparts := part?_inlineWith land o n
  have halike := inlineWith_alike land o n
  revert hparts halike
  generalize inlineWith land o n = made
  generalize n.value = v
  intro hparts halike
  by_cases hobject : ∃ k ms, v = .object k ms
  · obtain ⟨k, ms, rfl⟩ := hobject
    obtain ⟨ms', rfl, hkeys⟩ := halike.exists_object rfl
    rw [member?_eq, member?_eq, (Alike.object hkeys).stepIndex?]
    cases hi : stepIndex? (.object k ms) key with
    | none => exact .inl ⟨rfl, rfl⟩
    | some i =>
      rw [Option.bind_some, Option.bind_some, hparts i]
      cases hpart : part? (.object k ms) i with
      | none => exact .inl ⟨rfl, rfl⟩
      | some p =>
        obtain ⟨slot, w⟩ := p
        obtain ⟨name, rfl, hname⟩ := slot_of_stepIndex? hi hpart
        rw [Scalar.eq_text_of_isText hname]
        exact .inr ⟨i, w, rfl, rfl⟩
  · have hnone : ∀ {u : Value}, (∀ k ms, u ≠ .object k ms) → u.member? key = none := by
      intro u hu
      cases u with
      | object k ms => exact (hu k ms rfl).elim
      | _ => rfl
    refine .inl ⟨hnone ?_, hnone fun k ms hv => hobject ⟨k, ms, hv⟩⟩
    intro k ms hmade
    cases halike with
    | object _ => exact hobject ⟨_, _, rfl⟩
    | list _ => cases hmade
    | pair => cases hmade
    | same => exact hobject ⟨k, ms, hmade⟩

/-- Under a kept key stands what stood there. -/
theorem member?_inlineWith {key : String} (hkey : key ∈ keptKeys) :
    (inlineWith land o n).member? key = n.value.member? key := by
  rcases member?_cases land o n key with ⟨hmade, hmember⟩ | ⟨i, v, hmember, hmade⟩
  · rw [hmade, hmember]
  · have hkept : (Slot.member (.text key)).isKept = true :=
      isKept_of_isText hkey (beq_self_eq_true key)
    rw [hmade, hmember, Outline.part_of_kept hkept]
    rfl

/-- What is made of a node is a reference if the node is one, and the same one. -/
theorem reference?_inlineWith : (inlineWith land o n).reference? = n.value.reference? := by
  rw [Value.reference?, Value.reference?, member?_inlineWith (by decide)]

/-- A reference that is not replaced stays as it is. -/
theorem inlineWith_of_reference {ref : String} (h : n.value.reference? = some ref) :
    inlineWith land o n = n.value := by
  cases o with
  | leaf => rfl
  | node replaced below => rw [inlineWith, Node.isReference, h, Option.isSome_some, if_pos rfl]

end Parts

/-! ## What is put in the place of a reference -/

section Landing

variable (files : Source.Files) (root : Value) (n : Node)

/-- A node stays, or it is a reference whose chain ends in the first document. -/
theorem landing_cases :
    landing files root n = n ∨ (n.isReference = true
      ∧ ∃ l, Runs (settle n.seen) (.ofValue files root) (landing files root n) l
        ∧ l.documents.length = 1) := by
  unfold landing
  cases href : n.isReference with
  | false => exact .inl rfl
  | true =>
    -- references are followed in the document as they see it
    rw [if_pos rfl]
    cases hrun : (settle n.seen).run (Library.ofValue files root) with
    | error e => exact .inl rfl
    | ok p =>
      obtain ⟨m, l⟩ := p
      by_cases hlength : l.documents.length = 1
      · refine .inr ⟨rfl, l, ?_, hlength⟩
        dsimp only
        rw [if_pos hlength]
        exact hrun
      · left
        dsimp only
        rw [if_neg hlength]

/-- What is put in the place of a reference is none. -/
theorem landing_plain :
    landing files root n = n ∨ (landing files root n).value.reference? = none := by
  rcases landing_cases files root n with h | ⟨-, l, hrun, -⟩
  · exact .inl h
  · exact .inr (settleWith_plain hrun)

variable {files root n}

/-- A reference that is replaced leads to what is put in its place, whatever has been read
besides the document. -/
theorem landing_run {l : Library} (hroot : root.spreadBytes = root) (hdocument : n.document = 0)
    (hn : n.StandsIn root) (hl : l.Begins files root) :
    landing files root n = n ∨ ((landing files root n).document = 0
      ∧ Runs (settle n) l (landing files root n) l) := by
  rcases landing_cases files root n with h | ⟨-, l₁, hrun, hlength⟩
  · exact .inl h
  · right
    obtain ⟨rest, rfl⟩ := hl
    rw [hn.seen_eq hroot] at hrun
    obtain ⟨-, hzero, hagain⟩ := settleWith_alone hdocument hlength hrun
    exact ⟨hzero, hagain rest⟩

theorem landing_of_plain (h : n.isReference = false) : landing files root n = n := by
  rw [landing, h, if_neg Bool.false_ne_true]

end Landing

end OpenApiClient.Reference
