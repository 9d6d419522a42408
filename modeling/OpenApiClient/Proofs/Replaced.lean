/-
The document with references replaced, as it is written.

References see a document with bytes as lists of numbers, so what they lead to is that form of
a value.  Replacing references and spreading bytes can be done in either order
(`spreadBytes_inlined`).  The new document holds no alias inside the node that it names, if the
old one holds none, and nothing is changed in its head: the version of its format, what it says
about itself, and its table of schemas.
-/
import OpenApiClient.Proofs.Mirror

set_option autoImplicit false

namespace OpenApiClient.Reference

/-! ## Bytes as lists of numbers -/

section Spreading

variable {files : Source.Files} {root : Value}

/-- Parts can be changed before or after bytes are spread. -/
theorem spreadBytes_mapParts {f f' : Nat → Slot → Value → Value} {v : Value}
    (hparts : ∀ i slot w, part? v i = some (slot, w) →
      (f i slot w).spreadBytes = f' i slot w.spreadBytes)
    (hscalar : ∀ i slot s, f' i slot (.scalar s) = .scalar s) :
    (mapParts f v).spreadBytes = mapParts f' v.spreadBytes := by
  cases v with
  | object k ms =>
    simp only [mapParts, Value.spreadBytes, spreadMembers_eq, Value.object.injEq, true_and]
    refine List.ext_getElem? fun i => ?_
    simp only [List.getElem?_map, List.getElem?_mapIdx, Option.map_map]
    cases hm : ms[i]? with
    | none => rfl
    | some m =>
      refine congrArg some (Prod.ext rfl (hparts i (.member m.1) m.2 ?_))
      rw [part?, hm]
      rfl
  | list items =>
    simp only [mapParts, Value.spreadBytes, spreadItems_eq, Value.list.injEq]
    refine List.ext_getElem? fun i => ?_
    simp only [List.getElem?_map, List.getElem?_mapIdx, Option.map_map]
    cases hv : items[i]? with
    | none => rfl
    | some w =>
      refine congrArg some (hparts i .item w ?_)
      rw [part?, hv]
      rfl
  | pair k w =>
    simp only [mapParts, Value.spreadBytes]
    rw [hparts 0 .item k rfl, hparts 1 .item w rfl]
    rfl
  | scalar s =>
    cases s with
    | bytes data =>
      -- bytes have no parts, but the numbers that they are spread to are parts
      simp only [mapParts, Value.spreadBytes, Value.list.injEq]
      refine List.ext_getElem? fun i => ?_
      simp only [List.getElem?_map, List.getElem?_mapIdx, Option.map_map]
      exact congrFun (congrArg Option.map (funext fun b => (hscalar i .item _).symm)) _
    | _ => rfl
  | set ms => rfl
  | again k => rfl

theorem inlineWith_scalar {land : Node → Node} {o : Outline} {n : Node} {s : Scalar}
    (h : n.value = .scalar s) : inlineWith land o n = .scalar s :=
  (inlineWith_alike land o n).scalar h

/-- A node that can be looked at: as references see it, it stands in the document. -/
def Node.SeenIn (root : Value) (n : Node) : Prop := n.document = 0 ∧ n.seen.StandsIn root

theorem Node.SeenIn.child {n : Node} (h : n.SeenIn root) {i : Nat} {slot : Slot} {v : Value}
    (hpart : part? n.value i = some (slot, v)) : (n.child i v).SeenIn root :=
  ⟨h.1, h.2.child (part?_spreadBytes hpart)⟩

theorem isReference_seen (n : Node) : n.seen.isReference = n.isReference := by
  rw [Node.isReference, Node.isReference, Node.seen, reference?_spreadBytes]

theorem seen_seen (n : Node) : n.seen.seen = n.seen := by
  rw [Node.seen, Node.seen, spreadBytes_idem]

/-- What is put in the place of a node is the same however bytes are written, and it stands in
the document. -/
theorem landing_seen (files : Source.Files) (hroot : root.spreadBytes = root) {n : Node}
    (h : n.SeenIn root) :
    (landing files root n).seen = landing files root n.seen
      ∧ (landing files root n).SeenIn root := by
  cases href : n.isReference with
  | false =>
    rw [landing_of_plain href, landing_of_plain ((isReference_seen n).trans href)]
    exact ⟨rfl, h⟩
  | true =>
    unfold landing
    rw [isReference_seen, href, if_pos rfl, if_pos rfl, seen_seen]
    cases hmatch : (View.settle n.seen).run (Library.ofValue files root) with
    | error e => exact ⟨rfl, h⟩
    | ok p =>
      obtain ⟨m, l⟩ := p
      dsimp only
      by_cases hlength : l.documents.length = 1
      · rw [if_pos hlength, if_pos hlength]
        have hrun : Runs (View.settleWith View.maxChain n.seen) (.ofValue files root) m l := hmatch
        have hbegins : (Library.ofValue files root).Begins files root := ⟨[], rfl⟩
        have hzero : n.seen.document = 0 := h.1
        -- the chain ends at a node of the document, in which bytes are spread already
        obtain ⟨-, hdocument, -⟩ := settleWith_alone hzero hlength hrun
        obtain ⟨-, hstands⟩ := settleWith_grounded hbegins (fun _ => h.2) hrun
        have hseen : m.seen = m := (hstands hdocument).seen_eq hroot
        refine ⟨hseen, hdocument, ?_⟩
        rw [hseen]
        exact hstands hdocument
      · rw [if_neg hlength, if_neg hlength]
        exact ⟨rfl, h⟩

/-- References can be replaced before or after bytes are spread. -/
theorem spreadBytes_inlineWith (hroot : root.spreadBytes = root) {o : Outline} {n : Node}
    (h : n.SeenIn root) : (inlineWith (landing files root) o n).spreadBytes
      = inlineWith (landing files root) o n.seen := by
  induction o generalizing n with
  | leaf => rfl
  | node replaced below ih =>
    rw [inlineWith, inlineWith, isReference_seen]
    cases href : n.isReference with
    | true => rfl
    | false =>
      rw [if_neg Bool.false_ne_true, if_neg Bool.false_ne_true]
      refine spreadBytes_mapParts ?_ ?_
      · intro i slot w hpart
        cases slot.isKept with
        | true => rfl
        | false =>
          rw [if_neg Bool.false_ne_true, if_neg Bool.false_ne_true]
          cases replaced slot with
          | true =>
            obtain ⟨hseen, hin⟩ := landing_seen files hroot (h.child hpart)
            rw [if_pos rfl, if_pos rfl, ih slot hin, hseen]
            rfl
          | false =>
            rw [if_neg Bool.false_ne_true, if_neg Bool.false_ne_true, ih slot (h.child hpart)]
            rfl
      · -- the numbers of bytes are no references and have no parts
        intro i slot s
        cases slot.isKept with
        | true => rfl
        | false =>
          rw [if_neg Bool.false_ne_true, landing_of_plain (by rfl), ite_self]
          exact inlineWith_scalar rfl

/-- As references see it, the new document is made of the old one as they see that. -/
theorem spreadBytes_inlined {levels : Nat} {raw : Value} :
    (inlined files levels raw).spreadBytes
      = newRoot files raw.spreadBytes (Outline.document levels) :=
  spreadBytes_inlineWith (spreadBytes_idem raw) ⟨rfl, rfl⟩

end Spreading

/-! ## Aliases inside the nodes that they name -/

section Loops

open Value (holdsLoop itemsHoldLoop membersHoldLoop spreadItems spreadMembers)

theorem itemsHoldLoop_eq_false_iff {vs : List Value} :
    itemsHoldLoop vs = false ↔ ∀ v ∈ vs, v.holdsLoop = false := by
  induction vs with
  | nil => simp [itemsHoldLoop]
  | cons v vs ih => simp [itemsHoldLoop, ih]

theorem membersHoldLoop_eq_false_iff {ms : Members} :
    membersHoldLoop ms = false ↔ ∀ m ∈ ms, m.2.holdsLoop = false := by
  induction ms with
  | nil => simp [membersHoldLoop]
  | cons m ms ih => simp [membersHoldLoop, ih]

mutual

theorem holdsLoop_spreadBytes (v : Value) : v.spreadBytes.holdsLoop = v.holdsLoop := by
  cases v with
  | object k ms => rw [Value.spreadBytes, holdsLoop, holdsLoop, membersHoldLoop_spread ms]
  | list items => rw [Value.spreadBytes, holdsLoop, holdsLoop, itemsHoldLoop_spread items]
  | pair k w =>
    rw [Value.spreadBytes, holdsLoop, holdsLoop, itemsHoldLoop, itemsHoldLoop, itemsHoldLoop,
      Bool.or_false, holdsLoop_spreadBytes k, holdsLoop_spreadBytes w]
  | scalar s =>
    cases s with
    | bytes data =>
      rw [Value.spreadBytes, holdsLoop, holdsLoop]
      · rw [itemsHoldLoop_eq_false_iff]
        intro v hv
        obtain ⟨b, -, rfl⟩ := List.mem_map.1 hv
        rfl
      all_goals intros; contradiction
    | _ => rfl
  | _ => rfl

theorem itemsHoldLoop_spread (vs : List Value) :
    itemsHoldLoop (spreadItems vs) = itemsHoldLoop vs := by
  cases vs with
  | nil => rfl
  | cons v vs =>
    rw [spreadItems, itemsHoldLoop, itemsHoldLoop, holdsLoop_spreadBytes v,
      itemsHoldLoop_spread vs]

theorem membersHoldLoop_spread (ms : Members) :
    membersHoldLoop (spreadMembers ms) = membersHoldLoop ms := by
  cases ms with
  | nil => rfl
  | cons m ms =>
    rw [spreadMembers, membersHoldLoop, membersHoldLoop, holdsLoop_spreadBytes m.2,
      membersHoldLoop_spread ms]

end

theorem holdsLoop_part {v w : Value} {i : Nat} {slot : Slot} (hv : v.holdsLoop = false)
    (hpart : part? v i = some (slot, w)) : w.holdsLoop = false := by
  rcases part?_cases hpart with ⟨k, ms, m, rfl, hm, -, rfl⟩ | ⟨items, rfl, hw, -⟩
    | ⟨s, c, -, -, -, rfl⟩ | ⟨k, u, rfl, -, ⟨-, rfl⟩ | ⟨-, rfl⟩⟩
  · rw [holdsLoop] at hv
    exact membersHoldLoop_eq_false_iff.1 hv m (List.mem_of_getElem? hm)
  · rw [holdsLoop] at hv
    exact itemsHoldLoop_eq_false_iff.1 hv w (List.mem_of_getElem? hw)
  · rfl
  · rw [holdsLoop, Bool.or_eq_false_iff] at hv
    exact hv.1
  · rw [holdsLoop, Bool.or_eq_false_iff] at hv
    exact hv.2

theorem holdsLoop_mapParts {f : Nat → Slot → Value → Value} {v : Value}
    (hv : v.holdsLoop = false) (hparts : ∀ i slot w, part? v i = some (slot, w) →
      (f i slot w).holdsLoop = false) : (mapParts f v).holdsLoop = false := by
  cases v with
  | object k ms =>
    rw [mapParts, holdsLoop, membersHoldLoop_eq_false_iff]
    intro m hm
    obtain ⟨i, hi⟩ := List.mem_iff_getElem?.1 hm
    rw [List.getElem?_mapIdx] at hi
    obtain ⟨m', hm', rfl⟩ := Option.map_eq_some_iff.1 hi
    exact hparts i (.member m'.1) m'.2 (by rw [part?, hm']; rfl)
  | list items =>
    rw [mapParts, holdsLoop, itemsHoldLoop_eq_false_iff]
    intro w hw
    obtain ⟨i, hi⟩ := List.mem_iff_getElem?.1 hw
    rw [List.getElem?_mapIdx] at hi
    obtain ⟨u, hu, rfl⟩ := Option.map_eq_some_iff.1 hi
    exact hparts i .item u (by rw [part?, hu]; rfl)
  | pair k w =>
    rw [mapParts, holdsLoop, hparts 0 .item k rfl, hparts 1 .item w rfl]
    rfl
  | _ => exact hv

/-- What is put in the place of a reference holds no such alias if the document holds none. -/
theorem holdsLoop_inlineWith {files : Source.Files} {root : Value} {o : Outline} {n : Node}
    (hroot : root.spreadBytes = root) (hloop : root.holdsLoop = false) (h : n.SeenIn root) :
    (inlineWith (landing files root) o n).holdsLoop = false := by
  have hall : ∀ m : Node, m.SeenIn root → m.value.holdsLoop = false := by
    intro m hm
    rw [← holdsLoop_spreadBytes]
    exact of_valueAt (P := fun v => v.holdsLoop = false) hloop
      (fun _ _ _ _ => holdsLoop_part) hm.2
  induction o generalizing n with
  | leaf => exact hall n h
  | node replaced below ih =>
    rw [inlineWith]
    split
    · exact hall n h
    · refine holdsLoop_mapParts (hall n h) fun i slot w hpart => ?_
      split
      · exact hall _ (h.child hpart)
      · split
        · exact ih slot (landing_seen files hroot (h.child hpart)).2
        · exact ih slot (h.child hpart)

end Loops

/-! ## The head of the document -/

section Head

open Document (objectMembers rawSchemas formatVersion readInfo readHead)

variable {files : Source.Files} {levels : Nat} {raw : Value}

/-- What a table of members does below a member. -/
theorem part_fields (land : Node → Node) (table : List (String × Bool × Outline)) (n : Node)
    (i : Nat) (key : String) (v : Value)
    (hkeep : (Outline.field table (.member (.text key))).1 = false) :
    ((Outline.fields table).part land n i (.member (.text key)) v).2.value = v
      ∧ (((Outline.fields table).part land n i (.member (.text key)) v).1 = .leaf
        ∨ ((Outline.fields table).part land n i (.member (.text key)) v).1
          = (Outline.field table (.member (.text key))).2) := by
  unfold Outline.fields Outline.part
  dsimp only
  split
  · exact ⟨rfl, .inl rfl⟩
  · refine ⟨?_, .inr rfl⟩
    simp only [hkeep, Bool.false_eq_true, if_false]
    rfl

/-- A member that the table does not name stays. -/
theorem member?_fields {land : Node → Node} {table : List (String × Bool × Outline)} {n : Node}
    {key : String} (hkey : Outline.field table (.member (.text key)) = (false, .leaf)) :
    (inlineWith land (.fields table) n).member? key = n.value.member? key := by
  rcases member?_cases land (.fields table) n key with ⟨hmade, hmember⟩ | ⟨i, v, hmember, hmade⟩
  · rw [hmade, hmember]
  · obtain ⟨hvalue, hleaf⟩ := part_fields land table n i key v (by rw [hkey])
    rw [hkey, or_self] at hleaf
    rw [hmade, hmember, hleaf, inlineWith, hvalue]

theorem formatVersion_inlined : formatVersion (inlined files levels raw) = formatVersion raw := by
  have hopenapi : (inlined files levels raw).member? "openapi" = raw.member? "openapi" :=
    member?_fields (by rfl)
  have hswagger : (inlined files levels raw).member? "swagger" = raw.member? "swagger" :=
    member?_fields (by rfl)
  simp only [formatVersion, List.findSome?_cons, List.findSome?_nil, hopenapi, hswagger]

theorem readInfo_inlined : readInfo (inlined files levels raw) = readInfo raw := by
  have hinfo : (inlined files levels raw).member? "info" = raw.member? "info" :=
    member?_fields (by rfl)
  rw [readInfo, hinfo, readInfo]

/-- The components that are defined once keep their schemas, whatever is replaced among them. -/
theorem objectMembers_components {land : Node → Node} {n : Node} {ms : Members}
    (h : objectMembers n.value = .ok ms) :
    ∃ ms', objectMembers (inlineWith land (Outline.components levels) n) = .ok ms'
      ∧ Members.getText? ms' "schemas" = Members.getText? ms "schemas" := by
  have hschemas : (inlineWith land (Outline.components levels) n).member? "schemas"
      = n.value.member? "schemas" := member?_fields (by rfl)
  cases hvalue : n.value with
  | object k ms₀ =>
    obtain ⟨ms', hmade, -⟩ := (inlineWith_alike land (Outline.components levels) n).exists_object
      hvalue
    rw [hvalue] at h hschemas
    cases h
    rw [hmade] at hschemas ⊢
    exact ⟨ms', rfl, hschemas⟩
  | _ =>
    rw [hvalue] at h
    cases h

theorem rawSchemas_inlined {w : Value} (h : rawSchemas raw = .ok w) :
    rawSchemas (inlined files levels raw) = .ok w := by
  have hdefinitions : (inlined files levels raw).member? "definitions"
      = raw.member? "definitions" := member?_fields (by rfl)
  unfold rawSchemas at h ⊢
  rw [hdefinitions]
  rcases member?_cases (landing files raw.spreadBytes) (Outline.document levels) ⟨0, [], raw⟩
    "components" with ⟨hmade, hmember⟩ | ⟨i, v, hmember, hmade⟩
  · dsimp only at hmember
    rw [hmember] at h
    rw [inlined, hmade]
    exact h
  · obtain ⟨hvalue, hbelow⟩ := part_fields (landing files raw.spreadBytes)
      (Outline.documentFields levels) ⟨0, [], raw⟩ i "components" v rfl
    dsimp only at hmember
    rw [hmember] at h
    rw [inlined, hmade]
    dsimp only at h ⊢
    -- the components are gone through, unless the whole document is a reference
    obtain ⟨ms, hms, hrest⟩ := bind_eq_ok_iff.1 h
    rw [← hvalue] at hms
    rw [Outline.document]
    rcases hbelow with hbelow | hbelow
    · rw [hbelow]
      exact bind_eq_ok_iff.2 ⟨ms, hms, hrest⟩
    · obtain ⟨ms', hms', hschemas⟩ := objectMembers_components hms
      rw [hbelow]
      refine bind_eq_ok_iff.2 ⟨ms', hms', ?_⟩
      rw [hschemas]
      exact hrest

/-- A document and what is made of it have the same head. -/
theorem readHead_inlined {operations : List Operation} {d : OpenApiClient.Document}
    (h : readHead raw operations = .ok d) :
    readHead (inlined files levels raw) operations = .ok d := by
  unfold readHead at h ⊢
  obtain ⟨written, hwritten, hrest⟩ := bind_eq_ok_iff.1 h
  refine bind_eq_ok_iff.2 ⟨written, rawSchemas_inlined hwritten, ?_⟩
  rw [formatVersion_inlined, readInfo_inlined]
  exact hrest

end Head

end OpenApiClient.Reference
