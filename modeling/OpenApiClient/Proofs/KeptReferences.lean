/-
Copies that keep references.

The schemas of a document are copied with their references as they stand there, because the name of
a target becomes the name of a type.  Seen through its references a document has no end, so a copy
has to ask whether a node is a reference before it asks anything else: every other question is
answered by the target.  `copyWith` is that copy, with looks through references in it, and the
reader works with `trimReferences`, in which nothing is looked up at all.

That both are one is an induction on the depth of the value, and at no point does a look meet a
reference; hence the library stays as it is, and it does not matter what is in it
(`runs_copyWith`).  What the copy is like is said place by place in `CutDown`: a place is either cut
off by a reference above it, or holds the same as before, or a reference reduced to its one member.
The weak spot is a member `$ref` that is no text: such an object is data, and is copied like any
other.
-/
import Mathlib
import OpenApiClient.Proofs.Decoded
import OpenApiClient.Proofs.Following
import OpenApiClient.Proofs.Inlining

set_option autoImplicit false

namespace OpenApiClient

open Value (trimItems trimMembers)

/-! ## Values with references cut down -/

namespace Value

theorem trimItems_eq (vs : List Value) : trimItems vs = vs.map trimReferences := by
  induction vs with
  | nil => rfl
  | cons v vs ih => rw [trimItems, ih, List.map_cons]

theorem trimMembers_eq (ms : Members) :
    trimMembers ms = ms.map fun m => (m.1, m.2.trimReferences) := by
  induction ms with
  | nil => rfl
  | cons m ms ih => rw [trimMembers, ih, List.map_cons]

/-- An object with nothing in it but the text of a reference. -/
def bare (v : Value) (ref : String) : Value :=
  match v with
  | .object k _ => .object k [(.text "$ref", .text ref)]
  | v => v

theorem trimReferences_of_reference {v : Value} {ref : String} (h : v.reference? = some ref) :
    v.trimReferences = v.bare ref := by
  cases v with
  | object k ms =>
    rw [trimReferences, h]
    rfl
  | _ => cases h

theorem reference?_bare {v : Value} {ref : String} (h : v.reference? = some ref) :
    (v.bare ref).reference? = some ref := by
  cases v with
  | object k ms => rfl
  | _ => cases h

theorem trimReferences_object {k : Nat} {ms : Members}
    (h : (Value.object k ms).reference? = none) :
    (Value.object k ms).trimReferences
      = .object k (ms.map fun m => (m.1, m.2.trimReferences)) := by
  rw [trimReferences, h, trimMembers_eq]

theorem trimReferences_list (items : List Value) :
    (Value.list items).trimReferences = .list (items.map trimReferences) := by
  rw [trimReferences, trimItems_eq]

theorem text?_trimReferences (v : Value) : v.trimReferences.text? = v.text? := by
  cases v with
  | object k ms =>
    unfold trimReferences
    cases (Value.object k ms).reference? <;> rfl
  | _ => rfl

/-- What is a reference stays one, and nothing becomes one. -/
theorem reference?_trimReferences (v : Value) : v.trimReferences.reference? = v.reference? := by
  cases href : v.reference? with
  | some ref =>
    rw [trimReferences_of_reference href, reference?_bare href]
  | none =>
    cases v with
    | object k ms =>
      rw [trimReferences_object href, ← href]
      simp only [reference?, member?, Members.getText?, List.find?_map, Option.map_map]
      cases hfind : ms.find? fun m => m.1.isText "$ref" with
      | none => simp [Function.comp_def, hfind]
      | some m => simp [Function.comp_def, hfind, text?_trimReferences]
    | _ => rfl

mutual

/-- A copy of a copy is the same. -/
theorem trimReferences_idem (v : Value) : v.trimReferences.trimReferences = v.trimReferences := by
  cases v with
  | object k ms =>
    cases href : (Value.object k ms).reference? with
    | some ref =>
      rw [trimReferences_of_reference href, trimReferences_of_reference (reference?_bare href)]
      rfl
    | none =>
      have hagain := (reference?_trimReferences (.object k ms)).trans href
      rw [trimReferences, href] at hagain ⊢
      rw [trimReferences, hagain]
      exact congrArg (Value.object k) (trimMembers_idem ms)
  | list items => rw [trimReferences, trimReferences, trimItems_idem items]
  | _ => rfl

theorem trimItems_idem (vs : List Value) : trimItems (trimItems vs) = trimItems vs := by
  cases vs with
  | nil => rfl
  | cons v vs => rw [trimItems, trimItems, trimReferences_idem v, trimItems_idem vs]

theorem trimMembers_idem (ms : Members) : trimMembers (trimMembers ms) = trimMembers ms := by
  cases ms with
  | nil => rfl
  | cons m ms => rw [trimMembers, trimMembers, trimReferences_idem m.2, trimMembers_idem ms]

end

end Value

namespace Reference

open Document (memberNodes)

/-! ## Copying -/

/-- A copy of a node in which references stand as they are; calls can be nested `fuel` deep. -/
def copyWith : Nat → Node → Following Value
  | 0, _ => throw .endless
  | fuel + 1, n =>
    match n.value.reference? with
    | some ref => return n.value.bare ref
    | none => do
      -- whoever asks for the kind of a node, or goes through it, sees through a reference
      let found ← View.settle n
      match found.value with
      | .object k ms => do
        let copies ← (memberNodes found ms).mapM fun m => do return (m.1, ← copyWith fuel m.2)
        return .object k copies
      | .list items => do
        let copies ← (found.children items).mapM (copyWith fuel)
        return .list copies
      | v => return v

/-- Steps that leave everything as it is, one after the other. -/
theorem runs_mapM {σ ε α β : Type} {f : α → StateT σ (Except ε) β} {g : α → β} {s : σ}
    {xs : List α} (h : ∀ x ∈ xs, Runs (f x) s (g x) s) : Runs (xs.mapM f) s (xs.map g) s := by
  induction xs with
  | nil => exact runs_pure_iff.2 ⟨rfl, rfl⟩
  | cons x xs ih =>
    obtain ⟨hx, hxs⟩ := List.forall_mem_cons.1 h
    rw [List.mapM_cons]
    refine runs_bind_iff.2 ⟨g x, s, hx, runs_bind_iff.2 ⟨xs.map g, s, ih hxs, ?_⟩⟩
    exact runs_pure_iff.2 ⟨rfl, rfl⟩

theorem map_children {β : Type} (f : Value → β) (n : Node) (vs : List Value) :
    (n.children vs).map (fun m => f m.value) = vs.map f := by
  apply List.ext_getElem?
  intro i
  rw [List.getElem?_map, children_getElem?, Option.map_map, List.getElem?_map]
  rfl

theorem map_memberNodes {β : Type} (f : Scalar × Value → β) (n : Node) (ms : Members) :
    (memberNodes n ms).map (fun m => f (m.1, m.2.value)) = ms.map f := by
  apply List.ext_getElem?
  intro i
  rw [List.getElem?_map, memberNodes_getElem?, Option.map_map, List.getElem?_map]
  rfl

/-- **A copy follows no reference.**  It comes to an end within the depth of the value, in whatever
library it is made, and leaves that library as it is. -/
theorem runs_copyWith {fuel : Nat} {n : Node} (l : Library) (h : n.value.depth < fuel) :
    Runs (copyWith fuel n) l n.value.trimReferences l := by
  induction fuel generalizing n with
  | zero => omega
  | succ fuel ih =>
    cases href : n.value.reference? with
    | some ref =>
      rw [Value.trimReferences_of_reference href, copyWith, href]
      exact runs_pure_iff.2 ⟨rfl, rfl⟩
    | none =>
      -- the node is none, so a look at it gives it back
      have hlook : Runs (View.settle n) l n l := (runs_settleWith_of_plain href).2 ⟨rfl, rfl⟩
      rw [copyWith, href]
      refine runs_bind_iff.2 ⟨n, l, hlook, ?_⟩
      cases hvalue : n.value with
      | object k ms =>
        rw [hvalue, Value.depth] at h
        rw [hvalue] at href
        have hcopies : Runs ((memberNodes n ms).mapM fun m => do
            return (m.1, ← copyWith fuel m.2)) l
            ((memberNodes n ms).map fun m => (m.1, m.2.value.trimReferences)) l := by
          refine runs_mapM fun m hm => ?_
          have hmem : (m.1, m.2.value) ∈ ms.map id := by
            rw [← map_memberNodes id n ms]
            exact List.mem_map_of_mem hm
          rw [List.map_id] at hmem
          have hdepth : m.2.value.depth ≤ Value.depthOfMembers ms :=
            Value.depth_le_depthOfMembers hmem
          exact runs_bind_iff.2 ⟨_, l, ih (by omega), runs_pure_iff.2 ⟨rfl, rfl⟩⟩
        refine runs_bind_iff.2 ⟨_, l, hcopies, runs_pure_iff.2 ⟨?_, rfl⟩⟩
        rw [Value.trimReferences_object href]
        exact congrArg (Value.object k)
          (map_memberNodes (fun m => (m.1, m.2.trimReferences)) n ms).symm
      | list items =>
        rw [hvalue, Value.depth] at h
        have hcopies : Runs ((n.children items).mapM (copyWith fuel)) l
            ((n.children items).map fun m => m.value.trimReferences) l := by
          refine runs_mapM fun m hm => ih ?_
          have hmem : m.value ∈ items.map id := by
            rw [← map_children id n items]
            exact List.mem_map_of_mem hm
          rw [List.map_id] at hmem
          have hdepth := Value.depth_le_depthOfItems hmem
          omega
        refine runs_bind_iff.2 ⟨_, l, hcopies, runs_pure_iff.2 ⟨?_, rfl⟩⟩
        rw [Value.trimReferences_list]
        exact congrArg Value.list (map_children Value.trimReferences n items).symm
      | _ => exact runs_pure_iff.2 ⟨rfl, rfl⟩

/-! ## What a copy is like -/

/-- No reference stands above a place. -/
def Uncovered (x : Value) : List Nat → Prop
  | [] => True
  | _ :: place => Uncovered x place ∧ ∀ v, valueAt x place = some v → v.reference? = none

/-- A value with its references cut down: wherever no reference stands above, there is a reference
with its one member in the place of a reference, and what has the same keys, as many items or the
same text in the place of anything else. -/
def CutDown (x y : Value) : Prop :=
  ∀ place v, Uncovered x place → valueAt x place = some v →
    ∃ w, valueAt y place = some w ∧
      match v.reference? with
      | some ref => w = v.bare ref
      | none => Alike v w

/-- What references see has no entries and no bytes, nor has any part of it. -/
theorem spread_of_valueAt {x v : Value} {place : List Nat} (hx : x.spreadBytes = x)
    (h : valueAt x place = some v) : v.spreadBytes = v := by
  have hnode : (Node.mk 0 place v).StandsIn x := h
  exact congrArg Node.value (hnode.seen_eq hx)

/-- The parts of a copy are the copies of the parts, unless it is that of a reference. -/
theorem part?_trimReferences {v w : Value} {i : Nat} {slot : Slot} (hspread : v.spreadBytes = v)
    (href : v.reference? = none) (h : part? v i = some (slot, w)) :
    part? v.trimReferences i = some (slot, w.trimReferences) := by
  rcases part?_cases h with ⟨k, ms, m, rfl, hm, rfl, rfl⟩ | ⟨items, rfl, hw, rfl⟩
    | ⟨s, c, rfl, hc, rfl, rfl⟩ | ⟨k, u, rfl, -⟩
  · rw [Value.trimReferences_object href, part?, List.getElem?_map, hm]
    rfl
  · rw [Value.trimReferences_list, part?, List.getElem?_map, hw]
    rfl
  · -- the characters of a text are texts, and no text is cut down
    exact h
  · cases hspread

theorem valueAt_trimReferences {x v : Value} {place : List Nat} (hx : x.spreadBytes = x)
    (hplace : Uncovered x place) (h : valueAt x place = some v) :
    valueAt x.trimReferences place = some v.trimReferences := by
  induction place generalizing v with
  | nil =>
    cases h
    rfl
  | cons i place ih =>
    rw [valueAt] at h ⊢
    obtain ⟨u, hu, hmap⟩ := Option.bind_eq_some_iff.1 h
    obtain ⟨⟨slot, w⟩, hpart, rfl⟩ := Option.map_eq_some_iff.1 hmap
    rw [ih hplace.1 hu, Option.bind_some,
      part?_trimReferences (spread_of_valueAt hx hu) (hplace.2 u hu) hpart]
    rfl

theorem alike_trimReferences {v : Value} (href : v.reference? = none) :
    Alike v v.trimReferences := by
  cases v with
  | object k ms =>
    rw [Value.trimReferences_object href]
    exact .object (by rw [List.map_map]; rfl)
  | list items =>
    rw [Value.trimReferences_list]
    exact .list (List.length_map _)
  | _ => exact .same

theorem cutDown_trimReferences {x : Value} (hx : x.spreadBytes = x) :
    CutDown x x.trimReferences := by
  intro place v hplace hv
  refine ⟨v.trimReferences, valueAt_trimReferences hx hplace hv, ?_⟩
  cases href : v.reference? with
  | some ref => exact Value.trimReferences_of_reference href
  | none => exact alike_trimReferences href

/-! ### There is one such value -/

/-- The first step of a way is the last one of its place. -/
theorem valueAt_concat (x : Value) (place : List Nat) (i : Nat) :
    valueAt x (place ++ [i]) = (part? x i).bind fun p => valueAt p.2 place := by
  induction place with
  | nil =>
    rw [List.nil_append, valueAt, valueAt, Option.bind_some]
    cases part? x i <;> rfl
  | cons j place ih =>
    rw [List.cons_append, valueAt, ih]
    cases part? x i <;> rfl

theorem Uncovered.concat {x v : Value} {i : Nat} {slot : Slot} (href : x.reference? = none)
    (hpart : part? x i = some (slot, v)) {place : List Nat} (h : Uncovered v place) :
    Uncovered x (place ++ [i]) := by
  induction place with
  | nil =>
    refine ⟨trivial, fun w hw => ?_⟩
    cases hw
    exact href
  | cons j place ih =>
    refine ⟨ih h.1, fun w hw => h.2 w ?_⟩
    have hbelow : valueAt x (place ++ [i]) = some w := hw
    rw [valueAt_concat, hpart] at hbelow
    exact hbelow

/-- What is cut down is so in every part. -/
theorem CutDown.part {x y v w : Value} {i : Nat} {slot slot' : Slot} (h : CutDown x y)
    (href : x.reference? = none) (hv : part? x i = some (slot, v))
    (hw : part? y i = some (slot', w)) : CutDown v w := by
  intro place u hplace hu
  have hbelow : valueAt x (place ++ [i]) = some u := by
    rw [valueAt_concat, hv]
    exact hu
  obtain ⟨u', hu', hcut⟩ := h _ u (hplace.concat href hv) hbelow
  rw [valueAt_concat, hw] at hu'
  exact ⟨u', hu', hcut⟩

theorem CutDown.root {x y : Value} (h : CutDown x y) :
    match x.reference? with
    | some ref => y = x.bare ref
    | none => Alike x y := by
  obtain ⟨w, hw, hcut⟩ := h [] x trivial rfl
  cases hw
  exact hcut

theorem eq_map_of_getElem? {α β : Type} {f : α → β} {xs : List α} {ys : List β}
    (hlength : ys.length = xs.length)
    (h : ∀ (i : Nat) a b, xs[i]? = some a → ys[i]? = some b → b = f a) : ys = xs.map f := by
  refine List.ext_getElem (by rw [List.length_map, hlength]) fun i hi hi' => ?_
  rw [List.getElem_map]
  exact h i _ _ (List.getElem?_eq_getElem _) (List.getElem?_eq_getElem hi)

/-- Cutting down leaves no choice. -/
theorem CutDown.eq_trimReferences {x y : Value} (hx : x.spreadBytes = x) (h : CutDown x y) :
    y = x.trimReferences := by
  induction hdepth : x.depth using Nat.strongRecOn generalizing x y with
  | ind d ih =>
    have hroot := h.root
    cases href : x.reference? with
    | some ref =>
      rw [href] at hroot
      rw [Value.trimReferences_of_reference href]
      exact hroot
    | none =>
      rw [href] at hroot
      -- what is nested less deeply has been cut down to its copy
      have hpart : ∀ {v w : Value} {i : Nat} {slot slot' : Slot}, part? x i = some (slot, v) →
          part? y i = some (slot', w) → v.depth < x.depth → w = v.trimReferences := by
        intro v w i slot slot' hv hw hlt
        have hspread : v.spreadBytes = v := by
          have hvalue : valueAt x [i] = some v := by
            rw [valueAt, valueAt, Option.bind_some, hv]
            rfl
          exact spread_of_valueAt hx hvalue
        exact ih v.depth (hdepth ▸ hlt) hspread (h.part href hv hw) rfl
      cases x with
      | object k ms =>
        obtain ⟨ms', rfl, hkeys⟩ := hroot.exists_object rfl
        have hlength := congrArg List.length hkeys
        rw [List.length_map, List.length_map] at hlength
        rw [Value.trimReferences_object href]
        refine congrArg (Value.object k) (eq_map_of_getElem? hlength fun i m m' hm hm' => ?_)
        have hkey := congrArg (·[i]?) hkeys
        rw [List.getElem?_map, List.getElem?_map, hm, hm'] at hkey
        have hdeeper : m.2.depth < (Value.object k ms).depth := by
          have hmax := Value.depth_le_depthOfMembers (List.mem_of_getElem? hm)
          rw [Value.depth]
          omega
        refine Prod.ext (Option.some.inj hkey) ?_
        exact hpart (by rw [part?, hm]; rfl) (by rw [part?, hm']; rfl) hdeeper
      | list items =>
        obtain ⟨items', rfl, hlength⟩ := hroot.exists_list rfl
        rw [Value.trimReferences_list]
        refine congrArg Value.list (eq_map_of_getElem? hlength fun i v w hv hw => ?_)
        exact hpart (by rw [part?, hv]; rfl) (by rw [part?, hw]; rfl)
          (Value.depth_lt_of_mem (List.mem_of_getElem? hv))
      | pair k v => cases hx
      | scalar s => exact hroot.scalar rfl
      | set ms =>
        cases hroot
        rfl
      | again k =>
        cases hroot
        rfl

/-! ## References survive -/

/-- A value as it is when references are looked for in it: it has an end, and bytes and entries are
lists in it. -/
structure IsTree (x : Value) : Prop where
  finite : x.holdsLoop = false
  spread : x.spreadBytes = x

/-- All of JSON is so. -/
theorem isTree_of_decoded {x : Value} (h : x.Decoded) : IsTree x := ⟨h.holdsLoop, h.spreadBytes⟩

/-- Nothing in a value is a reference. -/
def HoldsNoReference (x : Value) : Prop :=
  ∀ place v, valueAt x place = some v → v.reference? = none

/-- Without references there is nothing to cut down. -/
theorem HoldsNoReference.trimReferences_eq {x : Value} (hx : IsTree x)
    (h : HoldsNoReference x) : x.trimReferences = x := by
  refine (CutDown.eq_trimReferences hx.spread fun place v _ hv => ⟨v, hv, ?_⟩).symm
  rw [h place v hv]
  exact .same

/-- **References survive.**  The copy of a value is the value with its references cut down, it is
made without following any, and it is the only such value.  Without references it is the value
itself, and a copy of the copy is the copy. -/
theorem copy_keeps_references {x : Value} (hx : IsTree x) :
    (∀ fuel n l, n.value = x → x.depth < fuel → Runs (copyWith fuel n) l x.trimReferences l)
      ∧ (∀ y, CutDown x y ↔ y = x.trimReferences)
      ∧ (HoldsNoReference x → x.trimReferences = x)
      ∧ ∀ fuel n l, n.value = x.trimReferences → x.trimReferences.depth < fuel →
        Runs (copyWith fuel n) l x.trimReferences l := by
  refine ⟨?_, ?_, HoldsNoReference.trimReferences_eq hx, ?_⟩
  · rintro fuel n l rfl hdepth
    exact runs_copyWith l hdepth
  · intro y
    constructor
    · exact CutDown.eq_trimReferences hx.spread
    · rintro rfl
      exact cutDown_trimReferences hx.spread
  · intro fuel n l hn hdepth
    rw [← hn] at hdepth
    have hrun := runs_copyWith l hdepth
    rw [hn, Value.trimReferences_idem] at hrun
    exact hrun

/-- A document of which no reference can be followed: one leads to itself, one nowhere, and one to
a place that cannot be reached.  The last object is none. -/
def tangledDocument : Value :=
  .object 0 [
    (.text "self", .object 1 [(.text "$ref", .text "#/self")]),
    (.text "gone", .list [.object 2 [(.text "$ref", .text "#/nowhere"), (.text "type", .null)]]),
    (.text "far", .object 3 [(.text "title", .text "far"),
      (.text "$ref", .text "http://localhost/far.json#/a")]),
    (.text "data", .object 4 [(.text "$ref", .int 5),
      (.text "near", .object 5 [(.text "$ref", .text "#/data"), (.text "nullable", .bool true)])])]

/-- Its copy. -/
def untangledDocument : Value :=
  .object 0 [
    (.text "self", .object 1 [(.text "$ref", .text "#/self")]),
    (.text "gone", .list [.object 2 [(.text "$ref", .text "#/nowhere")]]),
    (.text "far", .object 3 [(.text "$ref", .text "http://localhost/far.json#/a")]),
    (.text "data", .object 4 [(.text "$ref", .int 5),
      (.text "near", .object 5 [(.text "$ref", .text "#/data")])])]

theorem copy_keeps_references_tangled :
    (View.settle ⟨0, [0], .object 1 [(.text "$ref", .text "#/self")]⟩).run
        (.ofValue {} tangledDocument) = .error (.toItself "#/self")
      ∧ (∀ fuel n l, n.value = tangledDocument → 4 < fuel →
        Runs (copyWith fuel n) l untangledDocument l)
      ∧ ∀ y, CutDown tangledDocument y ↔ y = untangledDocument := by
  obtain ⟨hcopy, hcut, -⟩ := copy_keeps_references (x := tangledDocument) ⟨rfl, rfl⟩
  refine ⟨by cbv, ?_, hcut⟩
  intro fuel n l hn hfuel
  have hdepth : tangledDocument.depth = 3 := rfl
  exact hcopy fuel n l hn (by omega)

end Reference

end OpenApiClient
