/-
Places in a document.

A node carries the way from the root to it, and everything that is done with nodes keeps this
way true: the value of a node is the one that stands at its place (`Node.StandsIn`).  Ways are
made of parts, and `part?` is the one notion of a part behind the steps of a pointer, the
members of an object and the items of a list.
-/
import OpenApiClient.Document.Place
import OpenApiClient.Proofs.Runs

set_option autoImplicit false

namespace OpenApiClient.Reference

/-! ## Parts -/

/-- What a part is to the value that it is a part of. -/
inductive Slot where
  | member (key : Scalar)
  | item
  /-- A character of a text. -/
  | piece

/-- The part of a value at a position, and what it is to the value.  The two halves of an entry
count as items, as they do for whoever goes through an entry. -/
def part? : Value → Nat → Option (Slot × Value)
  | .object _ ms, i => (ms[i]?).map fun m => (.member m.1, m.2)
  | .list items, i => (items[i]?).map fun v => (.item, v)
  | .scalar (.text s), i => (s.toList[i]?).map fun c => (.piece, .text (.singleton c))
  | .pair k _, 0 => some (.item, k)
  | .pair _ v, 1 => some (.item, v)
  | _, _ => none

/-- The value at a place below a root, if there is one. -/
def valueAt (root : Value) : List Nat → Option Value
  | [] => some root
  | i :: place => (valueAt root place).bind fun v => (part? v i).map (·.2)

/-- The value of a node is the one at its place below a root. -/
def Node.StandsIn (root : Value) (n : Node) : Prop := valueAt root n.place = some n.value

theorem Node.StandsIn.child {root : Value} {n : Node} (h : n.StandsIn root) {i : Nat}
    {slot : Slot} {v : Value} (hpart : part? n.value i = some (slot, v)) :
    (n.child i v).StandsIn root := by
  unfold Node.StandsIn at h ⊢
  rw [Node.child, valueAt, h, Option.bind_some, hpart, Option.map_some]

/-- Two nodes at one place have one value. -/
theorem Node.StandsIn.value_eq {root : Value} {n m : Node} (hn : n.StandsIn root)
    (hm : m.StandsIn root) (hplace : n.place = m.place) : n.value = m.value := by
  unfold Node.StandsIn at hn hm
  rw [hplace, hm] at hn
  exact (Option.some.inj hn).symm

/-! ### What parts are, and a fact about all of them -/

/-- A part is a member, an item, a character, or a half of an entry. -/
theorem part?_cases {v w : Value} {i : Nat} {slot : Slot} (h : part? v i = some (slot, w)) :
    (∃ k ms m, v = .object k ms ∧ ms[i]? = some m ∧ slot = .member m.1 ∧ w = m.2)
      ∨ (∃ items, v = .list items ∧ items[i]? = some w ∧ slot = .item)
      ∨ (∃ s c, v = .text s ∧ s.toList[i]? = some c ∧ slot = .piece ∧ w = .text (.singleton c))
      ∨ ∃ k u, v = .pair k u ∧ slot = .item ∧ (i = 0 ∧ w = k ∨ i = 1 ∧ w = u) := by
  unfold part? at h
  split at h
  · obtain ⟨m, hm, heq⟩ := Option.map_eq_some_iff.1 h
    cases heq
    exact .inl ⟨_, _, m, rfl, hm, rfl, rfl⟩
  · obtain ⟨u, hu, heq⟩ := Option.map_eq_some_iff.1 h
    cases heq
    exact .inr (.inl ⟨_, rfl, hu, rfl⟩)
  · obtain ⟨c, hc, heq⟩ := Option.map_eq_some_iff.1 h
    cases heq
    exact .inr (.inr (.inl ⟨_, c, rfl, hc, rfl, rfl⟩))
  · cases h
    exact .inr (.inr (.inr ⟨_, _, rfl, rfl, .inl ⟨rfl, rfl⟩⟩))
  · cases h
    exact .inr (.inr (.inr ⟨_, _, rfl, rfl, .inr ⟨rfl, rfl⟩⟩))
  · cases h

/-- What holds of a root and is handed on to parts holds of every value in it. -/
theorem of_valueAt {P : Value → Prop} {root v : Value} {place : List Nat} (hroot : P root)
    (hpart : ∀ v i slot w, P v → part? v i = some (slot, w) → P w)
    (h : valueAt root place = some v) : P v := by
  induction place generalizing v with
  | nil =>
    cases h
    exact hroot
  | cons i place ih =>
    rw [valueAt] at h
    obtain ⟨u, hu, hmap⟩ := Option.bind_eq_some_iff.1 h
    obtain ⟨⟨slot, w⟩, hw, rfl⟩ := Option.map_eq_some_iff.1 hmap
    exact hpart u i slot w (ih hu) hw

/-! ## Steps of a pointer -/

/-- The position that a step of a pointer names in a sequence of a length. -/
def nthIndex? (length : Nat) (step : String) : Option Nat :=
  match Text.readInt 10 step.toList with
  | .error _ => none
  | .ok i =>
    let j := if i < 0 then i + length else i
    if j < 0 then none else some j.toNat

/-- The position of the part that a step of a pointer names. -/
def stepIndex? (v : Value) (step : String) : Option Nat :=
  match v with
  | .object _ ms => (ms.map (·.1)).findIdx? fun k => k.isText step
  | .list items => nthIndex? items.length step
  | .scalar (.text s) => nthIndex? s.toList.length step
  | _ => none

theorem nth?_eq (n : Node) (vs : List Value) (step : String) :
    n.nth? vs step = (nthIndex? vs.length step).bind fun i => (vs[i]?).map (n.child i) := by
  unfold Node.nth? nthIndex?
  cases Text.readInt 10 step.toList with
  | error e => rfl
  | ok i =>
    dsimp only
    by_cases hj : (if i < 0 then i + (vs.length : Int) else i) < 0
    · rw [if_pos hj, if_pos hj, Option.bind_none]
    · rw [if_neg hj, if_neg hj, Option.bind_some]

/-- A step leads to the part at the position that it names. -/
theorem step?_eq (n : Node) (step : String) :
    n.step? step
      = (stepIndex? n.value step).bind fun i => (part? n.value i).map fun p => n.child i p.2 := by
  obtain ⟨document, place, v⟩ := n
  cases v with
  | object k ms =>
    simp only [Node.step?, stepIndex?, part?, List.findIdx?_map, Option.map_map]
    rfl
  | list items =>
    simp only [Node.step?, stepIndex?, part?, nth?_eq, Option.map_map]
    rfl
  | scalar s =>
    cases s with
    | text s =>
      simp only [Node.step?, stepIndex?, part?, nth?_eq, List.length_map, List.getElem?_map,
        Option.map_map]
      rfl
    | _ => rfl
  | _ => rfl

theorem step?_eq_some_iff {n next : Node} {step : String} :
    n.step? step = some next ↔
      ∃ i slot v, stepIndex? n.value step = some i ∧ part? n.value i = some (slot, v)
        ∧ next = n.child i v := by
  rw [step?_eq, Option.bind_eq_some_iff]
  constructor
  · rintro ⟨i, hi, hmap⟩
    obtain ⟨⟨slot, v⟩, hpart, rfl⟩ := Option.map_eq_some_iff.1 hmap
    exact ⟨i, slot, v, hi, hpart, rfl⟩
  · rintro ⟨i, slot, v, hi, hpart, rfl⟩
    exact ⟨i, hi, Option.map_eq_some_iff.2 ⟨(slot, v), hpart, rfl⟩⟩

/-! ## Members and items as nodes -/

theorem children_length (n : Node) (vs : List Value) : (n.children vs).length = vs.length := by
  rw [Node.children, List.length_map, List.length_zip, List.length_range, Nat.min_self]

theorem children_getElem? (n : Node) (vs : List Value) (i : Nat) :
    (n.children vs)[i]? = (vs[i]?).map (n.child i) := by
  rw [Node.children, List.getElem?_map]
  by_cases hi : i < vs.length
  · have hzip : (vs.zip (List.range vs.length))[i]? = some (vs[i], i) := by
      rw [List.getElem?_zip_eq_some]
      exact ⟨List.getElem?_eq_getElem hi, List.getElem?_range hi⟩
    rw [hzip, List.getElem?_eq_getElem hi]
    rfl
  · have hzip : (vs.zip (List.range vs.length))[i]? = none := by
      rw [List.getElem?_eq_none_iff, List.length_zip, List.length_range, Nat.min_self]
      omega
    rw [hzip, List.getElem?_eq_none_iff.2 (by omega)]
    rfl

theorem memberNodes_length (n : Node) (ms : Members) :
    (Document.memberNodes n ms).length = ms.length := by
  rw [Document.memberNodes, List.length_zip, children_length, List.length_map, List.length_map,
    Nat.min_self]

theorem memberNodes_getElem? (n : Node) (ms : Members) (i : Nat) :
    (Document.memberNodes n ms)[i]? = (ms[i]?).map fun m => (m.1, n.child i m.2) := by
  rw [Document.memberNodes]
  cases hm : ms[i]? with
  | none =>
    rw [Option.map_none, List.getElem?_eq_none_iff]
    have hlength := List.getElem?_eq_none_iff.1 hm
    rw [List.length_zip, List.length_map]
    omega
  | some m =>
    rw [Option.map_some, List.getElem?_zip_eq_some, children_getElem?, List.getElem?_map,
      List.getElem?_map, hm]
    exact ⟨rfl, rfl⟩

/-! ## Bytes as lists of numbers -/

open Value (spreadBytes spreadItems spreadMembers)

theorem spreadItems_eq (vs : List Value) : spreadItems vs = vs.map spreadBytes := by
  induction vs with
  | nil => rfl
  | cons v vs ih => rw [spreadItems, ih, List.map_cons]

theorem spreadMembers_eq (ms : Members) :
    spreadMembers ms = ms.map fun m => (m.1, m.2.spreadBytes) := by
  induction ms with
  | nil => rfl
  | cons m ms ih => rw [spreadMembers, ih, List.map_cons]

/-- The parts of a value stay, each with bytes as lists of numbers. -/
theorem part?_spreadBytes {v w : Value} {i : Nat} {slot : Slot}
    (h : part? v i = some (slot, w)) : part? v.spreadBytes i = some (slot, w.spreadBytes) := by
  rcases part?_cases h with ⟨k, ms, m, rfl, hm, rfl, rfl⟩ | ⟨items, rfl, hw, rfl⟩
    | ⟨s, c, rfl, hc, rfl, rfl⟩ | ⟨k, u, rfl, rfl, ⟨rfl, rfl⟩ | ⟨rfl, rfl⟩⟩
  · rw [spreadBytes, spreadMembers_eq, part?, List.getElem?_map, hm]
    rfl
  · rw [spreadBytes, spreadItems_eq, part?, List.getElem?_map, hw]
    rfl
  · -- a text is not spread, and its characters are texts
    exact h
  · rfl
  · rfl

mutual

/-- Bytes are spread once and for all. -/
theorem spreadBytes_idem (v : Value) : v.spreadBytes.spreadBytes = v.spreadBytes := by
  cases v with
  | object k ms => rw [spreadBytes, spreadBytes, spreadMembers_idem ms]
  | list items => rw [spreadBytes, spreadBytes, spreadItems_idem items]
  | pair k v =>
    rw [spreadBytes, spreadBytes, spreadItems, spreadItems, spreadItems, spreadBytes_idem k,
      spreadBytes_idem v]
  | scalar s =>
    cases s with
    | bytes data =>
      rw [spreadBytes, spreadBytes, spreadItems_eq, List.map_map]
      rfl
    | _ => rfl
  | _ => rfl

theorem spreadItems_idem (vs : List Value) : spreadItems (spreadItems vs) = spreadItems vs := by
  cases vs with
  | nil => rfl
  | cons v vs => rw [spreadItems, spreadItems, spreadBytes_idem v, spreadItems_idem vs]

theorem spreadMembers_idem (ms : Members) :
    spreadMembers (spreadMembers ms) = spreadMembers ms := by
  cases ms with
  | nil => rfl
  | cons m ms => rw [spreadMembers, spreadMembers, spreadBytes_idem m.2, spreadMembers_idem ms]

end

theorem text?_spreadBytes (v : Value) : v.spreadBytes.text? = v.text? := by
  cases v with
  | scalar s => cases s <;> rfl
  | _ => rfl

/-- A value is as much a reference as it is with bytes as lists of numbers. -/
theorem reference?_spreadBytes (v : Value) : v.spreadBytes.reference? = v.reference? := by
  cases v with
  | object k ms =>
    simp only [Value.reference?, spreadBytes, Value.member?, Members.getText?]
    rw [spreadMembers_eq, List.find?_map, Option.map_map]
    cases hm : ms.find? fun m => m.1.isText "$ref" with
    | none => simp [Function.comp_def, hm]
    | some m => simp [Function.comp_def, hm, text?_spreadBytes]
  | scalar s => cases s <;> rfl
  | _ => rfl

/-- A node as references see it: with bytes as lists of numbers. -/
def Node.seen (n : Node) : Node := { n with value := n.value.spreadBytes }

theorem Node.StandsIn.seen_eq {root : Value} {n : Node} (hroot : root.spreadBytes = root)
    (h : n.StandsIn root) : n.seen = n := by
  have hvalue : n.value.spreadBytes = n.value := by
    refine of_valueAt (P := fun v => v.spreadBytes = v) hroot ?_ h
    intro v i slot w hv hpart
    have hspread := part?_spreadBytes hpart
    rw [hv, hpart, Option.some.injEq, Prod.mk.injEq] at hspread
    exact hspread.2.symm
  rw [Node.seen, hvalue]

end OpenApiClient.Reference
