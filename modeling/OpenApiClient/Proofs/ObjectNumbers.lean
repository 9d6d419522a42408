/-
The objects that stand in a value.

Types of their own are given out per object, and objects are told apart by their numbers.  So
what bounds the number of types is the list of numbers that stand in a document:
`Value.numbers`, which is as long as `Value.countObjects` says.

`Within pool v` says that all these numbers are in a pool.  It is what a schema needs to be
asked for: every way down from a value, to a member, a part or an item, stays in the pool.
-/
import OpenApiClient.Proofs.Outcomes
import OpenApiClient.Schema.Resolve
import OpenApiClient.Value.Number
import Mathlib.Data.List.Nodup

set_option autoImplicit false

namespace OpenApiClient

/-! ## Numbers -/

namespace Value

mutual

/-- The numbers of the objects that a value holds, itself included. -/
def numbers : Value → List Nat
  | .object n ms => n :: numbersOfMembers ms
  | .list items => numbersOfItems items
  | .pair k v => numbers k ++ numbers v
  | _ => []

/-- The numbers of the objects that some items hold. -/
def numbersOfItems : List Value → List Nat
  | [] => []
  | v :: vs => numbers v ++ numbersOfItems vs

/-- The numbers of the objects that some members hold. -/
def numbersOfMembers : List (Scalar × Value) → List Nat
  | [] => []
  | (_, v) :: ms => numbers v ++ numbersOfMembers ms

end

mutual

/-- There is one number for every object. -/
theorem numbers_length (v : Value) : v.numbers.length = v.countObjects := by
  cases v with
  | object n ms => rw [numbers, countObjects, List.length_cons, numbersOfMembers_length ms]
  | list items => rw [numbers, countObjects, numbersOfItems_length items]
  | pair k w => rw [numbers, countObjects, List.length_append, numbers_length k, numbers_length w]
  | _ => rfl

theorem numbersOfItems_length (vs : List Value) :
    (numbersOfItems vs).length = countObjectsInItems vs := by
  cases vs with
  | nil => rfl
  | cons v vs =>
    rw [numbersOfItems, countObjectsInItems, List.length_append, numbers_length v,
      numbersOfItems_length vs]

theorem numbersOfMembers_length (ms : List (Scalar × Value)) :
    (numbersOfMembers ms).length = countObjectsInMembers ms := by
  cases ms with
  | nil => rfl
  | cons m ms =>
    rw [numbersOfMembers, countObjectsInMembers, List.length_append, numbers_length m.2,
      numbersOfMembers_length ms]

end

theorem mem_numbersOfItems {vs : List Value} {n : Nat} :
    n ∈ numbersOfItems vs ↔ ∃ v ∈ vs, n ∈ v.numbers := by
  induction vs with
  | nil => simp [numbersOfItems]
  | cons v vs ih => rw [numbersOfItems, List.mem_append, ih, List.exists_mem_cons_iff]

theorem mem_numbersOfMembers {ms : Members} {n : Nat} :
    n ∈ numbersOfMembers ms ↔ ∃ m ∈ ms, n ∈ m.2.numbers := by
  induction ms with
  | nil => simp [numbersOfMembers]
  | cons m ms ih => rw [numbersOfMembers, List.mem_append, ih, List.exists_mem_cons_iff]

/-! ## Values within a pool -/

/-- All objects that a value holds have their numbers in the pool. -/
def Within (pool : List Nat) (v : Value) : Prop := ∀ n ∈ v.numbers, n ∈ pool

end Value

/-- All objects that some members hold have their numbers in the pool. -/
def Members.Within (pool : List Nat) (ms : Members) : Prop := ∀ m ∈ ms, m.2.Within pool

section Within

variable {pool : List Nat}

theorem Value.within_scalar (s : Scalar) : (Value.scalar s).Within pool := by
  intro n hn
  simp [Value.numbers] at hn

theorem Value.within_object_iff {n : Nat} {ms : Members} :
    (Value.object n ms).Within pool ↔ n ∈ pool ∧ ms.Within pool := by
  unfold Value.Within Members.Within
  rw [Value.numbers, List.forall_mem_cons]
  refine and_congr_right fun _ => ⟨?_, ?_⟩
  · intro h m hm k hk
    exact h k (Value.mem_numbersOfMembers.2 ⟨m, hm, hk⟩)
  · intro h k hk
    obtain ⟨m, hm, hk⟩ := Value.mem_numbersOfMembers.1 hk
    exact h m hm k hk

theorem Value.within_list_iff {items : List Value} :
    (Value.list items).Within pool ↔ ∀ v ∈ items, v.Within pool := by
  unfold Value.Within
  rw [Value.numbers]
  constructor
  · intro h v hv n hn
    exact h n (Value.mem_numbersOfItems.2 ⟨v, hv, hn⟩)
  · intro h n hn
    obtain ⟨v, hv, hn⟩ := Value.mem_numbersOfItems.1 hn
    exact h v hv n hn

theorem Value.within_pair_iff {k v : Value} :
    (Value.pair k v).Within pool ↔ k.Within pool ∧ v.Within pool := by
  unfold Value.Within
  rw [Value.numbers, List.forall_mem_append]

/-! ### Members -/

theorem Members.within_nil : Members.Within pool [] := by
  intro m hm
  cases hm

theorem Members.within_get? {ms : Members} {key : Scalar} {v : Value} (h : ms.Within pool)
    (hv : ms.get? key = some v) : v.Within pool := by
  obtain ⟨m, hm, rfl⟩ := Option.map_eq_some_iff.1 hv
  exact h m (List.mem_of_find?_eq_some hm)

theorem Members.within_getText? {ms : Members} {key : String} {v : Value} (h : ms.Within pool)
    (hv : ms.getText? key = some v) : v.Within pool := by
  obtain ⟨m, hm, rfl⟩ := Option.map_eq_some_iff.1 hv
  exact h m (List.mem_of_find?_eq_some hm)

theorem Value.within_member? {v w : Value} {key : String} (h : v.Within pool)
    (hw : v.member? key = some w) : w.Within pool := by
  cases v with
  | object n ms => exact Members.within_getText? (within_object_iff.1 h).2 hw
  | _ => cases hw

theorem Value.within_memberOrNull {v : Value} (key : String) (h : v.Within pool) :
    (v.memberOrNull key).Within pool := by
  unfold Value.memberOrNull
  cases hw : v.member? key with
  | none => exact within_scalar _
  | some w => exact within_member? h hw

theorem Members.within_insert {ms : Members} {key : Scalar} {v : Value} (h : ms.Within pool)
    (hv : v.Within pool) : (ms.insert key v).Within pool := by
  induction ms with
  | nil =>
    intro m hm
    rw [Members.insert, List.mem_singleton] at hm
    rw [hm]
    exact hv
  | cons m ms ih =>
    obtain ⟨hm, hms⟩ := List.forall_mem_cons.1 h
    rw [Members.insert]
    by_cases hk : m.1.same key
    · rw [if_pos hk]
      exact List.forall_mem_cons.2 ⟨hv, hms⟩
    · rw [if_neg hk]
      exact List.forall_mem_cons.2 ⟨hm, ih hms⟩

theorem Members.within_update {ms extra : Members} (h : ms.Within pool)
    (he : extra.Within pool) : (ms.update extra).Within pool := by
  unfold Members.update
  induction extra generalizing ms with
  | nil => exact h
  | cons m extra ih =>
    obtain ⟨hm, hrest⟩ := List.forall_mem_cons.1 he
    exact ih (within_insert h hm) hrest

/-! ### Parts -/

/-- A part of a value is an item of a list, one of the two of a pair, or a scalar. -/
theorem Value.parts_cases {v w : Value} {ws : List Value} (hws : v.parts = .ok ws) (hw : w ∈ ws) :
    (∃ s, w = .scalar s) ∨ (∃ items, v = .list items ∧ w ∈ items)
      ∨ ∃ k u, v = .pair k u ∧ (w = k ∨ w = u) := by
  unfold Value.parts at hws
  cases hp : v.parts? with
  | none =>
    rw [hp] at hws
    cases hws
  | some vs =>
    rw [hp] at hws
    cases hws
    rcases parts?_cases hp with rfl | ⟨k, u, rfl, rfl⟩ | ⟨-, -, hscalars⟩
    · exact .inr (.inl ⟨ws, rfl, hw⟩)
    · exact .inr (.inr ⟨k, u, rfl, List.mem_pair.1 hw⟩)
    · exact .inl (hscalars w hw)

theorem Value.within_parts {v : Value} {ws : List Value} (h : v.Within pool)
    (hws : v.parts = .ok ws) : ∀ w ∈ ws, w.Within pool := by
  intro w hw
  rcases parts_cases hws hw with ⟨s, rfl⟩ | ⟨items, rfl, hw⟩ | ⟨k, u, rfl, rfl | rfl⟩
  · exact within_scalar s
  · exact within_list_iff.1 h w hw
  · exact (within_pair_iff.1 h).1
  · exact (within_pair_iff.1 h).2

theorem Value.within_asPair {v : Value} {i : Nat} {m : Scalar × Value} (h : v.Within pool)
    (hm : asPair i v = .ok m) : m.2.Within pool := by
  unfold asPair at hm
  obtain ⟨ws, hws, hm⟩ := bind_eq_ok_iff.1 hm
  rcases ws with _ | ⟨k, _ | ⟨w, _ | ⟨_, _⟩⟩⟩
  · cases hm
  · cases hm
  · obtain ⟨s, -, hm⟩ := bind_eq_ok_iff.1 hm
    rw [pure_eq_ok_iff] at hm
    rw [← hm]
    exact within_parts h hws w (by simp)
  · cases hm

theorem Value.within_asPairs {vs : List Value} {i : Nat} {ms : Members}
    (h : ∀ v ∈ vs, v.Within pool) (hms : asPairs i vs = .ok ms) : ms.Within pool := by
  induction vs generalizing i ms with
  | nil =>
    cases hms
    exact Members.within_nil
  | cons v vs ih =>
    obtain ⟨hv, hvs⟩ := List.forall_mem_cons.1 h
    rw [asPairs] at hms
    obtain ⟨m, hpair, hms⟩ := bind_eq_ok_iff.1 hms
    obtain ⟨rest, hrest, hms⟩ := bind_eq_ok_iff.1 hms
    rw [pure_eq_ok_iff] at hms
    rw [← hms]
    exact List.forall_mem_cons.2 ⟨within_asPair hv hpair, ih hvs hrest⟩

/-- The members that a value is read as hold no objects but those of the value. -/
theorem Value.within_asMembers {v : Value} {ms : Members} (h : v.Within pool)
    (hms : v.asMembers = .ok ms) : ms.Within pool := by
  have hpairs : ∀ {ms}, (do return Members.ofList (← asPairs 0 (← v.parts))) = .ok ms →
      ms.Within pool := by
    intro ms hms
    obtain ⟨ws, hws, hms⟩ := bind_eq_ok_iff.1 hms
    obtain ⟨ps, hps, hms⟩ := bind_eq_ok_iff.1 hms
    rw [pure_eq_ok_iff] at hms
    rw [← hms]
    exact Members.within_update Members.within_nil (within_asPairs (within_parts h hws) hps)
  cases v with
  | object n ms' =>
    cases hms
    exact (within_object_iff.1 h).2
  | _ => exact hpairs hms

theorem Value.within_membersOrNone {v : Option Value} {ms : Members}
    (h : ∀ w, v = some w → w.Within pool) (hms : membersOrNone v = .ok ms) :
    ms.Within pool := by
  unfold Value.membersOrNone at hms
  cases v with
  | none =>
    cases hms
    exact Members.within_nil
  | some w =>
    by_cases hg : w.isGiven
    · simp only [hg, if_true] at hms
      exact within_asMembers (h w rfl) hms
    · simp only [hg, Bool.false_eq_true, if_false] at hms
      cases hms
      exact Members.within_nil

end Within

/-! ## Values up to the numbers of their objects -/

namespace Value

mutual

/-- The value with all its objects numbered alike.  Two values that only differ in the numbers
of their objects are equal as far as their contents go. -/
def unnumbered : Value → Value
  | .object _ ms => .object 0 (unnumberedMembers ms)
  | .list items => .list (unnumberedItems items)
  | .pair k v => .pair (unnumbered k) (unnumbered v)
  | v => v

/-- The items of a list with all objects numbered alike. -/
def unnumberedItems : List Value → List Value
  | [] => []
  | v :: vs => unnumbered v :: unnumberedItems vs

/-- The members of an object with all objects numbered alike. -/
def unnumberedMembers : List (Scalar × Value) → List (Scalar × Value)
  | [] => []
  | (k, v) :: ms => (k, unnumbered v) :: unnumberedMembers ms

end

mutual

/-- New numbers change nothing but numbers. -/
theorem unnumbered_renumber (next : Nat) (v : Value) :
    (v.renumber next).1.unnumbered = v.unnumbered := by
  cases v with
  | object n ms =>
    rw [renumber, unnumbered, unnumbered, unnumberedMembers_renumber (next + 1) ms]
  | list items => rw [renumber, unnumbered, unnumbered, unnumberedItems_renumber next items]
  | pair k w =>
    rw [renumber, unnumbered, unnumbered, unnumbered_renumber next k, unnumbered_renumber _ w]
  | _ => rfl

theorem unnumberedItems_renumber (next : Nat) (vs : List Value) :
    unnumberedItems (renumberItems next vs).1 = unnumberedItems vs := by
  cases vs with
  | nil => rfl
  | cons v vs =>
    rw [renumberItems, unnumberedItems, unnumberedItems, unnumbered_renumber next v,
      unnumberedItems_renumber _ vs]

theorem unnumberedMembers_renumber (next : Nat) (ms : Members) :
    unnumberedMembers (renumberMembers next ms).1 = unnumberedMembers ms := by
  cases ms with
  | nil => rfl
  | cons m ms =>
    rw [renumberMembers, unnumberedMembers, unnumberedMembers, unnumbered_renumber next m.2,
      unnumberedMembers_renumber _ ms]

end

end Value

end OpenApiClient
