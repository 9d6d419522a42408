/-
Where the way to a type ends.

The type of a schema is found by going on to the schemas that its form leads to (`Form.next`), and
nothing in the rule says that this ends.  `typeOf` counts its steps and gives up when there have
been more of them than there are objects.  If it could give up on a way that has an end, the count
would be part of the answer.  It is not: giving up happens exactly where the way goes in circles,
and from this count on the answer does not depend on it (`resolve_ends_iff`).

The size of the schema is no measure for the way.  A step goes to a part of the schema, which is
smaller, or through a reference to a named schema, which can be larger; but the latter only if the
named schema is not declared, being a list of numbers.  So what gets smaller is the number of
objects in the schema together with those in all such lists that can still be met.  A list that
is met again after it has been left is the only obstacle, and then the way has no end, whatever
the count.

The thing to check is that `Circles` says nothing about counts or ledgers.  It is put in terms of
`Met`, which is how the objects of the ledger are described as well.
-/
import OpenApiClient.Proofs.Resolution

set_option autoImplicit false

namespace OpenApiClient

/-! ## Counting objects -/

namespace Value

theorem countObjects_le_of_mem_items {v : Value} {vs : List Value} (h : v ∈ vs) :
    v.countObjects ≤ countObjectsInItems vs := by
  induction vs with
  | nil => cases h
  | cons w vs ih =>
    rw [countObjectsInItems]
    rcases List.mem_cons.1 h with rfl | h
    · omega
    · have := ih h
      omega

theorem countObjects_le_of_mem_members {m : Scalar × Value} {ms : Members} (h : m ∈ ms) :
    m.2.countObjects ≤ countObjectsInMembers ms := by
  induction ms with
  | nil => cases h
  | cons k ms ih =>
    rw [countObjectsInMembers]
    rcases List.mem_cons.1 h with rfl | h
    · omega
    · have := ih h
      omega

theorem countObjectsInItems_append (vs ws : List Value) :
    countObjectsInItems (vs ++ ws) = countObjectsInItems vs + countObjectsInItems ws := by
  rw [← numbersOfItems_length, ← numbersOfItems_length, ← numbersOfItems_length]
  induction vs with
  | nil => simp [numbersOfItems]
  | cons v vs ih =>
    rw [List.cons_append, numbersOfItems, numbersOfItems, List.length_append, ih,
      List.length_append]
    omega

theorem countObjects_pos {v : Value} (h : v.isObject) : 0 < v.countObjects := by
  cases v with
  | object n ms =>
    rw [countObjects]
    omega
  | _ => cases h

/-- A member of an object holds fewer objects than the object. -/
theorem countObjects_memberOrNull_lt {v : Value} (h : v.isObject) (key : String) :
    (v.memberOrNull key).countObjects < v.countObjects := by
  unfold memberOrNull
  cases hw : v.member? key with
  | none => exact countObjects_pos h
  | some w =>
    cases v with
    | object n ms =>
      obtain ⟨m, hm, rfl⟩ := Option.map_eq_some_iff.1 hw
      have := countObjects_le_of_mem_members (List.mem_of_find?_eq_some hm)
      rw [Option.getD_some, countObjects]
      omega
    | _ => cases hw

/-- A part of a value holds no more objects than the value. -/
theorem countObjects_le_of_mem_parts {v w : Value} {ws : List Value} (hws : v.parts = .ok ws)
    (hw : w ∈ ws) : w.countObjects ≤ v.countObjects := by
  rcases parts_cases hws hw with ⟨s, rfl⟩ | ⟨items, rfl, hw⟩ | ⟨k, u, rfl, rfl | rfl⟩
  · exact Nat.zero_le _
  · exact countObjects_le_of_mem_items hw
  · exact Nat.le_add_right _ _
  · exact Nat.le_add_left _ _

end Value

namespace Schema

open Generate (Fault)

theorem countObjects_le_of_onlyPart {v w : Value} (h : onlyPart v = .ok w) :
    w.countObjects ≤ v.countObjects := by
  rcases onlyPart_cases h with ⟨n, ms, rfl, hget⟩ | ⟨ws, hws, hmem⟩
  · obtain ⟨m, hm, rfl⟩ := Option.map_eq_some_iff.1 hget
    have := Value.countObjects_le_of_mem_members (List.mem_of_find?_eq_some hm)
    rw [Value.countObjects]
    omega
  · exact Value.countObjects_le_of_mem_parts hws hmem

section Ways

variable {c : Catalogue} {v w u : Value} {f : Form}

/-- A step goes to something that holds fewer objects, or to a named schema that is not
declared. -/
theorem countObjects_lt_of_form (h : form c v = .ok f) (hw : w ∈ f.next) :
    w.countObjects < v.countObjects ∨ ∃ e ∈ c.schemas, ¬ e.2.isDeclared ∧ w = e.2 := by
  obtain ⟨hobject, htarget | ⟨key, hpart⟩ | ⟨key, rfl⟩⟩ := form_next h hw
  · exact .inr htarget
  · left
    have hmember := Value.countObjects_memberOrNull_lt hobject key
    have := countObjects_le_of_onlyPart hpart
    omega
  · exact .inl (Value.countObjects_memberOrNull_lt hobject key)

/-! ## Ways with an end -/

/-- The way down from a schema has an end: it meets at most `n` schemas. -/
def EndsIn (c : Catalogue) : Nat → Value → Prop
  | 0, _ => False
  | n + 1, v => ∀ f, form c v = .ok f → ∀ w ∈ f.next, EndsIn c n w

theorem endsIn_succ_iff {n : Nat} (hf : form c v = .ok f) :
    EndsIn c (n + 1) v ↔ ∀ w ∈ f.next, EndsIn c n w := by
  simp [EndsIn, hf]

theorem EndsIn.succ {n : Nat} (h : EndsIn c n v) : EndsIn c (n + 1) v := by
  induction n generalizing v with
  | zero => exact h.elim
  | succ n ih =>
    intro f hf w hw
    exact ih (h f hf w hw)

theorem EndsIn.mono {n m : Nat} (h : EndsIn c n v) (hle : n ≤ m) : EndsIn c m v := by
  induction hle with
  | refl => exact h
  | step _ ih => exact ih.succ

/-- A way that has an end has one from wherever it leads to. -/
theorem EndsIn.met {n : Nat} (h : EndsIn c n v) (hmet : Met c v u) : EndsIn c n u := by
  induction hmet generalizing n with
  | here v => exact h
  | next hf hw _ ih =>
    cases n with
    | zero => exact h.elim
    | succ n => exact (ih (h _ hf _ hw)).succ

/-! ## Circles -/

/-- A schema is met on the way down from another one, after one step or more. -/
def MetLater (c : Catalogue) (v u : Value) : Prop :=
  ∃ f w, form c v = .ok f ∧ w ∈ f.next ∧ Met c w u

/-- The way down from a schema goes in circles: it meets a named schema that is not declared,
and from there it meets this one again. -/
def Circles (c : Catalogue) (v : Value) : Prop :=
  ∃ e ∈ c.schemas, ¬ e.2.isDeclared ∧ Met c v e.2 ∧ MetLater c e.2 e.2

theorem Circles.of_next (hf : form c v = .ok f) (hw : w ∈ f.next) (h : Circles c w) :
    Circles c v := by
  obtain ⟨e, he, hdeclared, hmet, hback⟩ := h
  exact ⟨e, he, hdeclared, .next hf hw hmet, hback⟩

/-- What is met later has a shorter way to its end. -/
theorem EndsIn.metLater {n : Nat} (h : EndsIn c (n + 1) v) (hmet : MetLater c v u) :
    EndsIn c n u := by
  obtain ⟨f, w, hf, hw, hmet⟩ := hmet
  exact (h f hf w hw).met hmet

/-- A schema that is met again after it has been left has no end below it: each time around,
the way would be shorter. -/
theorem not_endsIn_of_metLater (hback : MetLater c v v) (n : Nat) : ¬ EndsIn c n v := by
  induction n with
  | zero => exact id
  | succ n ih =>
    intro h
    exact ih (h.metLater hback)

theorem Circles.not_endsIn (h : Circles c v) (n : Nat) : ¬ EndsIn c n v := by
  obtain ⟨e, -, -, hmet, hback⟩ := h
  intro hends
  exact not_endsIn_of_metLater hback n (hends.met hmet)

/-- A way that does not go in circles has an end.  `rest` are the schemas that are not declared
and can still be met after the one at hand; what gets smaller with every step is the number of
objects in them and in the schema at hand. -/
theorem endsIn_of_rest {rest : List (String × Value)}
    (hrest : ∀ e ∈ c.schemas, ¬ e.2.isDeclared → MetLater c v e.2 → e ∈ rest)
    (h : ¬ Circles c v) :
    EndsIn c (Value.countObjectsInItems (rest.map (·.2)) + v.countObjects + 1) v := by
  induction hn : Value.countObjectsInItems (rest.map (·.2)) + v.countObjects
    using Nat.strongRecOn generalizing v rest with
  | _ n ih =>
    intro f hf w hw
    have hcircles : ¬ Circles c w := fun hc => h (hc.of_next hf hw)
    have hlater : ∀ {u}, MetLater c w u → MetLater c v u := by
      rintro u ⟨f', w', hf', hw', hmet⟩
      exact ⟨f, w, hf, hw, .next hf' hw' hmet⟩
    have hpos := Value.countObjects_pos (form_next hf hw).1
    rcases countObjects_lt_of_form hf hw with hlt | ⟨e, he, hdeclared, rfl⟩
    · have hends := ih _ (by omega) (fun e he hd hm => hrest e he hd (hlater hm)) hcircles rfl
      exact hends.mono (by omega)
    · -- the schema that has been reached is met now, and so it is not among the later ones
      obtain ⟨before, after, rfl⟩ :=
        List.append_of_mem (hrest e he hdeclared ⟨f, _, hf, hw, .here _⟩)
      have hsplit : Value.countObjectsInItems ((before ++ e :: after).map (·.2))
          = Value.countObjectsInItems ((before ++ after).map (·.2)) + e.2.countObjects := by
        rw [List.map_append, List.map_cons, List.map_append, Value.countObjectsInItems_append,
          Value.countObjectsInItems_append, Value.countObjectsInItems]
        omega
      have hothers : ∀ e' ∈ c.schemas, ¬ e'.2.isDeclared → MetLater c e.2 e'.2 →
          e' ∈ before ++ after := by
        intro e' he' hd hm
        have hmem := hrest e' he' hd (hlater hm)
        rw [List.mem_append, List.mem_cons] at hmem
        rcases hmem with hmem | rfl | hmem
        · exact List.mem_append_left _ hmem
        · exact absurd ⟨e', he, hdeclared, .here _, hm⟩ hcircles
        · exact List.mem_append_right _ hmem
      have hends := ih _ (by omega) hothers hcircles rfl
      exact hends.mono (by omega)

end Ways

/-! ## Looking for the type -/

section Types

variable {c : Catalogue} {v : Value}

theorem refText_ne_endless (written : Value) : Catalogue.refText written ≠ .error .endless := by
  unfold Catalogue.refText
  split <;> simp

theorem referenceForm_ne_endless (written : Value) : referenceForm c written ≠ .error .endless := by
  intro h
  unfold referenceForm at h
  rcases bind_eq_error_iff.1 h with h | ⟨ref, -, h⟩
  · exact refText_ne_endless written h
  -- reading the reference and naming its target can fail, but neither goes on without end
  by_cases hobject : (c.refSchema ref).isObject
  · simp only [hobject, Bool.not_true, Bool.false_eq_true, if_false] at h
    by_cases hdeclared : (c.refSchema ref).isDeclared
    · simp only [hdeclared, if_true] at h
      rcases bind_eq_error_iff.1 h with h | ⟨name, -, h⟩
      · unfold Catalogue.refName at h
        split at h
        · cases h
        · split at h <;> cases h
      · cases h
    · simp only [hdeclared, Bool.false_eq_true, if_false] at h
      cases h
  · simp only [hobject, Bool.not_false, if_true] at h
    cases h

/-- One look at a schema comes to an end. -/
theorem form_ne_endless : form c v ≠ .error .endless := by
  intro h
  unfold form at h
  split at h
  · split at h
    · exact referenceForm_ne_endless _ h
    · rcases bind_eq_error_iff.1 h with h | ⟨r, -, h⟩
      · obtain ⟨e, -, h⟩ := mapError_eq_error_iff.1 h
        cases h
      · cases r with
        | absent =>
          obtain ⟨e, -, h⟩ := mapError_eq_error_iff.1 h
          cases h
        | single part => cases h
        | several => cases h
  · cases h

/-- With fuel for `n` steps, looking for a type gives up exactly if the way does not end in `n`
steps. -/
theorem typeWith_gives_up_iff (owner : String) (n : Nat) (l : Ledger) :
    (∃ l', Fails (typeWith c owner n v) l .endless l') ↔ ¬ EndsIn c n v := by
  induction n generalizing v l with
  | zero => simp [typeWith, EndsIn]
  | succ n ih =>
    simp only [typeWith, fails_liftFault_bind_iff, form_ne_endless, false_and, false_or]
    cases hf : form c v with
    | error e => simp [EndsIn, hf]
    | ok f =>
      simp only [Except.ok.injEq, exists_eq_left', endsIn_succ_iff hf]
      -- only a form that leads on to a schema can give up, and it does so there
      cases f with
      | builtin b => simp [Form.next]
      | named name => simp [Form.next]
      | own => simp [Form.next, -bind_pure_comp]
      | sameAs w => simpa [Form.next] using ih l
      | collection item => simpa [Form.next, -bind_pure_comp] using ih l
      | dictionary value => simpa [Form.next, -bind_pure_comp] using ih _

/-- More fuel than the way needs changes nothing. -/
theorem run_typeWith_succ {n : Nat} (h : EndsIn c n v) (owner : String) (l : Ledger) :
    (typeWith c owner (n + 1) v).run.run l = (typeWith c owner n v).run.run l := by
  induction n generalizing v l with
  | zero => exact h.elim
  | succ n ih =>
    rw [typeWith, typeWith]
    refine run_bind_congr fun f l' hform => ?_
    obtain ⟨hf, rfl⟩ := returns_liftFault_iff.1 hform
    -- whatever the form leads to ends in one step less
    have hnext := (endsIn_succ_iff hf).1 h
    cases f with
    | builtin b => rfl
    | named name => rfl
    | own => rfl
    | sameAs w => exact ih (hnext w List.mem_cons_self) l'
    | collection item => exact run_bind_congr_left (ih (hnext item List.mem_cons_self) l')
    | dictionary value =>
      refine run_bind_congr fun _ l₁ _ => ?_
      exact run_bind_congr_left (ih (hnext value List.mem_cons_self) l₁)

theorem run_typeWith_of_le {n m : Nat} (h : EndsIn c n v) (hle : n ≤ m) (owner : String)
    (l : Ledger) : (typeWith c owner m v).run.run l = (typeWith c owner n v).run.run l := by
  induction hle with
  | refl => rfl
  | step hle ih => rw [run_typeWith_succ (h.mono hle), ih]

end Types

/-! ## Resolving -/

/-- Resolving a schema ends, whatever has been resolved before, exactly if the way down from it does
not go in circles.  In circles it does not end with any number of steps; and without them the
answer is found in as many steps as there are objects, so that it is the same with any number of
steps from there on. -/
theorem resolve_ends_iff (schemas : List (String × Value)) (v : Value) (owner : String)
    (nullable : Bool) (l : Ledger) :
    let c := Catalogue.ofSchemas schemas
    let steps := Value.countObjectsInItems (schemas.map (·.2)) + v.countObjects + 1
    (((resolve c v owner nullable).run.run l).1 ≠ .error .endless ↔ ¬ Circles c v)
      ∧ (Circles c v → ∀ n, ((typeWith c owner n v).run.run l).1 = .error .endless)
      ∧ (¬ Circles c v → ∀ n, steps ≤ n →
        (typeWith c owner n v).run.run l = (typeOf c owner v).run.run l) := by
  intro c steps
  -- at the start every named schema can still be met
  have hends : ¬ Circles c v → EndsIn c steps v := fun h =>
    endsIn_of_rest (fun e he _ _ => he) h
  have hcircles : Circles c v → ∀ n, ((typeWith c owner n v).run.run l).1 = .error .endless := by
    intro h n
    exact result_eq_error_iff.2 ((typeWith_gives_up_iff owner n l).2 (h.not_endsIn n))
  refine ⟨?_, hcircles, ?_⟩
  · rw [not_iff_not, result_eq_error_iff]
    simp only [fails_resolve_iff, typeOf, typeWith_gives_up_iff]
    constructor
    · intro hnot
      by_contra h
      exact hnot (hends h).succ
    · intro h
      exact h.not_endsIn _
  · intro h n hn
    have hfuel : typeOf c owner v = typeWith c owner (steps + 1) v := rfl
    rw [hfuel, run_typeWith_succ (hends h), run_typeWith_of_le (hends h) hn]

/-- A reference to a list of numbers. -/
def rateReference : Value := .object 1 [(.text "$ref", .text "#/components/schemas/Rate")]

/-- A list of numbers that is composed of a reference to itself. -/
def rate : Value :=
  .object 2 [(.text "type", .text "number"), (.text "enum", .list [.int 1, .int 2]),
    (.text "allOf", .list [rateReference])]

/-- A list of numbers has no type of its own, and so a reference to one that refers to itself is
followed without end. -/
theorem resolve_never_ends :
    let c := Catalogue.ofSchemas [("Rate", rate)]
    ((resolve c rateReference "" false).run.run {}).1 = .error .endless
      ∧ ∀ n, ((typeWith c "" n rateReference).run.run {}).1 = .error .endless := by
  intro c
  have hreference : form c rateReference = .ok (.sameAs rate) := rfl
  have hrate : form c rate = .ok (.sameAs rateReference) := rfl
  have hmet : Met c rateReference rate := .next hreference List.mem_cons_self (.here rate)
  have hcircles : Circles c rateReference :=
    ⟨("Rate", rate), List.mem_cons_self, by decide, hmet, _, _, hrate, List.mem_cons_self, hmet⟩
  have hgivesUp : ∀ n, ∃ l', Fails (typeWith c "" n rateReference) {} .endless l' := fun n =>
    (typeWith_gives_up_iff "" n {}).2 (hcircles.not_endsIn n)
  constructor
  · obtain ⟨l', h⟩ := hgivesUp _
    exact result_eq_error_iff.2 ⟨l', fails_resolve_iff.2 h⟩
  · intro n
    exact result_eq_error_iff.2 (hgivesUp n)

end Schema

end OpenApiClient
