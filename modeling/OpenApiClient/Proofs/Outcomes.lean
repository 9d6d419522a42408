/-
Taking an outcome apart.

Most functions that read or check something give an `Except` or a `Checked`, and most facts
about them begin with a run that succeeded.  The equivalences below say what such a run was made
of: a chain of two steps succeeds when the first one does and the second one does with its
result, and two checks together are in order when both are.  A chain that fails does so at one
of its steps.  A key that is looked up in a table with success stands in it.
-/
import OpenApiClient.Validation.Checked

set_option autoImplicit false

namespace OpenApiClient

variable {ε ε' α β : Type}

theorem exists_ok {x : Except ε α} (h : x.isOk) : ∃ a, x = .ok a := by
  cases x with
  | error e => cases h
  | ok a => exact ⟨a, rfl⟩

/-- A chain of two steps succeeds when both do. -/
theorem bind_eq_ok_iff {x : Except ε α} {f : α → Except ε β} {b : β} :
    x >>= f = .ok b ↔ ∃ a, x = .ok a ∧ f a = .ok b := by
  cases x with
  | error e =>
    constructor
    · intro h
      cases h
    · rintro ⟨a, h, -⟩
      cases h
  | ok a =>
    constructor
    · intro h
      exact ⟨a, rfl, h⟩
    · rintro ⟨a', h, hf⟩
      cases h
      exact hf

theorem pure_eq_ok_iff {a b : α} : (pure a : Except ε α) = .ok b ↔ a = b :=
  ⟨fun h => by cases h; rfl, fun h => by rw [h]; rfl⟩

theorem map_eq_ok_iff {x : Except ε α} {f : α → β} {b : β} :
    x.map f = .ok b ↔ ∃ a, x = .ok a ∧ f a = b := by
  cases x with
  | error e => simp [Except.map]
  | ok a => simp [Except.map]

/-- Naming the fault differently does not change what succeeds. -/
theorem mapError_eq_ok_iff {x : Except ε α} {f : ε → ε'} {a : α} :
    x.mapError f = .ok a ↔ x = .ok a := by
  cases x with
  | error e =>
    constructor
    · intro h
      cases h
    · intro h
      cases h
  | ok b =>
    constructor
    · intro h
      cases h
      rfl
    · intro h
      cases h
      rfl

/-- A chain of two steps fails when the first one does, or the second one with its result. -/
theorem bind_eq_error_iff {x : Except ε α} {f : α → Except ε β} {e : ε} :
    x >>= f = .error e ↔ x = .error e ∨ ∃ a, x = .ok a ∧ f a = .error e := by
  cases x with
  | error e' =>
    constructor
    · intro h
      cases h
      exact .inl rfl
    · rintro (h | ⟨a, h, -⟩)
      · cases h
        rfl
      · cases h
  | ok a =>
    constructor
    · intro h
      exact .inr ⟨a, rfl, h⟩
    · rintro (h | ⟨a', h, hf⟩)
      · cases h
      · cases h
        exact hf

theorem map_eq_error_iff {x : Except ε α} {f : α → β} {e : ε} :
    x.map f = .error e ↔ x = .error e := by
  cases x with
  | error e' => simp [Except.map]
  | ok a => simp [Except.map]

/-- What fails has a fault that is named differently. -/
theorem mapError_eq_error_iff {x : Except ε α} {f : ε → ε'} {e : ε'} :
    x.mapError f = .error e ↔ ∃ e', x = .error e' ∧ f e' = e := by
  cases x with
  | error e' =>
    constructor
    · intro h
      cases h
      exact ⟨e', rfl, rfl⟩
    · rintro ⟨_, h, rfl⟩
      cases h
      rfl
  | ok a =>
    constructor
    · intro h
      cases h
    · rintro ⟨_, h, -⟩
      cases h

/-- A run over a list fails at the first of its members for which a step fails. -/
theorem mapM_eq_error_iff {f : α → Except ε β} {xs : List α} {e : ε} :
    xs.mapM f = .error e ↔
      ∃ (i : Nat) (a : α), xs[i]? = some a ∧ f a = .error e
        ∧ ∀ j < i, ∃ a' b, xs[j]? = some a' ∧ f a' = .ok b := by
  induction xs with
  | nil => simp [pure, Except.pure]
  | cons a xs ih =>
    rw [List.mapM_cons, bind_eq_error_iff]
    constructor
    · rintro (ha | ⟨b, hb, hrest⟩)
      · exact ⟨0, a, rfl, ha, fun j hj => by omega⟩
      · rcases bind_eq_error_iff.1 hrest with hxs | ⟨bs, -, hpure⟩
        · obtain ⟨i, a', ha', hfails, hbefore⟩ := ih.1 hxs
          refine ⟨i + 1, a', ha', hfails, ?_⟩
          intro j hj
          cases j with
          | zero => exact ⟨a, b, rfl, hb⟩
          | succ j => exact hbefore j (by omega)
        · cases hpure
    · rintro ⟨i, a', ha', hfails, hbefore⟩
      cases i with
      | zero =>
        cases ha'
        exact .inl hfails
      | succ i =>
        obtain ⟨_, b, hfirst, hb⟩ := hbefore 0 (by omega)
        cases hfirst
        refine .inr ⟨b, hb, bind_eq_error_iff.2 (.inl (ih.2 ⟨i, a', ha', hfails, ?_⟩))⟩
        intro j hj
        exact hbefore (j + 1) (by omega)

/-! ## Checks -/

namespace Validation.Checked

theorem within_eq_ok_iff {step : Step} {c : Checked α} {a : α} :
    within step c = .ok a ↔ c = .ok a := by
  cases c <;> simp [within]

/-- Two checks together are in order when both are. -/
theorem seq_eq_ok_iff {f : Checked (α → β)} {c : Checked α} {b : β} :
    f <*> c = .ok b ↔ ∃ g a, f = .ok g ∧ c = .ok a ∧ g a = b := by
  change seq f c = .ok b ↔ _
  cases f <;> cases c <;> simp [seq]

theorem map_eq_ok_iff {g : α → β} {c : Checked α} {b : β} :
    g <$> c = .ok b ↔ ∃ a, c = .ok a ∧ g a = b := by
  change seq (.ok g) c = .ok b ↔ _
  cases c <;> simp [seq]

end Validation.Checked

/-! ## Tables -/

/-- A key that is found in a table stands there with its value. -/
theorem mem_of_lookup {κ ν : Type} [BEq κ] [LawfulBEq κ] {table : List (κ × ν)} {k : κ} {v : ν}
    (h : table.lookup k = some v) : (k, v) ∈ table := by
  obtain ⟨before, after, hsplit, -⟩ := List.lookup_eq_some_iff.1 h
  rw [hsplit]
  exact List.mem_append_right _ List.mem_cons_self

end OpenApiClient
