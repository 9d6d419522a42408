/-
Computations with a state that can fail, run side by side.

`Runs m s a t` says that `m`, begun in the state `s`, gives `a` and leaves the state `t`.

`Matches S R m m'` compares two computations: whenever the first one succeeds, the second one
succeeds from every state that is related by `S`, and both what they give and what they leave
is related again.  It is the shape of every argument about one document that is read in two
forms, and it is closed under putting computations together.
-/

set_option autoImplicit false

namespace OpenApiClient

variable {σ σ' ε ε' α α' β β' : Type}

/-- The computation `m`, begun in the state `s`, gives `a` and leaves the state `t`. -/
def Runs (m : StateT σ (Except ε) α) (s : σ) (a : α) (t : σ) : Prop := m.run s = .ok (a, t)

theorem runs_pure_iff {a b : α} {s t : σ} :
    Runs (pure a : StateT σ (Except ε) α) s b t ↔ b = a ∧ t = s := by
  constructor
  · intro h
    cases h
    exact ⟨rfl, rfl⟩
  · rintro ⟨rfl, rfl⟩
    rfl

theorem runs_bind_iff {m : StateT σ (Except ε) α} {f : α → StateT σ (Except ε) β} {s t : σ}
    {b : β} : Runs (m >>= f) s b t ↔ ∃ a u, Runs m s a u ∧ Runs (f a) u b t := by
  unfold Runs
  rw [StateT.run_bind]
  cases hm : m.run s with
  | error e =>
    constructor
    · intro h
      cases h
    · rintro ⟨a, u, h, -⟩
      cases h
  | ok p =>
    constructor
    · intro h
      exact ⟨p.1, p.2, rfl, h⟩
    · rintro ⟨a, u, h, hf⟩
      cases h
      exact hf

theorem runs_throw_iff {e : ε} {a : α} {s t : σ} :
    Runs (throw e : StateT σ (Except ε) α) s a t ↔ False := by
  constructor
  · intro h
    cases h
  · intro h
    exact h.elim

theorem runs_get_iff {s t a : σ} :
    Runs (get : StateT σ (Except ε) σ) s a t ↔ a = s ∧ t = s := by
  constructor
  · intro h
    cases h
    exact ⟨rfl, rfl⟩
  · rintro ⟨rfl, rfl⟩
    rfl

theorem runs_set_iff {s t u : σ} {a : PUnit} :
    Runs (set u : StateT σ (Except ε) PUnit) s a t ↔ t = u := by
  constructor
  · intro h
    cases h
    rfl
  · rintro rfl
    rfl

theorem runs_lift_iff {r : Except ε α} {s t : σ} {a : α} :
    Runs (StateT.lift r) s a t ↔ r = .ok a ∧ t = s := by
  cases r with
  | error e =>
    constructor
    · intro h
      cases h
    · rintro ⟨h, -⟩
      cases h
  | ok b =>
    constructor
    · intro h
      cases h
      exact ⟨rfl, rfl⟩
    · rintro ⟨h, rfl⟩
      cases h
      rfl

/-- A computation gives one result. -/
theorem Runs.unique {m : StateT σ (Except ε) α} {s t u : σ} {a b : α} (ha : Runs m s a t)
    (hb : Runs m s b u) : a = b ∧ t = u := by
  unfold Runs at ha hb
  rw [ha] at hb
  cases hb
  exact ⟨rfl, rfl⟩

/-! ## Computations side by side -/

/-- Whenever the first computation succeeds, the second one does so with a related result in a
related state. -/
def Matches (S : σ → σ' → Prop) (R : α → α' → Prop) (m : StateT σ (Except ε) α)
    (m' : StateT σ' (Except ε') α') : Prop :=
  ∀ s s' a t, S s s' → Runs m s a t → ∃ a' t', Runs m' s' a' t' ∧ S t t' ∧ R a a'

section Matches

variable {S : σ → σ' → Prop} {R : α → α' → Prop} {Q : β → β' → Prop}

theorem Matches.pure {a : α} {a' : α'} (h : R a a') :
    Matches S R (Pure.pure a : StateT σ (Except ε) α)
      (Pure.pure a' : StateT σ' (Except ε') α') := by
  intro s s' b t hs hrun
  obtain ⟨rfl, rfl⟩ := runs_pure_iff.1 hrun
  exact ⟨a', s', runs_pure_iff.2 ⟨rfl, rfl⟩, hs, h⟩

theorem Matches.throw (e : ε) (m' : StateT σ' (Except ε') α') :
    Matches S R (throw e : StateT σ (Except ε) α) m' := by
  intro s s' a t _ hrun
  exact (runs_throw_iff.1 hrun).elim

theorem Matches.bind {m : StateT σ (Except ε) α} {m' : StateT σ' (Except ε') α'}
    {f : α → StateT σ (Except ε) β} {f' : α' → StateT σ' (Except ε') β'}
    (hm : Matches S R m m') (hf : ∀ a a', R a a' → Matches S Q (f a) (f' a')) :
    Matches S Q (m >>= f) (m' >>= f') := by
  intro s s' b t hs hrun
  obtain ⟨a, u, ha, hb⟩ := runs_bind_iff.1 hrun
  obtain ⟨a', u', ha', hu, hR⟩ := hm s s' a u hs ha
  obtain ⟨b', t', hb', ht, hQ⟩ := hf a a' hR u u' b t hu hb
  exact ⟨b', t', runs_bind_iff.2 ⟨a', u', ha', hb'⟩, ht, hQ⟩

end Matches

end OpenApiClient
