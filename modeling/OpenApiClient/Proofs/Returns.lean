/-
What a computation that writes into the ledger returns.

`Returns m l a l'` says that `m`, begun with the ledger `l`, gives `a` and leaves the ledger
`l'`, and `Fails m l e l'` that it fails with `e` there.  A statement about a run is taken apart
with the equivalences below, one for each way in which computations are put together, so that
no proof has to open the monads that `Build` is made of.
-/
import OpenApiClient.Proofs.Outcomes
import OpenApiClient.Schema.Resolve

set_option autoImplicit false

namespace OpenApiClient.Schema

open Generate (Fault)
open CSharp (TypeRef TypeUse)

variable {α β : Type}

/-- The computation `m`, begun with the ledger `l`, gives `a` and leaves the ledger `l'`. -/
def Returns (m : Build α) (l : Ledger) (a : α) (l' : Ledger) : Prop :=
  m.run.run l = (.ok a, l')

/-! ## The ways in which computations are put together -/

@[simp] theorem returns_pure_iff {a b : α} {l l' : Ledger} :
    Returns (pure a) l b l' ↔ b = a ∧ l' = l := by
  constructor
  · intro h
    cases h
    exact ⟨rfl, rfl⟩
  · rintro ⟨rfl, rfl⟩
    rfl

@[simp] theorem returns_bind_iff {m : Build α} {f : α → Build β} {l l' : Ledger} {b : β} :
    Returns (m >>= f) l b l' ↔ ∃ a l₁, Returns m l a l₁ ∧ Returns (f a) l₁ b l' := by
  unfold Returns
  rw [ExceptT.run_bind, StateT.run_bind]
  cases hm : m.run.run l with
  | mk r l₁ =>
    cases r with
    | error e =>
      constructor
      · intro h
        cases h
      · rintro ⟨a, l₂, h, -⟩
        cases h
    | ok a =>
      constructor
      · intro h
        exact ⟨a, l₁, rfl, h⟩
      · rintro ⟨a', l₂, h, hf⟩
        cases h
        exact hf

@[simp] theorem returns_throw_iff {e : Fault} {l l' : Ledger} {a : α} :
    Returns (throw e) l a l' ↔ False := by
  constructor
  · intro h
    cases h
  · intro h
    exact h.elim

@[simp] theorem returns_get_iff {l l' a : Ledger} : Returns get l a l' ↔ a = l ∧ l' = l := by
  constructor
  · intro h
    cases h
    exact ⟨rfl, rfl⟩
  · rintro ⟨rfl, rfl⟩
    rfl

@[simp] theorem returns_set_iff {l l' k : Ledger} {u : PUnit} :
    Returns (set k) l u l' ↔ l' = k := by
  constructor
  · intro h
    cases h
    rfl
  · rintro rfl
    rfl

@[simp] theorem returns_modify_iff {f : Ledger → Ledger} {l l' : Ledger} {u : PUnit} :
    Returns (modify f) l u l' ↔ l' = f l := by
  constructor
  · intro h
    cases h
    rfl
  · rintro rfl
    rfl

@[simp] theorem returns_liftFault_iff {r : Except Fault α} {l l' : Ledger} {a : α} :
    Returns (liftFault r) l a l' ↔ r = .ok a ∧ l' = l := by
  cases r with
  | error e => simp [liftFault]
  | ok b =>
    simp only [liftFault, returns_pure_iff, Except.ok.injEq]
    exact ⟨fun ⟨h, hl⟩ => ⟨h.symm, hl⟩, fun ⟨h, hl⟩ => ⟨h.symm, hl⟩⟩

@[simp] theorem returns_liftShape_iff {r : Except ShapeFault α} {l l' : Ledger} {a : α} :
    Returns (liftShape r) l a l' ↔ r = .ok a ∧ l' = l := by
  cases r with
  | error e => simp [liftShape]
  | ok b =>
    simp only [liftShape, returns_pure_iff, Except.ok.injEq]
    exact ⟨fun ⟨h, hl⟩ => ⟨h.symm, hl⟩, fun ⟨h, hl⟩ => ⟨h.symm, hl⟩⟩

/-! ### Lifted results at the beginning -/

theorem returns_liftFault_bind_iff {r : Except Fault α} {f : α → Build β} {l l' : Ledger}
    {b : β} : Returns (liftFault r >>= f) l b l' ↔ ∃ a, r = .ok a ∧ Returns (f a) l b l' := by
  rw [returns_bind_iff]
  constructor
  · rintro ⟨a, l₁, ha, hf⟩
    obtain ⟨hr, rfl⟩ := returns_liftFault_iff.1 ha
    exact ⟨a, hr, hf⟩
  · rintro ⟨a, hr, hf⟩
    exact ⟨a, l, returns_liftFault_iff.2 ⟨hr, rfl⟩, hf⟩

theorem returns_liftShape_bind_iff {r : Except ShapeFault α} {f : α → Build β} {l l' : Ledger}
    {b : β} : Returns (liftShape r >>= f) l b l' ↔ ∃ a, r = .ok a ∧ Returns (f a) l b l' := by
  rw [returns_bind_iff]
  constructor
  · rintro ⟨a, l₁, ha, hf⟩
    obtain ⟨hr, rfl⟩ := returns_liftShape_iff.1 ha
    exact ⟨a, hr, hf⟩
  · rintro ⟨a, hr, hf⟩
    exact ⟨a, l, returns_liftShape_iff.2 ⟨hr, rfl⟩, hf⟩

/-- Two ways to go on give the same if they do so after whatever the first step returns. -/
theorem run_bind_congr {m : Build α} {f g : α → Build β} {l : Ledger}
    (h : ∀ a l', Returns m l a l' → (f a).run.run l' = (g a).run.run l') :
    (m >>= f).run.run l = (m >>= g).run.run l := by
  rw [ExceptT.run_bind, ExceptT.run_bind, StateT.run_bind, StateT.run_bind]
  cases hm : m.run.run l with
  | mk r l' =>
    cases r with
    | error e => rfl
    | ok a => exact h a l' hm

/-- Two first steps that do the same give the same, however it goes on. -/
theorem run_bind_congr_left {m n : Build α} {f : α → Build β} {l : Ledger}
    (h : m.run.run l = n.run.run l) : (m >>= f).run.run l = (n >>= f).run.run l := by
  rw [ExceptT.run_bind, ExceptT.run_bind, StateT.run_bind, StateT.run_bind, h]

/-- What follows a step that returns goes on from there. -/
theorem Returns.run_bind {m : Build α} {f : α → Build β} {l l₁ : Ledger} {a : α}
    (h : Returns m l a l₁) : (m >>= f).run.run l = (f a).run.run l₁ := by
  unfold Returns at h
  rw [ExceptT.run_bind, StateT.run_bind, h]
  rfl

/-- What follows a step that fails is not begun. -/
theorem run_bind_of_error {m : Build α} {f : α → Build β} {l l₁ : Ledger} {e : Fault}
    (h : m.run.run l = (.error e, l₁)) : (m >>= f).run.run l = (.error e, l₁) := by
  rw [ExceptT.run_bind, StateT.run_bind, h]
  rfl

/-- What only changes the result of a step leaves its fault and its ledger. -/
theorem run_bind_pure {m : Build α} {g : α → β} {l l' : Ledger} {r : Except Fault α}
    (h : m.run.run l = (r, l')) : (m >>= fun a => pure (g a)).run.run l = (r.map g, l') := by
  rw [ExceptT.run_bind, StateT.run_bind, h]
  cases r <;> rfl

/-- Looking at the ledger goes on with it. -/
theorem run_get_bind {f : Ledger → Build β} {l : Ledger} :
    (get >>= f).run.run l = (f l).run.run l := rfl

/-- A computation gives one result. -/
theorem Returns.unique {m : Build α} {l l₁ l₂ : Ledger} {a b : α} (ha : Returns m l a l₁)
    (hb : Returns m l b l₂) : a = b ∧ l₁ = l₂ := by
  unfold Returns at ha hb
  rw [ha] at hb
  cases hb
  exact ⟨rfl, rfl⟩

/-- What a computation gives is what it returns with some ledger. -/
theorem result_eq_ok_iff {m : Build α} {l : Ledger} {a : α} :
    (m.run.run l).1 = .ok a ↔ ∃ l', Returns m l a l' := by
  unfold Returns
  constructor
  · intro h
    exact ⟨(m.run.run l).2, Prod.ext h rfl⟩
  · rintro ⟨l', h⟩
    rw [h]

/-- A computation that succeeds returns something. -/
theorem exists_returns {m : Build α} {l : Ledger} (h : (m.run.run l).1.isOk) :
    ∃ a l', Returns m l a l' := by
  obtain ⟨a, ha⟩ := exists_ok h
  obtain ⟨l', hreturns⟩ := result_eq_ok_iff.1 ha
  exact ⟨a, l', hreturns⟩

/-- A computation of which something is known when it succeeds, and which does, returns what that
is known of. -/
theorem exists_returns_of_map {m : Build α} {l : Ledger} {f : α → β} {b : β}
    (h : (m.run.run l).1.toOption.map f = some b) : ∃ a l', Returns m l a l' ∧ f a = b := by
  obtain ⟨a, ha, hb⟩ := Option.map_eq_some_iff.1 h
  cases hm : (m.run.run l).1 with
  | error e =>
    rw [hm] at ha
    cases ha
  | ok a' =>
    rw [hm] at ha
    cases ha
    obtain ⟨l', hreturns⟩ := result_eq_ok_iff.1 hm
    exact ⟨a, l', hreturns, hb⟩

/-! ## Failing -/

/-- The computation `m`, begun with the ledger `l`, fails with `e` and leaves the ledger `l'`. -/
def Fails (m : Build α) (l : Ledger) (e : Fault) (l' : Ledger) : Prop :=
  m.run.run l = (.error e, l')

/-- A computation returns something or fails with something. -/
theorem returns_or_fails (m : Build α) (l : Ledger) :
    (∃ a l', Returns m l a l') ∨ ∃ e l', Fails m l e l' := by
  unfold Returns Fails
  cases hm : m.run.run l with
  | mk r l' =>
    cases r with
    | error e => exact .inr ⟨e, l', rfl⟩
    | ok a => exact .inl ⟨a, l', rfl⟩

theorem result_eq_error_iff {m : Build α} {l : Ledger} {e : Fault} :
    (m.run.run l).1 = .error e ↔ ∃ l', Fails m l e l' := by
  unfold Fails
  constructor
  · intro h
    exact ⟨(m.run.run l).2, Prod.ext h rfl⟩
  · rintro ⟨l', h⟩
    rw [h]

@[simp] theorem fails_pure_iff {a : α} {l l' : Ledger} {e : Fault} :
    Fails (pure a) l e l' ↔ False := by
  constructor
  · intro h
    cases h
  · intro h
    exact h.elim

@[simp] theorem fails_throw_iff {e e' : Fault} {l l' : Ledger} :
    Fails (throw e : Build α) l e' l' ↔ e' = e ∧ l' = l := by
  constructor
  · intro h
    cases h
    exact ⟨rfl, rfl⟩
  · rintro ⟨rfl, rfl⟩
    rfl

/-- A chain of two steps fails at the first one, or at the second one after the first. -/
@[simp] theorem fails_bind_iff {m : Build α} {f : α → Build β} {l l' : Ledger} {e : Fault} :
    Fails (m >>= f) l e l' ↔ Fails m l e l' ∨ ∃ a l₁, Returns m l a l₁ ∧ Fails (f a) l₁ e l' := by
  unfold Fails Returns
  rw [ExceptT.run_bind, StateT.run_bind]
  cases hm : m.run.run l with
  | mk r l₁ =>
    cases r with
    | error e' =>
      constructor
      · intro h
        cases h
        exact .inl rfl
      · rintro (h | ⟨a, l₂, h, -⟩)
        · cases h
          rfl
        · cases h
    | ok a =>
      constructor
      · intro h
        exact .inr ⟨a, l₁, rfl, h⟩
      · rintro (h | ⟨a', l₂, h, hf⟩)
        · cases h
        · cases h
          exact hf

@[simp] theorem fails_get_iff {l l' : Ledger} {e : Fault} :
    Fails (get : Build Ledger) l e l' ↔ False := by
  constructor
  · intro h
    cases h
  · intro h
    exact h.elim

@[simp] theorem fails_set_iff {l l' k : Ledger} {e : Fault} :
    Fails (set k : Build PUnit) l e l' ↔ False := by
  constructor
  · intro h
    cases h
  · intro h
    exact h.elim

@[simp] theorem fails_modify_iff {f : Ledger → Ledger} {l l' : Ledger} {e : Fault} :
    Fails (modify f : Build PUnit) l e l' ↔ False := by
  constructor
  · intro h
    cases h
  · intro h
    exact h.elim

@[simp] theorem fails_liftFault_iff {r : Except Fault α} {l l' : Ledger} {e : Fault} :
    Fails (liftFault r) l e l' ↔ r = .error e ∧ l' = l := by
  cases r with
  | error e' =>
    simp only [liftFault, fails_throw_iff, Except.error.injEq]
    exact ⟨fun ⟨h, hl⟩ => ⟨h.symm, hl⟩, fun ⟨h, hl⟩ => ⟨h.symm, hl⟩⟩
  | ok a => simp [liftFault]

@[simp] theorem fails_liftShape_iff {r : Except ShapeFault α} {l l' : Ledger} {e : Fault} :
    Fails (liftShape r) l e l' ↔ (∃ f, r = .error f ∧ e = .shape f) ∧ l' = l := by
  cases r with
  | error f =>
    simp only [liftShape, fails_throw_iff, Except.error.injEq]
    constructor
    · rintro ⟨h, hl⟩
      exact ⟨⟨f, rfl, h⟩, hl⟩
    · rintro ⟨⟨_, rfl, h⟩, hl⟩
      exact ⟨h, hl⟩
  | ok a => simp [liftShape]

theorem fails_liftFault_bind_iff {r : Except Fault α} {f : α → Build β} {l l' : Ledger}
    {e : Fault} : Fails (liftFault r >>= f) l e l' ↔
      (r = .error e ∧ l' = l) ∨ ∃ a, r = .ok a ∧ Fails (f a) l e l' := by
  rw [fails_bind_iff, fails_liftFault_iff]
  refine or_congr Iff.rfl ⟨?_, ?_⟩
  · rintro ⟨a, l₁, ha, hf⟩
    obtain ⟨hr, rfl⟩ := returns_liftFault_iff.1 ha
    exact ⟨a, hr, hf⟩
  · rintro ⟨a, hr, hf⟩
    exact ⟨a, l, returns_liftFault_iff.2 ⟨hr, rfl⟩, hf⟩

/-! ## Writing into the ledger -/

@[simp] theorem returns_useNamespace_iff {name s : String} {l l' : Ledger} :
    Returns (useNamespace name) l s l' ↔ s = name ∧ l' = l.use name := by
  unfold useNamespace
  simp only [returns_bind_iff, returns_modify_iff, returns_pure_iff]
  constructor
  · rintro ⟨_, l₁, rfl, rfl, rfl⟩
    exact ⟨rfl, rfl⟩
  · rintro ⟨rfl, rfl⟩
    exact ⟨⟨⟩, _, rfl, rfl, rfl⟩

@[simp] theorem fails_useNamespace_iff {name : String} {l l' : Ledger} {e : Fault} :
    Fails (useNamespace name) l e l' ↔ False := by
  unfold useNamespace
  simp only [fails_bind_iff, fails_modify_iff, fails_pure_iff, and_false, exists_false, or_false]

theorem returns_useNamespace_bind_iff {name : String} {f : String → Build β} {l l' : Ledger}
    {b : β} : Returns (useNamespace name >>= f) l b l' ↔ Returns (f name) (l.use name) b l' := by
  rw [returns_bind_iff]
  constructor
  · rintro ⟨s, l₁, hs, hf⟩
    obtain ⟨rfl, rfl⟩ := returns_useNamespace_iff.1 hs
    exact hf
  · intro hf
    exact ⟨name, l.use name, returns_useNamespace_iff.2 ⟨rfl, rfl⟩, hf⟩

/-- A type of its own is the one that the object has got already, and otherwise one under a
new name, which is entered. -/
theorem returns_inlineName_iff {c : Catalogue} {owner name : String} {v : Value}
    {l l' : Ledger} :
    Returns (inlineName c owner v) l name l' ↔
      (l.nameOf? v = some name ∧ l' = l)
        ∨ (l.nameOf? v = none
          ∧ name = Naming.fresh (c.typeNames.map (·.2) ++ l.inlined.map (·.1)) (wantedName owner)
          ∧ l' = { l with inlined := l.inlined ++ [(name, v)] }) := by
  unfold inlineName
  simp only [returns_bind_iff, returns_get_iff]
  constructor
  · rintro ⟨k, k', ⟨hk, hk'⟩, h⟩
    rw [hk, hk'] at h
    -- an object that is known already keeps its name
    cases hn : l.nameOf? v with
    | some n =>
      simp only [hn, returns_pure_iff] at h
      obtain ⟨rfl, rfl⟩ := h
      exact .inl ⟨rfl, rfl⟩
    | none =>
      simp only [hn, returns_bind_iff, returns_set_iff, returns_pure_iff] at h
      obtain ⟨_, l₁, rfl, rfl, rfl⟩ := h
      exact .inr ⟨rfl, rfl, rfl⟩
  · intro h
    refine ⟨l, l, ⟨rfl, rfl⟩, ?_⟩
    rcases h with ⟨hn, rfl⟩ | ⟨hn, rfl, rfl⟩
    · simp only [hn, returns_pure_iff, and_self]
    · simp only [hn, returns_bind_iff, returns_set_iff, returns_pure_iff, true_and]
      exact ⟨⟨⟩, _, rfl, rfl⟩

@[simp] theorem fails_inlineName_iff {c : Catalogue} {owner : String} {v : Value} {l l' : Ledger}
    {e : Fault} : Fails (inlineName c owner v) l e l' ↔ False := by
  unfold inlineName
  simp only [fails_bind_iff, fails_get_iff, returns_get_iff, false_or, iff_false]
  rintro ⟨k, k', ⟨hk, hk'⟩, h⟩
  -- neither the name that is known nor the one that is entered can fail
  cases hn : k.nameOf? v with
  | some n => simp only [hn, fails_pure_iff] at h
  | none =>
    simp only [hn, fails_bind_iff, fails_set_iff, fails_pure_iff, and_false, exists_false,
      or_false] at h

/-! ## Asking for a type -/

/-- A built-in type leaves the ledger as it is or notes a namespace. -/
theorem returns_useBuiltin_iff {b : CSharp.Builtin} {t : TypeRef} {l l' : Ledger} :
    Returns (useBuiltin b) l t l' ↔
      t = .builtin b
        ∧ l' = if [CSharp.Builtin.dateTimeOffset, .timeSpan, .guid].contains b
            then l.use b.render else l := by
  unfold useBuiltin
  by_cases hb : [CSharp.Builtin.dateTimeOffset, .timeSpan, .guid].contains b
  · simp only [hb, if_true, returns_bind_iff, returns_useNamespace_iff, returns_pure_iff]
    constructor
    · rintro ⟨_, _, ⟨-, rfl⟩, rfl, rfl⟩
      exact ⟨rfl, rfl⟩
    · rintro ⟨rfl, rfl⟩
      exact ⟨_, _, ⟨rfl, rfl⟩, rfl, rfl⟩
  · rw [if_neg hb, if_neg hb, returns_pure_iff]

@[simp] theorem fails_useBuiltin_iff {b : CSharp.Builtin} {l l' : Ledger} {e : Fault} :
    Fails (useBuiltin b) l e l' ↔ False := by
  unfold useBuiltin
  by_cases hb : [CSharp.Builtin.dateTimeOffset, .timeSpan, .guid].contains b
  · simp only [hb, if_true, fails_bind_iff, fails_useNamespace_iff, fails_pure_iff, and_false,
      exists_false, or_false]
  · rw [if_neg hb, fails_pure_iff]

/-- How a type comes about, one way for each form of a schema: the type that is returned, and the
ledger that is left. -/
inductive TypeStep (c : Catalogue) (owner : String) (fuel : Nat) (v : Value) (l : Ledger) :
    Form → TypeRef → Ledger → Prop where
  | builtin {b : CSharp.Builtin} :
      TypeStep c owner fuel v l (.builtin b) (.builtin b)
        (if [CSharp.Builtin.dateTimeOffset, .timeSpan, .guid].contains b
          then l.use b.render else l)
  | named {name : String} : TypeStep c owner fuel v l (.named name) (.named name) l
  | sameAs {w : Value} {t : TypeRef} {l' : Ledger} (h : Returns (typeWith c owner fuel w) l t l') :
      TypeStep c owner fuel v l (.sameAs w) t l'
  | own {name : String} {l' : Ledger} (h : Returns (inlineName c owner v) l name l') :
      TypeStep c owner fuel v l .own (.named name) l'
  | collection {item : Value} {t : TypeRef} {l' : Ledger}
      (h : Returns (typeWith c owner fuel item) l t l') :
      TypeStep c owner fuel v l (.collection item) (.collection t)
        (l'.use CSharp.collectionInterface)
  | dictionary {value : Value} {t : TypeRef} {l' : Ledger}
      (h : Returns (typeWith c owner fuel value) (l.use CSharp.dictionaryInterface) t l') :
      TypeStep c owner fuel v l (.dictionary value) (.dictionary t) l'

/-- One step on the way down from a schema. -/
theorem returns_typeWith_succ_iff {c : Catalogue} {owner : String} {fuel : Nat} {v : Value}
    {t : TypeRef} {l l' : Ledger} :
    Returns (typeWith c owner (fuel + 1) v) l t l' ↔
      ∃ f, form c v = .ok f ∧ TypeStep c owner fuel v l f t l' := by
  rw [typeWith, returns_liftFault_bind_iff]
  refine exists_congr fun f => and_congr_right fun _ => ?_
  constructor
  · intro h
    cases f with
    | builtin b =>
      obtain ⟨rfl, rfl⟩ := returns_useBuiltin_iff.1 h
      exact .builtin
    | named name =>
      obtain ⟨rfl, rfl⟩ := returns_pure_iff.1 h
      exact .named
    | sameAs w => exact .sameAs h
    | own =>
      obtain ⟨name, l₁, hname, h⟩ := returns_bind_iff.1 h
      obtain ⟨rfl, rfl⟩ := returns_pure_iff.1 h
      exact .own hname
    | collection item =>
      obtain ⟨u, l₁, hu, h⟩ := returns_bind_iff.1 h
      have h := returns_useNamespace_bind_iff.1 h
      obtain ⟨rfl, rfl⟩ := returns_pure_iff.1 h
      exact .collection hu
    | dictionary value =>
      obtain ⟨u, l₁, hu, h⟩ := returns_bind_iff.1 (returns_useNamespace_bind_iff.1 h)
      obtain ⟨rfl, rfl⟩ := returns_pure_iff.1 h
      exact .dictionary hu
  · intro h
    cases h with
    | builtin => exact returns_useBuiltin_iff.2 ⟨rfl, rfl⟩
    | named => exact returns_pure_iff.2 ⟨rfl, rfl⟩
    | sameAs h => exact h
    | own h => exact returns_bind_iff.2 ⟨_, _, h, returns_pure_iff.2 ⟨rfl, rfl⟩⟩
    | collection h =>
      refine returns_bind_iff.2 ⟨_, _, h, ?_⟩
      exact returns_useNamespace_bind_iff.2 (returns_pure_iff.2 ⟨rfl, rfl⟩)
    | dictionary h =>
      refine returns_useNamespace_bind_iff.2 (returns_bind_iff.2 ⟨_, _, h, ?_⟩)
      exact returns_pure_iff.2 ⟨rfl, rfl⟩

/-- A type that is asked for is the type of the schema with its mark, and it is noted. -/
theorem returns_resolve_iff {c : Catalogue} {v : Value} {owner : String} {nullable : Bool}
    {t : TypeUse} {l l' : Ledger} :
    Returns (resolve c v owner nullable) l t l' ↔
      ∃ l₁, Returns (typeOf c owner v) l t.type l₁
        ∧ isMarked c v nullable t.type = .ok t.marked ∧ l' = l₁.give t := by
  unfold resolve
  simp only [returns_bind_iff, returns_liftFault_iff, returns_modify_iff, returns_pure_iff]
  constructor
  · rintro ⟨type, l₁, htype, marked, _, ⟨hmarked, rfl⟩, _, _, rfl, rfl, rfl⟩
    exact ⟨_, htype, hmarked, rfl⟩
  · rintro ⟨l₁, htype, hmarked, rfl⟩
    exact ⟨t.type, l₁, htype, t.marked, l₁, ⟨hmarked, rfl⟩, ⟨⟩, _, rfl, rfl, rfl⟩

end OpenApiClient.Schema
