/-
The ledger grows at its end, and keeps an invariant while it does.

`Ledger.Grows` says that nothing which was written is lost or moved.  `Ledger.Sound` is the
invariant: the objects in the ledger are different, their names are different from all other
names, and every type that was given out has only such names in it.

What a computation can do to the ledger is said once: `Ledger.Reaches` has the three steps that
there are, each with what is known when it is taken, and `Steps` says of a computation that it
takes no others, also if it fails on its way.  Growth and the invariant, and whatever else is said
about all ledgers of a run, follow from the steps.  `Keeps` is the same for the computations that
return.
-/
import OpenApiClient.Proofs.Forms
import OpenApiClient.Proofs.Returns
import OpenApiClient.Proofs.Spelling

set_option autoImplicit false

namespace OpenApiClient

open CSharp (TypeRef TypeUse Builtin)
open Generate (Fault)

/-- All names in a type fulfil a condition. -/
def CSharp.TypeRef.Uses (P : String → Prop) : TypeRef → Prop
  | .builtin _ => True
  | .named name => P name
  | .collection item => item.Uses P
  | .dictionary value => value.Uses P

theorem CSharp.TypeRef.Uses.mono {P Q : String → Prop} {t : TypeRef} (h : t.Uses P)
    (hPQ : ∀ n, P n → Q n) : t.Uses Q := by
  induction t with
  | builtin b => trivial
  | named name => exact hPQ name h
  | collection item ih => exact ih h
  | dictionary value ih => exact ih h

namespace Schema

/-! ## Growth -/

/-- One ledger continues another: what was written stays where it was. -/
structure Ledger.Grows (l l' : Ledger) : Prop where
  namespaces : l.namespaces <+: l'.namespaces
  inlined : l.inlined <+: l'.inlined
  given : l.given <+: l'.given

namespace Ledger

theorem Grows.refl (l : Ledger) : l.Grows l :=
  ⟨List.prefix_refl _, List.prefix_refl _, List.prefix_refl _⟩

theorem Grows.trans {l l' l'' : Ledger} (h : l.Grows l') (h' : l'.Grows l'') : l.Grows l'' :=
  ⟨h.namespaces.trans h'.namespaces, h.inlined.trans h'.inlined, h.given.trans h'.given⟩

theorem grows_use (l : Ledger) (name : String) : l.Grows (l.use name) := by
  unfold Ledger.use
  dsimp only
  split
  · exact Grows.refl l
  · exact ⟨List.prefix_append _ _, List.prefix_refl _, List.prefix_refl _⟩

theorem grows_give (l : Ledger) (t : TypeUse) : l.Grows (l.give t) :=
  ⟨List.prefix_refl _, List.prefix_refl _, List.prefix_append _ _⟩

@[simp] theorem use_inlined (l : Ledger) (name : String) : (l.use name).inlined = l.inlined := by
  unfold Ledger.use
  dsimp only
  split <;> rfl

@[simp] theorem use_given (l : Ledger) (name : String) : (l.use name).given = l.given := by
  unfold Ledger.use
  dsimp only
  split <;> rfl

/-- A namespace that has been noted is not noted again. -/
theorem use_of_grows {l k : Ledger} {name : String} (h : (l.use name).Grows k) :
    k.use name = k := by
  have hmem : String.ofList (Text.beforeLast '.' name.toList) ∈ k.namespaces := by
    refine h.namespaces.subset ?_
    unfold Ledger.use
    dsimp only
    split
    · rename_i hc
      exact List.contains_iff_mem.1 hc
    · exact List.mem_append_right _ (List.mem_singleton.2 rfl)
  unfold Ledger.use
  dsimp only
  rw [if_pos (List.contains_iff_mem.2 hmem)]

/-! ### Names that have been given -/

theorem mem_of_nameOf? {l : Ledger} {v : Value} {name : String} (h : l.nameOf? v = some name) :
    ∃ e ∈ l.inlined, e.1 = name ∧ objectNumber? e.2 = objectNumber? v := by
  obtain ⟨e, he, hname⟩ := Option.map_eq_some_iff.1 h
  exact ⟨e, List.mem_of_find?_eq_some he, hname, by simpa using List.find?_some he⟩

theorem not_mem_of_nameOf?_eq_none {l : Ledger} {v : Value} (h : l.nameOf? v = none) :
    ∀ e ∈ l.inlined, objectNumber? e.2 ≠ objectNumber? v := by
  intro e he heq
  have hfind := List.find?_eq_none.1 (Option.map_eq_none_iff.1 h) e he
  simp [heq] at hfind

/-- A name that has been given stays. -/
theorem nameOf?_of_grows {l k : Ledger} {v : Value} {name : String} (h : l.Grows k)
    (hn : l.nameOf? v = some name) : k.nameOf? v = some name := by
  obtain ⟨e, he, hname⟩ := Option.map_eq_some_iff.1 hn
  obtain ⟨rest, hrest⟩ := h.inlined
  unfold Ledger.nameOf?
  rw [← hrest, List.find?_append, he, Option.some_or, Option.map_some, hname]

/-- An object that has just been entered has its name. -/
theorem nameOf?_append {l : Ledger} {v : Value} {name : String} (h : l.nameOf? v = none) :
    Ledger.nameOf? { l with inlined := l.inlined ++ [(name, v)] } v = some name := by
  unfold Ledger.nameOf? at h ⊢
  rw [Option.map_eq_none_iff] at h
  rw [List.find?_append, h, Option.none_or]
  simp

end Ledger

/-! ## The invariant -/

/-- A name that generated code can use: a named schema or an object of the ledger is declared
under it. -/
def Ledger.Offers (c : Catalogue) (l : Ledger) (name : String) : Prop :=
  c.Declares name ∨ name ∈ l.inlined.map (·.1)

theorem Ledger.Offers.mono {c : Catalogue} {l l' : Ledger} {name : String} (h : l.Offers c name)
    (hg : l.Grows l') : l'.Offers c name := by
  refine h.imp_right fun hmem => ?_
  obtain ⟨e, he, hname⟩ := List.mem_map.1 hmem
  exact List.mem_map.2 ⟨e, hg.inlined.subset he, hname⟩

/-- The invariant of the ledger.  The objects in it are different, and come from the document;
their names are different from each other and from those of the named schemas; and a type that
has been given out has no names in it but those. -/
structure Ledger.Sound (c : Catalogue) (pool : List Nat) (l : Ledger) : Prop where
  names : (c.typeNames.map (·.2) ++ l.inlined.map (·.1)).Nodup
  numbers : (l.inlined.map fun e => objectNumber? e.2).Nodup
  objects : ∀ e ∈ l.inlined, e.2.isObject ∧ e.2.Within pool
  spelled : ∀ e ∈ l.inlined, Naming.IsSpelled e.1.toList
  closed : ∀ t ∈ l.given, t.type.Uses (l.Offers c)

section Invariant

variable {c : Catalogue} {pool : List Nat}

/-- A ledger that has objects with given names for the same reasons, and no more types given
out, is sound too. -/
theorem Ledger.Sound.use {l : Ledger} (h : l.Sound c pool) (name : String) :
    (l.use name).Sound c pool := by
  refine ⟨?_, ?_, ?_, ?_, ?_⟩
  · rw [l.use_inlined]
    exact h.names
  · rw [l.use_inlined]
    exact h.numbers
  · rw [l.use_inlined]
    exact h.objects
  · rw [l.use_inlined]
    exact h.spelled
  · rw [l.use_given]
    intro t ht
    exact (h.closed t ht).mono fun n hn => hn.mono (l.grows_use name)

theorem Ledger.Sound.give {l : Ledger} {t : TypeUse} (h : l.Sound c pool)
    (ht : t.type.Uses (l.Offers c)) : (l.give t).Sound c pool := by
  refine ⟨h.names, h.numbers, h.objects, h.spelled, ?_⟩
  intro u hu
  rcases List.mem_append.1 hu with hu | hu
  · exact h.closed u hu
  · rw [List.mem_singleton.1 hu]
    exact ht

theorem isSpelled_wantedName (owner : String) : Naming.IsSpelled (wantedName owner).toList := by
  unfold wantedName
  by_cases h : owner = ""
  · rw [if_pos h]
    exact Naming.isSpelled_of_all (by decide)
  · rw [if_neg h]
    exact Naming.isSpelled_pascalCase owner

/-- Enters a schema under a new name that is made from an owner. -/
def Ledger.enter (c : Catalogue) (l : Ledger) (owner : String) (v : Value) : Ledger :=
  { l with
    inlined := l.inlined ++
      [(Naming.fresh (c.typeNames.map (·.2) ++ l.inlined.map (·.1)) (wantedName owner), v)] }

/-- Entering an object under a fresh name keeps the invariant, if the object is new. -/
theorem Ledger.Sound.enter {l : Ledger} {owner : String} {v : Value} (h : l.Sound c pool)
    (hnew : l.nameOf? v = none) (hobject : v.isObject) (hv : v.Within pool) :
    (l.enter c owner v).Sound c pool := by
  unfold Ledger.enter
  have hfree := Naming.fresh_not_mem (c.typeNames.map (·.2) ++ l.inlined.map (·.1))
    (wantedName owner)
  have hspelled := Naming.isSpelled_fresh (c.typeNames.map (·.2) ++ l.inlined.map (·.1))
    (isSpelled_wantedName owner)
  generalize Naming.fresh (c.typeNames.map (·.2) ++ l.inlined.map (·.1)) (wantedName owner)
    = name at hfree hspelled
  refine ⟨?_, ?_, ?_, ?_, ?_⟩
  · -- the name differs from all others, since it is fresh
    rw [List.map_append, ← List.append_assoc]
    exact List.nodup_append.2 ⟨h.names, List.nodup_singleton _, by
      intro n hn m hm heq
      rw [List.map_singleton, List.mem_singleton] at hm
      rw [heq, hm] at hn
      exact hfree hn⟩
  · -- the object differs from all others, since it has no name yet
    rw [List.map_append]
    refine List.nodup_append.2 ⟨h.numbers, List.nodup_singleton _, ?_⟩
    intro n hn m hm heq
    obtain ⟨e, he, rfl⟩ := List.mem_map.1 hn
    rw [List.map_singleton, List.mem_singleton] at hm
    exact Ledger.not_mem_of_nameOf?_eq_none hnew e he (heq.trans hm)
  · intro e he
    rcases List.mem_append.1 he with he | he
    · exact h.objects e he
    · rw [List.mem_singleton.1 he]
      exact ⟨hobject, hv⟩
  · intro e he
    rcases List.mem_append.1 he with he | he
    · exact h.spelled e he
    · rw [List.mem_singleton.1 he]
      exact hspelled
  · -- types that have been given out use names that are still on offer
    intro t ht
    refine (h.closed t ht).mono fun n hn => hn.mono ?_
    exact ⟨List.prefix_refl _, List.prefix_append _ _, List.prefix_refl _⟩

end Invariant

/-! ## Steps -/

/-- A ledger is reached from another one in steps.  Each notes a namespace, enters a new schema
that fulfils a condition with its owner, or gives out a type. -/
inductive Ledger.Reaches (c : Catalogue) (P : String → Value → Prop) (l : Ledger) : Ledger → Prop
  | refl : Reaches c P l l
  | use {k : Ledger} (h : Reaches c P l k) (name : String) : Reaches c P l (k.use name)
  | enter {k : Ledger} {owner : String} {v : Value} (h : Reaches c P l k)
    (hnew : k.nameOf? v = none) (hP : P owner v) : Reaches c P l (k.enter c owner v)
  | give {k : Ledger} {t : TypeUse} (h : Reaches c P l k) (ht : t.type.Uses (k.Offers c)) :
    Reaches c P l (k.give t)

/-- However a computation ends, all that it does to the ledger are such steps. -/
def Steps (c : Catalogue) (P : String → Value → Prop) {α : Type} (m : Build α) : Prop :=
  ∀ l : Ledger, l.Reaches c P (m.run.run l).2

section Steps

variable {c : Catalogue} {P Q : String → Value → Prop} {l k k' : Ledger}

namespace Ledger.Reaches

theorem trans (h : l.Reaches c P k) (h' : k.Reaches c P k') : l.Reaches c P k' := by
  induction h' with
  | refl => exact h
  | use _ name ih => exact ih.use name
  | enter _ hnew hP ih => exact ih.enter hnew hP
  | give _ ht ih => exact ih.give ht

theorem mono (h : l.Reaches c P k) (hPQ : ∀ owner v, P owner v → Q owner v) :
    l.Reaches c Q k := by
  induction h with
  | refl => exact refl
  | use _ name ih => exact ih.use name
  | enter _ hnew hP ih => exact ih.enter hnew (hPQ _ _ hP)
  | give _ ht ih => exact ih.give ht

theorem grows (h : l.Reaches c P k) : l.Grows k := by
  induction h with
  | refl => exact Grows.refl l
  | use _ name ih => exact ih.trans (grows_use _ name)
  | enter _ _ _ ih =>
    exact ih.trans ⟨List.prefix_refl _, List.prefix_append _ _, List.prefix_refl _⟩
  | give _ _ ih => exact ih.trans (grows_give _ _)

/-- Steps that enter objects of the document only keep the invariant. -/
theorem sound {pool : List Nat} (h : l.Reaches c P k)
    (hP : ∀ owner v, P owner v → v.isObject ∧ v.Within pool) (hl : l.Sound c pool) :
    k.Sound c pool := by
  induction h with
  | refl => exact hl
  | use _ name ih => exact ih.use name
  | enter _ hnew hv ih => exact ih.enter hnew (hP _ _ hv).1 (hP _ _ hv).2
  | give _ ht ih => exact ih.give ht

/-- What holds of whatever is entered, with every name that can be made for it, holds of all that
is in the ledger, if it holds of what is there already. -/
theorem entered {N : String → Value → Prop} (h : l.Reaches c P k)
    (hP : ∀ owner v, P owner v → ∀ taken, N (Naming.fresh taken (wantedName owner)) v)
    (hl : ∀ e ∈ l.inlined, N e.1 e.2) : ∀ e ∈ k.inlined, N e.1 e.2 := by
  induction h with
  | refl => exact hl
  | use _ name ih =>
    rw [use_inlined]
    exact ih
  | enter _ _ hv ih =>
    intro e he
    rcases List.mem_append.1 he with he | he
    · exact ih e he
    · rw [List.mem_singleton.1 he]
      exact hP _ _ hv _
  | give _ _ ih => exact ih

end Ledger.Reaches

namespace Steps

variable {α β : Type}

theorem pure (a : α) : Steps c P (Pure.pure a : Build α) := fun _ => .refl

theorem throw (e : Fault) : Steps c P (throw e : Build α) := fun _ => .refl

theorem liftFault (r : Except Fault α) : Steps c P (Schema.liftFault r) := by
  cases r with
  | error e => exact throw e
  | ok a => exact pure a

theorem mono {m : Build α} (h : Steps c P m) (hPQ : ∀ owner v, P owner v → Q owner v) :
    Steps c Q m :=
  fun l => (h l).mono hPQ

/-- Two computations in a row take only steps if the first one does, and the second one does
behind whatever the first one returns. -/
theorem reaches_bind {m : Build α} {f : α → Build β} (hm : l.Reaches c P (m.run.run l).2)
    (hf : ∀ a k, Returns m l a k → k.Reaches c P ((f a).run.run k).2) :
    l.Reaches c P ((m >>= f).run.run l).2 := by
  cases hrun : m.run.run l with
  | mk r k =>
    rw [hrun] at hm
    cases r with
    | error e =>
      rw [run_bind_of_error hrun]
      exact hm
    | ok a =>
      rw [Returns.run_bind hrun]
      exact hm.trans (hf a k hrun)

theorem bind {m : Build α} {f : α → Build β} (hm : Steps c P m)
    (hf : ∀ a, (∃ l l', Returns m l a l') → Steps c P (f a)) : Steps c P (m >>= f) :=
  fun l => reaches_bind (hm l) fun a k ha => hf a ⟨l, k, ha⟩ k

theorem useNamespace (name : String) : Steps c P (Schema.useNamespace name) :=
  fun _ => .use .refl name

theorem useBuiltin (b : Builtin) : Steps c P (Schema.useBuiltin b) := by
  unfold Schema.useBuiltin
  split
  · exact (useNamespace _).bind fun _ _ => pure _
  · exact pure _

theorem inlineName {owner : String} {v : Value} (hP : P owner v) :
    Steps c P (Schema.inlineName c owner v) := by
  intro l
  cases hname : l.nameOf? v with
  | some name =>
    have hreturns : Returns (Schema.inlineName c owner v) l name l :=
      returns_inlineName_iff.2 (.inl ⟨hname, rfl⟩)
    rw [hreturns]
    exact .refl
  | none =>
    have hreturns : Returns (Schema.inlineName c owner v) l _ (l.enter c owner v) :=
      returns_inlineName_iff.2 (.inr ⟨hname, rfl, rfl⟩)
    rw [hreturns]
    exact .enter .refl hname hP

/-- What is returned comes with a ledger that is reached. -/
theorem returns {m : Build α} {a : α} (h : Steps c P m) (hm : Returns m l a k) :
    l.Reaches c P k := by
  have hl := h l
  rwa [hm] at hl

end Steps

end Steps

/-! ## Computations that return -/

section Keeps

variable {c : Catalogue} {pool : List Nat} {α : Type}

/-- A computation continues the ledger that it begins with, and keeps the invariant. -/
def Keeps (c : Catalogue) (pool : List Nat) {α : Type} (m : Build α) : Prop :=
  ∀ l a l', Returns m l a l' → l.Grows l' ∧ (l.Sound c pool → l'.Sound c pool)

theorem Steps.keeps {P : String → Value → Prop} {m : Build α} (h : Steps c P m)
    (hP : ∀ owner v, P owner v → v.isObject ∧ v.Within pool) : Keeps c pool m :=
  fun _ _ _ hm => ⟨(h.returns hm).grows, (h.returns hm).sound hP⟩

theorem Keeps.pure (a : α) : Keeps c pool (Pure.pure a : Build α) := by
  intro l b l' h
  obtain ⟨-, rfl⟩ := returns_pure_iff.1 h
  exact ⟨Ledger.Grows.refl _, id⟩

theorem Keeps.liftFault (x : Except Fault α) : Keeps c pool (liftFault x) := by
  intro l b l' h
  obtain ⟨-, rfl⟩ := returns_liftFault_iff.1 h
  exact ⟨Ledger.Grows.refl _, id⟩

/-- Two steps keep the invariant when the first one does, and the second one does with
whatever the first one returns. -/
theorem Keeps.bind {β : Type} {m : Build α} {f : α → Build β} (hm : Keeps c pool m)
    (hf : ∀ a, (∃ l l', Returns m l a l') → Keeps c pool (f a)) : Keeps c pool (m >>= f) := by
  intro l b l' h
  obtain ⟨a, l₁, ha, hb⟩ := returns_bind_iff.1 h
  obtain ⟨hgrows, hsound⟩ := hm l a l₁ ha
  obtain ⟨hgrows', hsound'⟩ := hf a ⟨l, l₁, ha⟩ l₁ b l' hb
  exact ⟨hgrows.trans hgrows', fun hl => hsound' (hsound hl)⟩

end Keeps

end Schema

end OpenApiClient
