/-
Computations that succeed together.

`Concur R x x'` says of two outcomes that both are faults, or that both are results and the
results are related by `R`.  It is the two-sided form of `Matches`: which of the faults it is does
not count, but no side may succeed alone.  `Tally S R m m'` says the same of two computations
that are begun in related states, and leaves related states behind.

Whatever is put together from parts that concur concurs, so a claim about two whole runs is proved
by going through the program once, with one lemma for each function on the way.
-/
import Mathlib.Data.List.Forall2
import OpenApiClient.Proofs.Outcomes
import OpenApiClient.Proofs.Returns

set_option autoImplicit false

namespace OpenApiClient

variable {σ σ' ε ε' α α' β β' γ γ' : Type}

/-! ## Lists -/

/-- Every element of one of two related lists is related to one of the other. -/
theorem exists_right_of_mem {R : α → β → Prop} {xs : List α} {ys : List β}
    (h : List.Forall₂ R xs ys) {x : α} (hx : x ∈ xs) : ∃ y ∈ ys, R x y := by
  induction h with
  | nil => cases hx
  | cons hxy _ ih =>
    rcases List.mem_cons.1 hx with rfl | hx
    · exact ⟨_, List.mem_cons_self, hxy⟩
    · obtain ⟨y, hy, hxy⟩ := ih hx
      exact ⟨y, List.mem_cons_of_mem _ hy, hxy⟩

theorem exists_left_of_mem {R : α → β → Prop} {xs : List α} {ys : List β}
    (h : List.Forall₂ R xs ys) {y : β} (hy : y ∈ ys) : ∃ x ∈ xs, R x y :=
  exists_right_of_mem h.flip hy

/-- The first element of one list that is looked for is found at the place of the first of the
other, if the two lists are related. -/
theorem rel_find? {R : α → β → Prop} {p : α → Bool} {q : β → Bool} {xs : List α} {ys : List β}
    (h : List.Forall₂ R xs ys) (hpq : ∀ x y, R x y → p x = q y) :
    Option.Rel (fun x y => R x y ∧ p x = true) (xs.find? p) (ys.find? q) := by
  induction h with
  | nil => exact .none
  | @cons x y xs ys hxy _ ih =>
    rw [List.find?_cons, List.find?_cons, ← hpq x y hxy]
    cases hp : p x with
    | true => exact .some ⟨hxy, hp⟩
    | false => exact ih

/-- What is kept of one list is related to what is kept of the other. -/
theorem rel_filter_of_eq {R : α → β → Prop} {p : α → Bool} {q : β → Bool} {xs : List α}
    {ys : List β} (h : List.Forall₂ R xs ys) (hpq : ∀ x y, R x y → p x = q y) :
    List.Forall₂ R (xs.filter p) (ys.filter q) :=
  List.rel_filter (fun x y hxy => iff_of_eq (congrArg (· = true) (hpq x y hxy))) h

/-- What is made of related options is related. -/
theorem rel_map_option {R : α → β → Prop} {Q : α' → β' → Prop} {f : α → α'} {g : β → β'}
    {x : Option α} {y : Option β} (h : Option.Rel R x y) (hfg : ∀ a b, R a b → Q (f a) (g b)) :
    Option.Rel Q (x.map f) (y.map g) := by
  cases h with
  | some h => exact .some (hfg _ _ h)
  | none => exact .none

theorem rel_getElem? {R : α → β → Prop} {xs : List α} {ys : List β} (h : List.Forall₂ R xs ys)
    (i : Nat) : Option.Rel R xs[i]? ys[i]? := by
  induction h generalizing i with
  | nil => exact .none
  | cons hxy _ ih =>
    cases i with
    | zero => exact .some hxy
    | succ i => exact ih i

/-- Related lists stay related when their elements are numbered. -/
theorem rel_zipIdx {R : α → β → Prop} {xs : List α} {ys : List β} (h : List.Forall₂ R xs ys)
    (i : Nat) :
    List.Forall₂ (fun p q => R p.1 q.1 ∧ p.2 = q.2) (xs.zipIdx i) (ys.zipIdx i) := by
  induction h generalizing i with
  | nil => exact .nil
  | cons hxy _ ih => exact .cons ⟨hxy, rfl⟩ (ih (i + 1))

/-- Related lists stay related when they are sorted, if they are sorted alike. -/
theorem rel_mergeSort {R : α → β → Prop} {le : α → α → Bool} {le' : β → β → Bool} {xs : List α}
    {ys : List β} (h : List.Forall₂ R xs ys)
    (hle : ∀ a b a' b', R a a' → R b b' → le a b = le' a' b') :
    List.Forall₂ R (xs.mergeSort le) (ys.mergeSort le') := by
  have hlength := h.length_eq
  have hpairs : ∀ p ∈ xs.zip ys, R p.1 p.2 := fun _ hp => List.forall₂_zip h hp
  -- both lists are sorted as one list of pairs
  have hfst := List.map_mergeSort (l := xs.zip ys) (f := Prod.fst)
    (r := fun p q => le p.1 q.1) (s := le) (fun _ _ _ _ => rfl)
  have hsnd := List.map_mergeSort (l := xs.zip ys) (f := Prod.snd)
    (r := fun p q => le p.1 q.1) (s := le')
    (fun p hp q hq => hle _ _ _ _ (hpairs p hp) (hpairs q hq))
  rw [List.map_fst_zip (Nat.le_of_eq hlength)] at hfst
  rw [List.map_snd_zip (Nat.le_of_eq hlength.symm)] at hsnd
  rw [← hfst, ← hsnd, List.forall₂_map_left_iff, List.forall₂_map_right_iff, List.forall₂_same]
  exact fun p hp => hpairs p (List.mem_mergeSort.1 hp)

/-- What stands under a name in two lists of entries with the same names is related, if it is so
for each name. -/
theorem rel_lookup {Q : String → α → β → Prop} {es : List (String × α)} {es' : List (String × β)}
    (h : List.Forall₂ (fun e e' => e.1 = e'.1 ∧ Q e.1 e.2 e'.2) es es') (name : String) :
    Option.Rel (Q name) (es.lookup name) (es'.lookup name) := by
  induction h with
  | nil => exact .none
  | @cons e e' es es' he _ ih =>
    obtain ⟨key, a⟩ := e
    obtain ⟨key', b⟩ := e'
    obtain ⟨rfl, hab⟩ : key = key' ∧ Q key a b := he
    rw [List.lookup_cons, List.lookup_cons]
    cases hname : name == key with
    | true =>
      rw [beq_iff_eq.1 hname]
      exact .some hab
    | false => exact ih

/-! ## Outcomes -/

/-- Both outcomes are faults, or both are results, and these are related. -/
inductive Concur (R : α → α' → Prop) : Except ε α → Except ε' α' → Prop where
  | ok {a : α} {a' : α'} (h : R a a') : Concur R (.ok a) (.ok a')
  | fault (e : ε) (e' : ε') : Concur R (.error e) (.error e')

namespace Concur

variable {R : α → α' → Prop} {Q : β → β' → Prop}

theorem of_eq {x x' : Except ε α} (h : x = x') : Concur Eq x x' := by
  subst h
  cases x with
  | error e => exact .fault e e
  | ok a => exact .ok rfl

theorem mono {R' : α → α' → Prop} {x : Except ε α} {x' : Except ε' α'} (h : Concur R x x')
    (himp : ∀ a a', R a a' → R' a a') : Concur R' x x' := by
  cases h with
  | ok h => exact .ok (himp _ _ h)
  | fault e e' => exact .fault e e'

theorem bind {x : Except ε α} {x' : Except ε' α'} {f : α → Except ε β} {f' : α' → Except ε' β'}
    (hx : Concur R x x') (hf : ∀ a a', R a a' → Concur Q (f a) (f' a')) :
    Concur Q (x >>= f) (x' >>= f') := by
  cases hx with
  | ok h => exact hf _ _ h
  | fault e e' => exact .fault e e'

theorem map {x : Except ε α} {x' : Except ε' α'} {f : α → β} {f' : α' → β'}
    (hx : Concur R x x') (hf : ∀ a a', R a a' → Q (f a) (f' a')) :
    Concur Q (x.map f) (x'.map f') := by
  cases hx with
  | ok h => exact .ok (hf _ _ h)
  | fault e e' => exact .fault e e'

theorem mapError {ε₁ ε₁' : Type} {x : Except ε α} {x' : Except ε' α'} {f : ε → ε₁}
    {f' : ε' → ε₁'} (hx : Concur R x x') : Concur R (x.mapError f) (x'.mapError f') := by
  cases hx with
  | ok h => exact .ok h
  | fault e e' => exact .fault _ _

/-- Outcomes that concur in equal results give the same result, or none. -/
theorem toOption_eq {x : Except ε α} {x' : Except ε' α} (h : Concur Eq x x') :
    x.toOption = x'.toOption := by
  cases h with
  | ok h => exact congrArg some h
  | fault e e' => rfl

/-- What goes on from results that concur may stop as well. -/
theorem toOption_bind_eq {x : Except ε α} {x' : Except ε' α'} {f : α → Option β}
    {f' : α' → Option β} (hx : Concur R x x') (hf : ∀ a a', R a a' → f a = f' a') :
    x.toOption.bind f = x'.toOption.bind f' := by
  cases hx with
  | ok h => exact hf _ _ h
  | fault e e' => rfl

theorem mapM {f : α → Except ε β} {f' : α' → Except ε' β'} {xs : List α} {xs' : List α'}
    (hxs : List.Forall₂ R xs xs') (hf : ∀ a a', R a a' → Concur Q (f a) (f' a')) :
    Concur (List.Forall₂ Q) (xs.mapM f) (xs'.mapM f') := by
  induction hxs with
  | nil => exact .ok .nil
  | cons h _ ih =>
    rw [List.mapM_cons, List.mapM_cons]
    refine (hf _ _ h).bind fun b b' hb => ?_
    exact ih.bind fun bs bs' hbs => .ok (.cons hb hbs)

theorem foldlM {f : β → α → Except ε β} {f' : β' → α' → Except ε' β'} {xs : List α}
    {xs' : List α'} {b : β} {b' : β'} (hxs : List.Forall₂ R xs xs') (hb : Q b b')
    (hf : ∀ b b' a a', Q b b' → R a a' → Concur Q (f b a) (f' b' a')) :
    Concur Q (xs.foldlM f b) (xs'.foldlM f' b') := by
  induction hxs generalizing b b' with
  | nil => exact .ok hb
  | cons h _ ih =>
    rw [List.foldlM_cons, List.foldlM_cons]
    exact (hf _ _ _ _ hb h).bind fun c c' hc => ih hc

end Concur

/-! ## Checks -/

namespace Validation.Checked

/-- Both checks are in order, with related results, or none of them is. -/
inductive Concur (R : α → α' → Prop) : Checked α → Checked α' → Prop where
  | ok {a : α} {a' : α'} (h : R a a') : Concur R (.ok a) (.ok a')
  | fault {c : Checked α} {c' : Checked α'} (h : ∀ a, c ≠ .ok a) (h' : ∀ a, c' ≠ .ok a) :
    Concur R c c'

namespace Concur

variable {R : α → α' → Prop} {Q : β → β' → Prop}

theorem of_eq {c c' : Checked α} (h : c = c') : Concur Eq c c' := by
  subst h
  cases c with
  | ok a => exact .ok rfl
  | _ => exact .fault (by simp) (by simp)

theorem within {c : Checked α} {c' : Checked α'} {step step' : Step} (h : Concur R c c') :
    Concur R (c.within step) (c'.within step') := by
  cases h with
  | ok h => exact .ok h
  | fault h h' =>
    exact .fault (fun a ha => h a (within_eq_ok_iff.1 ha)) fun a ha => h' a (within_eq_ok_iff.1 ha)

/-- Two checks together concur if each of them does. -/
theorem seq {f : Checked (α → β)} {f' : Checked (α' → β')} {c : Checked α} {c' : Checked α'}
    (hf : Concur (fun g g' => ∀ a a', R a a' → Q (g a) (g' a')) f f') (hc : Concur R c c') :
    Concur Q (f <*> c) (f' <*> c') := by
  cases hf with
  | ok hg =>
    cases hc with
    | ok h => exact .ok (hg _ _ h)
    | fault h h' =>
      refine .fault (fun b hb => ?_) fun b hb => ?_
      · obtain ⟨g, a, -, ha, -⟩ := seq_eq_ok_iff.1 hb
        exact h a ha
      · obtain ⟨g, a, -, ha, -⟩ := seq_eq_ok_iff.1 hb
        exact h' a ha
  -- a side that fails takes the whole with it, whatever the other part is
  | fault h h' =>
    refine .fault (fun b hb => ?_) fun b hb => ?_
    · obtain ⟨g, a, hg, -, -⟩ := seq_eq_ok_iff.1 hb
      exact h g hg
    · obtain ⟨g, a, hg, -, -⟩ := seq_eq_ok_iff.1 hb
      exact h' g hg

theorem map {g : α → β} {g' : α' → β'} {c : Checked α} {c' : Checked α'} (hc : Concur R c c')
    (hg : ∀ a a', R a a' → Q (g a) (g' a')) : Concur Q (g <$> c) (g' <$> c') :=
  seq (.ok hg : Concur _ (.ok g) (.ok g')) hc

/-- Checks whose results hold a fact concur if the checks do. -/
theorem withFact {P : α → Prop} {P' : α' → Prop} {c : Checked α} {c' : Checked α'}
    (h : Concur R c c') (hc : ∀ a, c = .ok a → P a) (hc' : ∀ a, c' = .ok a → P' a) :
    Concur (fun a a' => R a.1 a'.1) (c.withFact hc) (c'.withFact hc') := by
  cases h with
  | ok h => exact .ok h
  | fault h h' =>
    cases c with
    | ok a => exact absurd rfl (h a)
    | _ =>
      cases c' with
      | ok a => exact absurd rfl (h' a)
      | _ => exact .fault (by simp [Checked.withFact]) (by simp [Checked.withFact])

end Concur

end Validation.Checked

/-! ## Computations with a state -/

/-- Begun in related states, both computations fail, or both give related results and leave
related states. -/
def Tally (S : σ → σ' → Prop) (R : α → α' → Prop) (m : StateT σ (Except ε) α)
    (m' : StateT σ' (Except ε') α') : Prop :=
  ∀ s s', S s s' → Concur (fun p p' => R p.1 p'.1 ∧ S p.2 p'.2) (m.run s) (m'.run s')

namespace Tally

variable {S : σ → σ' → Prop} {R : α → α' → Prop} {Q : β → β' → Prop}

theorem pure {a : α} {a' : α'} (h : R a a') :
    Tally S R (Pure.pure a : StateT σ (Except ε) α) (Pure.pure a' : StateT σ' (Except ε') α') :=
  fun _ _ hs => .ok ⟨h, hs⟩

theorem throw (e : ε) (e' : ε') :
    Tally S R (throw e : StateT σ (Except ε) α) (throw e' : StateT σ' (Except ε') α') :=
  fun _ _ _ => .fault e e'

theorem bind {m : StateT σ (Except ε) α} {m' : StateT σ' (Except ε') α'}
    {f : α → StateT σ (Except ε) β} {f' : α' → StateT σ' (Except ε') β'} (hm : Tally S R m m')
    (hf : ∀ a a', R a a' → Tally S Q (f a) (f' a')) : Tally S Q (m >>= f) (m' >>= f') := by
  intro s s' hs
  rw [StateT.run_bind, StateT.run_bind]
  exact (hm s s' hs).bind fun p p' hp => hf _ _ hp.1 _ _ hp.2

theorem lift {r : Except ε α} {r' : Except ε' α'} (h : Concur R r r') :
    Tally S R (StateT.lift r) (StateT.lift r') :=
  fun _ _ hs => h.bind fun _ _ ha => .ok ⟨ha, hs⟩

end Tally

end OpenApiClient
