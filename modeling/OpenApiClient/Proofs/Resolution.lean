/-
Asking for the type of a schema, once and again.

All that a way down from a schema does to the ledger is to enter objects at its end and to note
namespaces, so it keeps the invariant (`keeps_typeWith`), and the names in the type at its end
are on offer (`uses_of_typeWith`).

The second fact is about asking twice.  A type that has been given once is given again for the
same schema, under whichever owner it is asked for, and this changes nothing
(`typeWith_again`).  It holds because the ledger grows at its end only.

Contracts and interface reach the ledger in two ways only: they note namespaces, and they ask
for the types of schemas.  `Asks P m` says that every schema that `m` asks for fulfils `P`
together with its owner.  The emission is gone through once for this, and whatever asking for
one type keeps is then kept by all of it: `Asks` is an induction principle for computations.
-/
import OpenApiClient.Proofs.Ledger

set_option autoImplicit false

namespace OpenApiClient.Schema

open CSharp (TypeRef TypeUse Builtin)

variable {c : Catalogue} {pool : List Nat}

/-! ## Asking for a type -/

/-- What is entered on behalf of a schema: under the given owner, a schema with a type of its own
that is met on the way down. -/
def EntersFor (c : Catalogue) (v : Value) (owner : String) : String → Value → Prop :=
  fun o w => o = owner ∧ Met c v w ∧ form c w = .ok .own

theorem EntersFor.within {v w : Value} {owner o : String} (h : EntersFor c v owner o w)
    (hc : c.Within pool) (hv : v.Within pool) : w.isObject ∧ w.Within pool :=
  ⟨isObject_of_own h.2.2, h.2.1.within hc hv⟩

/-- All that a way down does are steps, also if it comes to no end. -/
theorem steps_typeWith (c : Catalogue) (owner : String) (fuel : Nat) (v : Value) :
    Steps c (EntersFor c v owner) (typeWith c owner fuel v) := by
  induction fuel generalizing v with
  | zero => exact Steps.throw _
  | succ fuel ih =>
    rw [typeWith]
    refine (Steps.liftFault _).bind fun f hf => ?_
    obtain ⟨l, l', hf⟩ := hf
    have hf := (returns_liftFault_iff.1 hf).1
    -- what is met from the next schemas is met from this one
    have hnext : ∀ w ∈ f.next, Steps c (EntersFor c v owner) (typeWith c owner fuel w) := by
      intro w hw
      refine (ih w).mono fun o u hu => ?_
      exact ⟨hu.1, .next hf hw hu.2.1, hu.2.2⟩
    cases f with
    | builtin b => exact Steps.useBuiltin b
    | named name => exact Steps.pure _
    | sameAs w => exact hnext w List.mem_cons_self
    | own => exact (Steps.inlineName ⟨rfl, .here v, hf⟩).bind fun _ _ => Steps.pure _
    | collection item =>
      refine (hnext item List.mem_cons_self).bind fun _ _ => ?_
      exact (Steps.useNamespace _).bind fun _ _ => Steps.pure _
    | dictionary value =>
      refine (Steps.useNamespace _).bind fun _ _ => ?_
      exact (hnext value List.mem_cons_self).bind fun _ _ => Steps.pure _

/-- A way down that comes to its end keeps the invariant. -/
theorem keeps_typeWith (hc : c.Within pool) (owner : String) (fuel : Nat) {v : Value}
    (hv : v.Within pool) : Keeps c pool (typeWith c owner fuel v) :=
  (steps_typeWith c owner fuel v).keeps fun _ _ h => h.within hc hv

/-- The names in the type at the end of a way down are on offer. -/
theorem uses_of_typeWith (hc : c.Within pool) {owner : String} {fuel : Nat} {v : Value}
    {t : TypeRef} {l l' : Ledger} (hv : v.Within pool)
    (h : Returns (typeWith c owner fuel v) l t l') : t.Uses (l'.Offers c) := by
  induction fuel generalizing v t l l' with
  | zero => exact (returns_throw_iff.1 h).elim
  | succ fuel ih =>
    obtain ⟨f, hf, hstep⟩ := returns_typeWith_succ_iff.1 h
    obtain ⟨hnext, -, hnamed⟩ := form_spec hc hv hf
    cases hstep with
    | builtin => trivial
    | named => exact .inl (hnamed _ rfl)
    | sameAs hw => exact ih (hnext _ List.mem_cons_self) hw
    | own hname =>
      right
      -- the object has its name already, or has just been entered
      rcases returns_inlineName_iff.1 hname with ⟨hn, rfl⟩ | ⟨-, -, rfl⟩
      · obtain ⟨e, he, hfst, -⟩ := Ledger.mem_of_nameOf? hn
        exact List.mem_map.2 ⟨e, he, hfst⟩
      · simp
    | @collection item t l₂ hitem =>
      exact (ih (hnext item List.mem_cons_self) hitem).mono fun n hn => hn.mono (l₂.grows_use _)
    | @dictionary value t l₂ hvalue =>
      have huses := ih (hnext value List.mem_cons_self) hvalue
      exact huses

/-- A type that has been given is given again, for any owner, and nothing is noted. -/
theorem typeWith_again {owner : String} (owner' : String) {fuel : Nat} {v : Value} {t : TypeRef}
    {l l' k : Ledger} (hc : c.Within pool) (hv : v.Within pool)
    (h : Returns (typeWith c owner fuel v) l t l') (hk : l'.Grows k) :
    Returns (typeWith c owner' fuel v) k t k := by
  induction fuel generalizing v t l l' with
  | zero => exact (returns_throw_iff.1 h).elim
  | succ fuel ih =>
    obtain ⟨f, hf, hstep⟩ := returns_typeWith_succ_iff.1 h
    refine returns_typeWith_succ_iff.2 ⟨f, hf, ?_⟩
    obtain ⟨hnext, -, -⟩ := form_spec hc hv hf
    cases hstep with
    | @builtin b =>
      -- the namespace of the type has been noted, and notes are kept
      have hkept : (if [CSharp.Builtin.dateTimeOffset, .timeSpan, .guid].contains b
          then k.use b.render else k) = k := by
        by_cases hb : [CSharp.Builtin.dateTimeOffset, .timeSpan, .guid].contains b
        · rw [if_pos hb] at hk ⊢
          exact Ledger.use_of_grows hk
        · exact if_neg hb
      have hstep : TypeStep c owner' fuel v k (.builtin b) _ _ := .builtin
      rwa [hkept] at hstep
    | named => exact .named
    | sameAs hw => exact .sameAs (ih (hnext _ List.mem_cons_self) hw hk)
    | own hname =>
      -- the object has a name by now, whether it had one before or was given one
      refine .own (returns_inlineName_iff.2 (.inl ⟨?_, rfl⟩))
      rcases returns_inlineName_iff.1 hname with ⟨hn, rfl⟩ | ⟨hnew, rfl, rfl⟩
      · exact Ledger.nameOf?_of_grows hk hn
      · exact Ledger.nameOf?_of_grows hk (Ledger.nameOf?_append hnew)
    | @collection item t l₂ hitem =>
      have hagain := ih (hnext item List.mem_cons_self) hitem ((l₂.grows_use _).trans hk)
      have hstep : TypeStep c owner' fuel v k (.collection item) _ _ := .collection hagain
      rwa [Ledger.use_of_grows hk] at hstep
    | @dictionary value t l₂ hvalue =>
      have hwithin := hnext value List.mem_cons_self
      have hgrows := (keeps_typeWith hc owner fuel hwithin _ _ _ hvalue).1
      refine .dictionary ?_
      rw [Ledger.use_of_grows (hgrows.trans hk)]
      exact ih hwithin hvalue hk

/-- The mark that a type gets, if it can be said whether the schema is an enumeration. -/
theorem isMarked_eq {v : Value} {b nullable : Bool} {type : TypeRef} (hb : c.isEnum v = .ok b) :
    isMarked c v nullable type
      = .ok ((nullable || isNullable v) && (valueTypes.contains type.render || b)) := by
  unfold isMarked
  cases nullable || isNullable v with
  | false => rfl
  | true =>
    rw [if_pos rfl, hb]
    cases valueTypes.contains type.render <;> rfl

/-- Where a type is found, it can be said whether the schema is an enumeration. -/
theorem exists_isEnum_of_typeOf {v : Value} {owner : String} {t : TypeRef} {l l' : Ledger}
    (h : Returns (typeOf c owner v) l t l') : ∃ b, c.isEnum v = .ok b := by
  unfold typeOf at h
  rw [typeWith] at h
  obtain ⟨f, hf, -⟩ := returns_liftFault_bind_iff.1 h
  exact exists_isEnum hf

/-- Only the way down can fail: a type that is found can be marked. -/
theorem fails_resolve_iff {v : Value} {owner : String} {nullable : Bool} {l l' : Ledger}
    {e : Generate.Fault} :
    Fails (resolve c v owner nullable) l e l' ↔ Fails (typeOf c owner v) l e l' := by
  unfold resolve
  rw [fails_bind_iff, or_iff_left]
  rintro ⟨t, l₁, ht, h⟩
  obtain ⟨b, hb⟩ := exists_isEnum_of_typeOf ht
  rw [isMarked_eq hb] at h
  simp only [fails_bind_iff, fails_liftFault_iff, fails_modify_iff, fails_pure_iff, reduceCtorEq,
    false_and, and_false, exists_false, or_false] at h

/-- All that asking for a type does are steps: those of the way down, and at its end the type is
given out. -/
theorem steps_resolve (c : Catalogue) (v : Value) (owner : String) (nullable : Bool) :
    Steps c (EntersFor c v owner) (resolve c v owner nullable) := by
  obtain ⟨pool, hc, hv⟩ := exists_pool c [v]
  intro l
  refine Steps.reaches_bind (steps_typeWith c owner _ v l) fun type l₁ htype => ?_
  have huses := uses_of_typeWith hc (hv v List.mem_cons_self) htype
  cases hmark : isMarked c v nullable type with
  | error e => exact .refl
  | ok marked => exact .give .refl huses

/-- Asking for a type keeps the invariant. -/
theorem keeps_resolve (hc : c.Within pool) {v : Value} (owner : String) (nullable : Bool)
    (hv : v.Within pool) : Keeps c pool (resolve c v owner nullable) :=
  (steps_resolve c v owner nullable).keeps fun _ _ h => h.within hc hv

/-- Asking again for a type, under any owner and with any mark, notes only the answer. -/
theorem resolve_again (hc : c.Within pool) {v : Value} {owner owner' : String}
    {nullable nullable' : Bool} {t u : TypeUse} {l l' k k' : Ledger} (hv : v.Within pool)
    (h : Returns (resolve c v owner nullable) l t l') (hk : l'.Grows k)
    (h' : Returns (resolve c v owner' nullable') k u k') :
    u.type = t.type ∧ k' = k.give u := by
  obtain ⟨l₁, htype, -, rfl⟩ := returns_resolve_iff.1 h
  obtain ⟨k₁, htype', -, rfl⟩ := returns_resolve_iff.1 h'
  have hagain := typeWith_again owner' hc hv htype ((l₁.grows_give t).trans hk)
  obtain ⟨hu, rfl⟩ := htype'.unique hagain
  exact ⟨hu, rfl⟩

/-- What has been answered is answered again, under any owner, and only the answer is noted. -/
theorem resolve_repeats (hc : c.Within pool) {v : Value} {owner : String} {nullable : Bool}
    {t : TypeUse} {l l' k : Ledger} (hv : v.Within pool)
    (h : Returns (resolve c v owner nullable) l t l') (hk : l'.Grows k) (owner' : String) :
    Returns (resolve c v owner' nullable) k t (k.give t) := by
  obtain ⟨l₁, htype, hmark, rfl⟩ := returns_resolve_iff.1 h
  have hagain := typeWith_again owner' hc hv htype ((l₁.grows_give t).trans hk)
  exact returns_resolve_iff.2 ⟨k, hagain, hmark, rfl⟩

/-! ## What a computation asks for -/

section

variable {α β : Type} {P Q : String → Value → Prop}

/-- The computation notes namespaces and asks for types, each time for a schema that fulfils
the condition with its owner. -/
inductive Asks (c : Catalogue) (P : String → Value → Prop) : {α : Type} → Build α → Prop where
  | pure {α : Type} (a : α) : Asks c P (Pure.pure a : Build α)
  | liftFault {α : Type} (r : Except Generate.Fault α) : Asks c P (Schema.liftFault r)
  | useNamespace (name : String) : Asks c P (Schema.useNamespace name)
  | resolve {owner : String} {v : Value} (nullable : Bool) (h : P owner v) :
    Asks c P (Schema.resolve c v owner nullable)
  | bind {α β : Type} {m : Build α} {f : α → Build β} (hm : Asks c P m)
    (hf : ∀ a, (∃ l l', Returns m l a l') → Asks c P (f a)) : Asks c P (m >>= f)

namespace Asks

theorem throw (e : Generate.Fault) : Asks c P (throw e : Build α) := liftFault (.error e)

theorem liftShape (r : Except ShapeFault α) : Asks c P (Schema.liftShape r) := by
  cases r with
  | error e => exact throw _
  | ok a => exact pure a

theorem mono {m : Build α} (h : Asks c P m) (hPQ : ∀ owner v, P owner v → Q owner v) :
    Asks c Q m := by
  induction h with
  | pure a => exact pure a
  | liftFault r => exact liftFault r
  | useNamespace name => exact useNamespace name
  | resolve nullable h => exact resolve nullable (hPQ _ _ h)
  | bind _ _ ihm ihf => exact ihm.bind ihf

/-- All that asking for schemas does are the steps of the ways down from them. -/
theorem steps {m : Build α} (h : Asks c P m) :
    Steps c (fun owner w => ∃ v, P owner v ∧ EntersFor c v owner owner w) m := by
  induction h with
  | pure a => exact Steps.pure a
  | liftFault r => exact Steps.liftFault r
  | useNamespace name => exact Steps.useNamespace name
  | resolve nullable h =>
    refine (steps_resolve c _ _ nullable).mono fun o w hw => ?_
    obtain ⟨rfl, hw⟩ := hw
    exact ⟨_, h, rfl, hw⟩
  | bind _ _ ihm ihf => exact ihm.bind ihf

/-- Asking for schemas of the document keeps the invariant of the ledger. -/
theorem keeps {pool : List Nat} {m : Build α} (hc : c.Within pool) (h : Asks c P m)
    (hP : ∀ owner v, P owner v → v.Within pool) : Keeps c pool m := by
  refine h.steps.keeps fun owner w hw => ?_
  obtain ⟨v, hv, hw⟩ := hw
  exact hw.within hc (hP _ _ hv)

end Asks

end

end OpenApiClient.Schema
