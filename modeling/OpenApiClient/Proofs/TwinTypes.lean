/-
Types of schemas that say the same.

Twins have the same type, whatever their references look like and however their objects are
numbered.  The numbers matter at one place only: a type of its own is given to an object once,
and the ledger finds the object again by its number.  So the relation between the numbers has to
match each number with one other, in both directions (`Matching`), and the two ledgers list twins
under the same names, in the same order.
-/
import OpenApiClient.Proofs.Resolution
import OpenApiClient.Proofs.Twins

set_option autoImplicit false

namespace OpenApiClient.Schema

open CSharp (Builtin TypeRef TypeUse)
open Generate (Fault)
open Value (Twin TwinMembers)

/-! ## Two runs -/

/-- Each number is matched with one other at most, in both directions.  The number of the empty
schema, to which references lead that lead nowhere, is matched with itself. -/
structure Matching (ν : Nat → Nat → Prop) : Prop where
  iff {n m n' m' : Nat} (h : ν n m) (h' : ν n' m') : n = n' ↔ m = m'
  zero : ν 0 0

/-- Named schemas with the same names that are twins. -/
def TwinNamed (ν : Nat → Nat → Prop) (e e' : String × Value) : Prop :=
  e.1 = e'.1 ∧ Twin ν .schema e.2 e'.2

/-- Catalogues of twins. -/
structure Catalogue.Twins (ν : Nat → Nat → Prop) (c c' : Catalogue) : Prop where
  schemas : List.Forall₂ (TwinNamed ν) c.schemas c'.schemas
  typeNames : c.typeNames = c'.typeNames
  size : c.size = c'.size

/-- Ledgers in which the same has been noted, for twins. -/
structure Ledger.Twins (ν : Nat → Nat → Prop) (l l' : Ledger) : Prop where
  namespaces : l.namespaces = l'.namespaces
  inlined : List.Forall₂ (TwinNamed ν) l.inlined l'.inlined
  given : l.given = l'.given

/-- A computation as one that leaves no ledger behind when it fails. -/
def Build.steps {α : Type} (m : Build α) : StateT Ledger (Except Fault) α := fun l =>
  (m.run.run l).1.map (·, (m.run.run l).2)

/-- Begun with ledgers of twins, both computations fail, or both give related results and leave
ledgers of twins. -/
def BuildTally (ν : Nat → Nat → Prop) {α α' : Type} (R : α → α' → Prop) (m : Build α)
    (m' : Build α') : Prop :=
  Tally (Ledger.Twins ν) R (Build.steps m) (Build.steps m')

namespace BuildTally

variable {ν : Nat → Nat → Prop} {α α' β β' : Type} {R : α → α' → Prop} {Q : β → β' → Prop}

theorem pure {a : α} {a' : α'} (h : R a a') :
    BuildTally ν R (Pure.pure a) (Pure.pure a') :=
  Tally.pure h

theorem throw (e e' : Fault) : BuildTally ν R (throw e : Build α) (throw e' : Build α') :=
  Tally.throw e e'

theorem steps_bind (m : Build α) (f : α → Build β) :
    Build.steps (m >>= f) = Build.steps m >>= fun a => Build.steps (f a) := by
  funext l
  change ((m >>= f).run.run l).1.map (·, ((m >>= f).run.run l).2) = _
  rw [ExceptT.run_bind, StateT.run_bind]
  change _ = (Build.steps m l >>= fun p => Build.steps (f p.1) p.2)
  unfold Build.steps
  cases m.run.run l with
  | mk r l' => cases r <;> rfl

theorem bind {m : Build α} {m' : Build α'} {f : α → Build β} {f' : α' → Build β'}
    (hm : BuildTally ν R m m') (hf : ∀ a a', R a a' → BuildTally ν Q (f a) (f' a')) :
    BuildTally ν Q (m >>= f) (m' >>= f') := by
  unfold BuildTally
  rw [steps_bind, steps_bind]
  exact Tally.bind hm hf

theorem returns_of_steps {m : Build α} {l : Ledger} {p : α × Ledger}
    (h : Build.steps m l = .ok p) : Returns m l p.1 p.2 := by
  unfold Build.steps at h
  obtain ⟨a, ha, rfl⟩ := map_eq_ok_iff.1 h
  exact Prod.ext ha rfl

/-- What comes second has to be looked at only for what the first can return. -/
theorem bind_self {P : β → β → Prop} {m : Build α} {f : α → Build β} (hm : BuildTally ν Eq m m)
    (hf : ∀ a, (∃ l l', Returns m l a l') → BuildTally ν P (f a) (f a)) :
    BuildTally ν P (m >>= f) (m >>= f) := by
  have hreturns : BuildTally ν (fun a a' => a = a' ∧ ∃ l l', Returns m l a l') m m := by
    intro l k hl
    have hrun := hm l k hl
    unfold StateT.run at hrun ⊢
    generalize hsteps : Build.steps m l = y at hrun ⊢
    generalize Build.steps m k = y' at hrun ⊢
    cases hrun with
    | fault e e' => exact .fault e e'
    | ok h => exact .ok ⟨⟨h.1, l, _, returns_of_steps hsteps⟩, h.2⟩
  refine hreturns.bind ?_
  rintro a _ ⟨rfl, ha⟩
  exact hf a ha

theorem liftFault {r : Except Fault α} {r' : Except Fault α'} (h : Concur R r r') :
    BuildTally ν R (liftFault r) (liftFault r') := by
  cases h with
  | ok h => exact pure h
  | fault e e' => exact throw e e'

theorem liftShape {r : Except ShapeFault α} {r' : Except ShapeFault α'} (h : Concur R r r') :
    BuildTally ν R (liftShape r) (liftShape r') := by
  cases h with
  | ok h => exact pure h
  | fault e e' => exact throw _ _

theorem get : BuildTally ν (Ledger.Twins ν) get get := fun _ _ hl => .ok ⟨hl, hl⟩

theorem set {l l' : Ledger} (h : l.Twins ν l') :
    BuildTally ν (fun _ _ => True) (set l : Build PUnit) (set l') :=
  fun _ _ _ => .ok ⟨trivial, h⟩

theorem modify {f f' : Ledger → Ledger} (h : ∀ l l', l.Twins ν l' → (f l).Twins ν (f' l')) :
    BuildTally ν (fun _ _ => True) (modify f : Build PUnit) (modify f') :=
  fun _ _ hl => .ok ⟨trivial, h _ _ hl⟩

end BuildTally

section Types

variable {ν : Nat → Nat → Prop} {c c' : Catalogue} {v w : Value}

/-! ### Namespaces and names -/

theorem Ledger.Twins.use {l l' : Ledger} (h : l.Twins ν l') (qualified : String) :
    (l.use qualified).Twins ν (l'.use qualified) := by
  unfold Ledger.use
  simp only [← h.namespaces]
  by_cases hmem : l.namespaces.contains (String.ofList (Text.beforeLast '.' qualified.toList))
  · rw [if_pos hmem, if_pos hmem]
    exact h
  · rw [if_neg hmem, if_neg hmem]
    exact ⟨by rw [h.namespaces], h.inlined, h.given⟩

theorem Ledger.Twins.give {l l' : Ledger} (h : l.Twins ν l') (t : TypeUse) :
    (l.give t).Twins ν (l'.give t) :=
  ⟨h.namespaces, h.inlined, congrArg (· ++ [t]) h.given⟩

theorem tally_useNamespace (name : String) :
    BuildTally ν Eq (useNamespace name) (useNamespace name) := by
  refine (BuildTally.modify fun l l' hl => hl.use name).bind fun _ _ _ => ?_
  exact BuildTally.pure rfl

/-- What asks for no type gives the same on ledgers of twins. -/
theorem tally_of_asks {α : Type} {m : Build α} (h : Asks c (fun _ _ => False) m) :
    BuildTally ν Eq m m := by
  induction h with
  | pure a => exact BuildTally.pure rfl
  | liftFault r => exact BuildTally.liftFault (.of_eq rfl)
  | useNamespace name => exact tally_useNamespace name
  | resolve _ h => exact h.elim
  | bind _ _ ihm ihf => exact ihm.bind_self ihf

theorem objectNumber?_twin {r : Role} (h : Twin ν r v w) :
    Option.Rel ν (objectNumber? v) (objectNumber? w) := by
  cases h with
  | object hn _ => exact .some hn
  | _ => exact .none

/-- Objects with one number have twins with one number, and the other way round. -/
theorem objectNumber?_beq (hν : Matching ν) {r r' : Role} {v' w' : Value} (h : Twin ν r v w)
    (h' : Twin ν r' v' w') :
    (objectNumber? v == objectNumber? v') = (objectNumber? w == objectNumber? w') := by
  have hn := objectNumber?_twin h
  have hn' := objectNumber?_twin h'
  generalize objectNumber? v = n at hn ⊢
  generalize objectNumber? w = m at hn ⊢
  generalize objectNumber? v' = n' at hn' ⊢
  generalize objectNumber? w' = m' at hn' ⊢
  rw [Bool.eq_iff_iff, beq_iff_eq, beq_iff_eq]
  cases hn with
  | none => cases hn' <;> simp
  | some hn =>
    cases hn' with
    | none => simp
    | some hn' => rw [Option.some_inj, Option.some_inj, hν.iff hn hn']

theorem Ledger.Twins.nameOf?_eq (hν : Matching ν) {l l' : Ledger} (hl : l.Twins ν l') {r : Role}
    (h : Twin ν r v w) : l.nameOf? v = l'.nameOf? w := by
  have hfind := rel_find? (q := fun known : String × Value =>
    objectNumber? known.2 == objectNumber? w) hl.inlined fun e e' he =>
      objectNumber?_beq hν he.2 h
  unfold Ledger.nameOf?
  generalize List.find? _ _ = x at hfind ⊢
  generalize List.find? _ _ = y at hfind ⊢
  cases hfind with
  | some he => exact congrArg some he.1.1
  | none => rfl

theorem map_fst_eq {es es' : List (String × Value)} (h : List.Forall₂ (TwinNamed ν) es es') :
    es.map (·.1) = es'.map (·.1) := by
  rw [← List.forall₂_eq_eq_eq, List.forall₂_map_left_iff, List.forall₂_map_right_iff]
  exact h.imp fun _ _ he => he.1

/-- Twins get one name. -/
theorem tally_inlineName (hν : Matching ν) (hc : c.Twins ν c') (owner : String)
    (h : Twin ν .schema v w) :
    BuildTally ν Eq (inlineName c owner v) (inlineName c' owner w) := by
  refine BuildTally.get.bind fun l l' hl => ?_
  rw [hl.nameOf?_eq hν h]
  cases l'.nameOf? w with
  | some name => exact BuildTally.pure rfl
  | none =>
    dsimp only
    rw [hc.typeNames, map_fst_eq hl.inlined]
    refine BuildTally.bind (BuildTally.set ?_) fun _ _ _ => BuildTally.pure rfl
    exact ⟨hl.namespaces, List.rel_append hl.inlined (.cons ⟨rfl, h⟩ .nil), hl.given⟩

/-! ### References -/

theorem Catalogue.Twins.schema? (hc : c.Twins ν c') (name : String) :
    Option.Rel (Twin ν .schema) (c.schema? name) (c'.schema? name) :=
  rel_lookup (Q := fun _ => Twin ν .schema) hc.schemas name

/-- References with one target lead to twins. -/
theorem Catalogue.Twins.refSchema (hν : Matching ν) (hc : c.Twins ν c') {s t : String}
    (h : Catalogue.refTarget? s = Catalogue.refTarget? t) :
    Twin ν .schema (c.refSchema s) (c'.refSchema t) := by
  have hempty : Twin ν .schema (.object 0 []) (.object 0 []) := .object hν.zero (.nil _)
  unfold Catalogue.refSchema
  rw [h]
  cases Catalogue.refTarget? t with
  | none => exact hempty
  | some name =>
    have hschema := hc.schema? name
    simp only [Option.bind_some]
    generalize c.schema? name = x at hschema ⊢
    generalize c'.schema? name = y at hschema ⊢
    cases hschema with
    | some h => exact h
    | none => exact hempty

/-- References with one target name one type. -/
theorem Catalogue.Twins.refName (hc : c.Twins ν c') {s t : String}
    (h : Catalogue.refTarget? s = Catalogue.refTarget? t) :
    Concur Eq (c.refName s) (c'.refName t) := by
  unfold Catalogue.refName
  rw [h]
  cases Catalogue.refTarget? t with
  | none => exact .fault _ _
  | some name =>
    have hschema := hc.schema? name
    dsimp only
    generalize c.schema? name = x at hschema ⊢
    generalize c'.schema? name = y at hschema ⊢
    cases hschema with
    | some _ =>
      refine .ok ?_
      unfold Catalogue.typeName
      rw [hc.typeNames]
    | none => exact .fault _ _

theorem concur_refText (h : Twin ν .reference v w) :
    Concur (fun s t => Catalogue.refTarget? s = Catalogue.refTarget? t) (Catalogue.refText v)
      (Catalogue.refText w) := by
  cases h with
  | reference h => exact .ok h
  | scalar _ s =>
    cases s with
    | text s => exact .ok rfl
    | _ => exact .fault _ _
  | _ => exact .fault _ _

/-! ### Compositions -/

/-- Compositions that lead to twins. -/
inductive Composite.Twins (ν : Nat → Nat → Prop) : Composite → Composite → Prop where
  | absent : Composite.Twins ν .absent .absent
  | single {v w : Value} (h : Twin ν .schema v w) : Composite.Twins ν (.single v) (.single w)
  | several : Composite.Twins ν .several .several

theorem concur_onlyPart (h : Twin ν .parts v w) :
    Concur (Twin ν .schema) (onlyPart v) (onlyPart w) := by
  have hparts := h.parts (by decide)
  cases h with
  | @object _ _ _ ms ns _ h =>
    -- an object has the part under the number zero, and no role gives that one a meaning
    have hfind := rel_find? (p := fun m : Scalar × Value => m.1.same (.int 0))
      (q := fun m : Scalar × Value => m.1.same (.int 0)) h.forall₂ fun m n hmn => by rw [hmn.1]
    rw [onlyPart, onlyPart, Members.get?, Members.get?]
    generalize List.find? _ ms = x at hfind ⊢
    generalize List.find? _ ns = y at hfind ⊢
    cases hfind with
    | none => exact .fault _ _
    | some h => exact .ok (Twin.of_plain _ h.1.2)
  | set _ ks => exact .fault _ _
  | _ =>
    refine Concur.bind hparts fun us us' hus => ?_
    cases hus with
    | nil => exact .fault _ _
    | cons hu _ => exact .ok hu

theorem concur_compositeUnder {key : String} (hkey : Role.member .schema (.text key) = .parts)
    (h : Twin ν .schema v w) :
    Concur (Composite.Twins ν) (compositeUnder v key) (compositeUnder w key) := by
  have hparts := h.memberOrNull key
  rw [hkey] at hparts
  unfold compositeUnder
  simp only [← hparts.isGiven_eq (by decide)]
  cases (v.memberOrNull key).isGiven with
  | false => exact .ok .absent
  | true =>
    refine (hparts.parts (by decide)).bind fun us us' hus => ?_
    simp only [← hus.length_eq]
    by_cases hlength : us.length = 1
    · rw [if_pos hlength, if_pos hlength]
      exact (concur_onlyPart hparts).bind fun _ _ hu => .ok (.single hu)
    · rw [if_neg hlength, if_neg hlength]
      exact .ok .several

theorem concur_composite {keys : List String}
    (hkeys : ∀ key ∈ keys, Role.member .schema (.text key) = .parts) (h : Twin ν .schema v w) :
    Concur (Composite.Twins ν) (composite v keys) (composite w keys) := by
  induction keys with
  | nil => exact .ok .absent
  | cons key keys ih =>
    rw [composite, composite]
    refine (concur_compositeUnder (hkeys key List.mem_cons_self) h).bind fun r r' hr => ?_
    cases hr with
    | absent => exact ih fun k hk => hkeys k (List.mem_cons_of_mem _ hk)
    | single hu => exact .ok (.single hu)
    | several => exact .ok .several

/-! ### Forms -/

/-- Forms that lead to twins. -/
inductive Form.Twins (ν : Nat → Nat → Prop) : Form → Form → Prop where
  | builtin (b : Builtin) : Form.Twins ν (.builtin b) (.builtin b)
  | named (name : String) : Form.Twins ν (.named name) (.named name)
  | sameAs {v w : Value} (h : Twin ν .schema v w) : Form.Twins ν (.sameAs v) (.sameAs w)
  | own : Form.Twins ν .own .own
  | collection {v w : Value} (h : Twin ν .schema v w) :
    Form.Twins ν (.collection v) (.collection w)
  | dictionary {v w : Value} (h : Twin ν .schema v w) :
    Form.Twins ν (.dictionary v) (.dictionary w)

theorem numberType_eq (h : Twin ν .plain v w) : numberType v = numberType w := by
  cases h with
  | scalar _ s => rfl
  | pair hk hv =>
    cases hk with
    | scalar _ k =>
      cases hv <;> rfl
    | _ => rfl
  | _ => rfl

theorem concur_referenceForm (hν : Matching ν) (hc : c.Twins ν c') (h : Twin ν .reference v w) :
    Concur (Form.Twins ν) (referenceForm c v) (referenceForm c' w) := by
  refine (concur_refText h).bind fun s t hst => ?_
  have htarget := hc.refSchema hν hst
  simp only [← htarget.isObject_eq, ← htarget.isDeclared_eq]
  cases (c.refSchema s).isObject with
  | false => exact .fault _ _
  | true =>
    cases (c.refSchema s).isDeclared with
    | false => exact .ok (.sameAs htarget)
    | true =>
      refine (hc.refName hst).bind fun name name' hname => ?_
      rw [hname]
      exact .ok (.named name')

theorem twins_objectForm (h : Twin ν .schema v w) : (objectForm v).Twins ν (objectForm w) := by
  have hproperties : Twin ν .table _ _ := h.memberOrNull "properties"
  have hadditional : Twin ν .schema _ _ := h.memberOrNull "additionalProperties"
  unfold objectForm
  simp only [← hproperties.isGiven_eq (by decide), ← hadditional.isObject_eq]
  cases (v.memberOrNull "properties").isGiven with
  | true => exact .own
  | false =>
    cases (v.memberOrNull "additionalProperties").isObject with
    | true => exact .dictionary hadditional
    | false => exact .builtin _

theorem concur_plainForm (h : Twin ν .schema v w) :
    Concur (Form.Twins ν) (plainForm v) (plainForm w) := by
  have hproperties : (v.member? "properties").isSome = (w.member? "properties").isSome := by
    have hmember := h.member? "properties"
    generalize v.member? "properties" = x at hmember ⊢
    generalize w.member? "properties" = y at hmember ⊢
    cases hmember <;> rfl
  unfold plainForm
  simp only [← h.isEnumSchema_eq, ← h.hasType_eq, ← h.format?_eq, ← hproperties]
  -- one case for each form, in the order in which they are tried
  split
  · exact .ok .own
  split
  · exact .ok (.builtin _)
  split
  · rw [numberType_eq (h.memberOrNull "format")]
    exact (Concur.of_eq rfl).map fun b b' hb => hb ▸ .builtin b
  split
  · exact .ok (.builtin _)
  split
  · exact .ok (.builtin _)
  split
  · exact .ok (.collection (h.memberOrNull "items"))
  split
  · exact .ok (twins_objectForm h)
  · exact .ok (.builtin _)

/-- The forms of twins lead to twins. -/
theorem concur_form (hν : Matching ν) (hc : c.Twins ν c') (h : Twin ν .schema v w) :
    Concur (Form.Twins ν) (form c v) (form c' w) := by
  -- objects with members are asked the same questions in the same order
  have hobject : ∀ n m ms ns, v = .object n ms → w = .object m ns → ms ≠ [] → ns ≠ [] →
      Concur (Form.Twins ν) (form c v) (form c' w) := by
    intro n m ms ns hv hw hms hns
    have href : Option.Rel (Twin ν .reference) _ _ := h.member? "$ref"
    obtain ⟨e, ms, rfl⟩ := List.exists_cons_of_ne_nil hms
    obtain ⟨e', ns, rfl⟩ := List.exists_cons_of_ne_nil hns
    unfold form
    subst hv hw
    dsimp only
    generalize Value.member? _ "$ref" = x at href ⊢
    generalize Value.member? _ "$ref" = y at href ⊢
    cases href with
    | some href => exact concur_referenceForm hν hc href
    | none =>
      refine (concur_composite (by decide) h).mapError.bind fun r r' hr => ?_
      cases hr with
      | absent => exact (concur_plainForm h).mapError
      | single hu => exact .ok (.sameAs hu)
      | several => exact .ok (.builtin _)
  cases h with
  | object hn h' =>
    cases h' with
    | nil => exact .ok (.builtin _)
    | cons _ _ => exact hobject _ _ _ _ rfl rfl (List.cons_ne_nil _ _) (List.cons_ne_nil _ _)
  | _ => exact .ok (.builtin _)

/-! ### Types -/

theorem tally_useBuiltin (b : Builtin) : BuildTally ν Eq (useBuiltin b) (useBuiltin b) := by
  unfold useBuiltin
  by_cases hb : [Builtin.dateTimeOffset, .timeSpan, .guid].contains b
  · simp only [hb, if_true]
    exact (tally_useNamespace _).bind fun _ _ _ => BuildTally.pure rfl
  · simp only [hb]
    exact BuildTally.pure rfl

/-- On the way down from twins the same types are met. -/
theorem tally_typeWith (hν : Matching ν) (hc : c.Twins ν c') (owner : String) (fuel : Nat)
    (h : Twin ν .schema v w) :
    BuildTally ν Eq (typeWith c owner fuel v) (typeWith c' owner fuel w) := by
  induction fuel generalizing v w with
  | zero => exact BuildTally.throw _ _
  | succ fuel ih =>
    rw [typeWith, typeWith]
    refine (BuildTally.liftFault (concur_form hν hc h)).bind fun f f' hf => ?_
    cases hf with
    | builtin b => exact tally_useBuiltin b
    | named name => exact BuildTally.pure rfl
    | sameAs hu => exact ih hu
    | own =>
      exact (tally_inlineName hν hc owner h).bind fun _ _ hname =>
        BuildTally.pure (congrArg _ hname)
    | collection hu =>
      refine (ih hu).bind fun t t' ht => ?_
      exact (tally_useNamespace _).bind fun _ _ _ => BuildTally.pure (congrArg _ ht)
    | dictionary hu =>
      refine (tally_useNamespace _).bind fun _ _ _ => ?_
      exact (ih hu).bind fun t t' ht => BuildTally.pure (congrArg _ ht)

theorem concur_isEnum (hν : Matching ν) (hc : c.Twins ν c') (h : Twin ν .schema v w) :
    Concur Eq (c.isEnum v) (c'.isEnum w) := by
  have href : Option.Rel (Twin ν .reference) _ _ := h.member? "$ref"
  unfold Catalogue.isEnum
  rw [h.isEnumSchema_eq]
  generalize v.member? "$ref" = x at href ⊢
  generalize w.member? "$ref" = y at href ⊢
  cases href with
  | none => exact .ok rfl
  | some href =>
    exact (concur_refText href).bind fun s t hst => .ok (hc.refSchema hν hst).isEnumSchema_eq

theorem concur_isMarked (hν : Matching ν) (hc : c.Twins ν c') (h : Twin ν .schema v w)
    (nullable : Bool) (t : TypeRef) :
    Concur Eq (isMarked c v nullable t) (isMarked c' w nullable t) := by
  unfold isMarked
  rw [h.isNullable_eq]
  by_cases hnullable : (nullable || isNullable w) = true
  · simp only [hnullable, if_true]
    by_cases hvalue : valueTypes.contains t.render
    · simp only [hvalue, if_true]
      exact .ok rfl
    · simp only [hvalue]
      exact concur_isEnum hν hc h
  · simp only [hnullable]
    exact .ok rfl

/-- Twins are asked for with one answer. -/
theorem tally_resolve (hν : Matching ν) (hc : c.Twins ν c') (owner : String) (nullable : Bool)
    (h : Twin ν .schema v w) :
    BuildTally ν Eq (resolve c v owner nullable) (resolve c' w owner nullable) := by
  unfold resolve typeOf
  rw [← hc.size, ← h.countObjects_eq]
  refine (tally_typeWith hν hc owner _ h).bind fun t t' ht => ?_
  subst ht
  refine (BuildTally.liftFault (concur_isMarked hν hc h nullable t)).bind fun m m' hm => ?_
  subst hm
  refine (BuildTally.modify fun l l' hl => hl.give ⟨t, m⟩).bind fun _ _ _ => ?_
  exact BuildTally.pure rfl

end Types

end OpenApiClient.Schema
