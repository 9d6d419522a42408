/-
Two ways to say that a value may be absent.

The older form of a schema has a member `nullable` beside its type, and the newer one has `null` on
a list of types.  `Value.nullTyped` turns the first into the second.  Whatever looks for the type of
a schema passes over the `null`, so the way down from a schema is the same in both forms
(`form_nullTyped`), and what is found at its end is the same type under the same name.

The mark of a type does not come from the way down.  It is set after the member `nullable`, which
the newer form does not have, so there it is set only where it is wanted for another reason.
`resolve_nullTyped` says that this is the only difference, and when there is one.
-/
import OpenApiClient.Proofs.Nullability

set_option autoImplicit false

namespace OpenApiClient

/-! ## The newer form -/

namespace Members

/-- Members that have the type on a list with `null`, and not the other way to say the same. -/
def nullTyped : Members → Members
  | [] => []
  | (k, v) :: ms =>
    if k.isText "nullable" then nullTyped ms
    else if k.isText "type" then (k, .list [v, .text "null"]) :: nullTyped ms
    else (k, v) :: nullTyped ms

theorem getText?_cons (k : Scalar) (v : Value) (ms : Members) (key : String) :
    getText? ((k, v) :: ms) key = if k.isText key then some v else getText? ms key := by
  unfold getText?
  rw [List.find?_cons]
  cases k.isText key <;> rfl

/-- What stands under a key in the newer form. -/
theorem getText?_nullTyped (ms : Members) (key : String) :
    getText? ms.nullTyped key =
      if key = "nullable" then none
      else if key = "type" then (getText? ms key).map fun v => .list [v, .text "null"]
      else getText? ms key := by
  induction ms with
  | nil => simp [nullTyped, getText?]
  | cons m ms ih =>
    obtain ⟨k, v⟩ := m
    rw [nullTyped, getText?_cons]
    by_cases hk : k.isText key
    · have hsame (s : String) : k.isText s = true ↔ key = s := by
        rw [Scalar.eq_text_of_isText hk]
        exact beq_iff_eq
      simp only [hsame, if_true]
      by_cases hn : key = "nullable"
      · rw [if_pos hn, if_pos hn, ih, if_pos hn]
      · rw [if_neg hn, if_neg hn]
        by_cases ht : key = "type"
        · rw [if_pos ht, if_pos ht, getText?_cons, if_pos hk]
          rfl
        · rw [if_neg ht, if_neg ht, getText?_cons, if_pos hk]
    · -- the first member is passed over, whatever becomes of it
      rw [if_neg hk, ← ih]
      split_ifs
      · rfl
      · rw [getText?_cons, if_neg hk]
      · rw [getText?_cons, if_neg hk]

/-- The keys of an object are different. -/
def Distinct (ms : Members) : Prop := ms.Pairwise fun m m' => ¬ m.1.same m'.1

/-- If the keys are different, one value only stands under a text. -/
theorem eq_of_distinct {ms : Members} (hms : ms.Distinct) {key : String} {v : Value}
    (h : getText? ms key = some v) {m : Scalar × Value} (hm : m ∈ ms) (hkey : m.1.isText key) :
    m.2 = v := by
  induction ms with
  | nil => cases hm
  | cons e ms ih =>
    obtain ⟨k, w⟩ := e
    obtain ⟨hfirst, hrest⟩ := List.pairwise_cons.1 hms
    rw [getText?_cons] at h
    by_cases hk : k.isText key
    · rw [if_pos hk] at h
      cases h
      rcases List.mem_cons.1 hm with rfl | hm
      · rfl
      · -- a second member under the text would have the same key
        refine absurd ?_ (hfirst m hm)
        rw [Scalar.eq_text_of_isText hk, Scalar.eq_text_of_isText hkey]
        exact beq_self_eq_true key
    · rw [if_neg hk] at h
      rcases List.mem_cons.1 hm with rfl | hm
      · exact absurd hkey hk
      · exact ih hrest h hm

/-- No objects are lost with the members that are left out, if these hold none. -/
theorem countObjects_nullTyped {ms : Members}
    (h : ∀ m ∈ ms, m.1.isText "nullable" → m.2.countObjects = 0) :
    Value.countObjectsInMembers ms.nullTyped = Value.countObjectsInMembers ms := by
  induction ms with
  | nil => rfl
  | cons m ms ih =>
    obtain ⟨k, v⟩ := m
    have hrest := ih fun m hm => h m (List.mem_cons_of_mem _ hm)
    rw [nullTyped, Value.countObjectsInMembers]
    by_cases hn : k.isText "nullable"
    · have hnone : v.countObjects = 0 := h _ List.mem_cons_self hn
      rw [if_pos hn, hrest, hnone, Nat.zero_add]
    · rw [if_neg hn]
      by_cases ht : k.isText "type"
      · rw [if_pos ht, Value.countObjectsInMembers, hrest]
        rfl
      · rw [if_neg ht, Value.countObjectsInMembers, hrest]

end Members

namespace Value

/-- A schema in the newer form, as the object with a given number. -/
def nullTyped (number : Nat) (v : Value) : Value :=
  .object number (Members.nullTyped (v.members?.getD []))

/-- A schema states a type other than `null`, and says in the older form that its values may be
absent. -/
structure SaysNullable (v : Value) (t : String) : Prop where
  type : v.memberOrNull "type" = .text t
  proper : t ≠ "null"
  nullable : v.memberOrNull "nullable" = .bool true
  distinct : Members.Distinct (v.members?.getD [])

section Questions

variable {v : Value} {t : String} (number : Nat)

theorem member?_nullTyped (v : Value) {key : String} (htype : key ≠ "type")
    (hnullable : key ≠ "nullable") : (v.nullTyped number).member? key = v.member? key := by
  cases v with
  | object n ms =>
    refine (Members.getText?_nullTyped ms key).trans ?_
    rw [if_neg hnullable, if_neg htype]
    rfl
  | _ => rfl

theorem memberOrNull_nullTyped (v : Value) {key : String} (htype : key ≠ "type")
    (hnullable : key ≠ "nullable") :
    (v.nullTyped number).memberOrNull key = v.memberOrNull key := by
  unfold memberOrNull
  rw [member?_nullTyped number v htype hnullable]

/-- A member that is something stands in an object. -/
theorem isSome_of_memberOrNull {key : String} {w : Value} (h : v.memberOrNull key = w)
    (hw : w ≠ .null) : v.member? key = some w := by
  unfold memberOrNull at h
  cases hm : v.member? key with
  | none =>
    rw [hm] at h
    exact absurd h.symm hw
  | some u =>
    rw [hm] at h
    exact congrArg some h

namespace SaysNullable

theorem member_type (h : v.SaysNullable t) : v.member? "type" = some (.text t) :=
  isSome_of_memberOrNull h.type (by simp)

theorem isObject (h : v.SaysNullable t) : v.isObject := by
  have hmember := h.member_type
  cases v with
  | object n ms => rfl
  | _ => cases hmember

theorem member_nullTyped_type (h : v.SaysNullable t) :
    (v.nullTyped number).member? "type" = some (.list [.text t, .text "null"]) := by
  have hmember := h.member_type
  cases v with
  | object n ms =>
    have hms : Members.getText? ms "type" = some (.text t) := hmember
    refine (Members.getText?_nullTyped ms "type").trans ?_
    rw [hms]
    rfl
  | _ => cases hmember

/-- The type is the first on the list that is not `null`. -/
theorem schemaType_eq (h : v.SaysNullable t) :
    v.schemaType = .text t ∧ (v.nullTyped number).schemaType = .text t := by
  have hlist : (v.nullTyped number).memberOrNull "type" = .list [.text t, .text "null"] := by
    unfold memberOrNull
    rw [h.member_nullTyped_type, Option.getD_some]
  constructor
  · unfold schemaType
    rw [h.type]
  · unfold schemaType
    rw [hlist]
    have hproper : ((Value.text t).text? != some "null") = true := by
      simpa [text?] using h.proper
    simp only [List.find?_cons, hproper, Option.getD_some]

theorem hasType_eq (h : v.SaysNullable t) (name : String) :
    (v.nullTyped number).hasType name = v.hasType name := by
  obtain ⟨hold, hnew⟩ := h.schemaType_eq number
  unfold hasType
  rw [hold, hnew]

theorem hasNoType_eq (h : v.SaysNullable t) :
    (v.nullTyped number).hasNoType = v.hasNoType := by
  obtain ⟨hold, hnew⟩ := h.schemaType_eq number
  unfold hasNoType
  rw [hold, hnew]

theorem listsValues_eq (h : v.SaysNullable t) :
    (v.nullTyped number).listsValues = v.listsValues := by
  unfold listsValues
  rw [memberOrNull_nullTyped number v (by decide) (by decide), h.isObject]
  rfl

theorem isEnumSchema_eq (h : v.SaysNullable t) :
    (v.nullTyped number).isEnumSchema = v.isEnumSchema := by
  unfold isEnumSchema
  rw [h.listsValues_eq, h.hasNoType_eq, h.hasType_eq, h.hasType_eq]

theorem isDeclared_eq (h : v.SaysNullable t) :
    (v.nullTyped number).isDeclared = v.isDeclared := by
  unfold isDeclared
  rw [h.listsValues_eq, h.isEnumSchema_eq]

theorem countObjects_eq (h : v.SaysNullable t) :
    (v.nullTyped number).countObjects = v.countObjects := by
  have hmember := isSome_of_memberOrNull h.nullable (by simp)
  have hdistinct := h.distinct
  cases v with
  | object n ms =>
    refine congrArg (· + 1) (Members.countObjects_nullTyped fun m hm hkey => ?_)
    rw [Members.eq_of_distinct hdistinct hmember hm hkey]
    rfl
  | _ => cases hmember

end SaysNullable

end Questions

end Value

/-! ## The way down -/

namespace Schema

open CSharp (TypeRef TypeUse)
open Value (member?_nullTyped memberOrNull_nullTyped)

variable {c : Catalogue} {v : Value} {t : String} (number : Nat)

theorem composite_nullTyped (v : Value) {keys : List String} (htype : "type" ∉ keys)
    (hnullable : "nullable" ∉ keys) :
    composite (v.nullTyped number) keys = composite v keys := by
  induction keys with
  | nil => rfl
  | cons key keys ih =>
    rw [List.mem_cons, not_or] at htype hnullable
    have hunder : compositeUnder (v.nullTyped number) key = compositeUnder v key := by
      unfold compositeUnder
      rw [memberOrNull_nullTyped number v (Ne.symm htype.1) (Ne.symm hnullable.1)]
    rw [composite, composite, hunder, ih htype.2 hnullable.2]

theorem objectForm_nullTyped (v : Value) : objectForm (v.nullTyped number) = objectForm v := by
  unfold objectForm
  rw [memberOrNull_nullTyped number v (by decide) (by decide),
    memberOrNull_nullTyped number v (by decide) (by decide)]

theorem plainForm_nullTyped (h : v.SaysNullable t) :
    plainForm (v.nullTyped number) = plainForm v := by
  have hformat : (v.nullTyped number).format? = v.format? := by
    unfold Value.format?
    rw [memberOrNull_nullTyped number v (by decide) (by decide)]
  unfold plainForm
  simp only [h.isEnumSchema_eq, h.hasType_eq, hformat, objectForm_nullTyped,
    memberOrNull_nullTyped number v (by decide : "format" ≠ "type") (by decide),
    memberOrNull_nullTyped number v (by decide : "items" ≠ "type") (by decide),
    member?_nullTyped number v (by decide : "properties" ≠ "type") (by decide)]

/-- Two objects that are not empty have the same form if they agree in what is looked at. -/
theorem form_congr {w : Value} {key key' : String} (hv : (v.member? key).isSome)
    (hw : (w.member? key').isSome) (href : w.member? "$ref" = v.member? "$ref")
    (hcomposite : composite w compositeKeys = composite v compositeKeys)
    (hplain : plainForm w = plainForm v) : form c w = form c v := by
  obtain ⟨n, m, ms, rfl⟩ := exists_cons_of_member hv
  obtain ⟨n', m', ms', rfl⟩ := exists_cons_of_member hw
  unfold form
  rw [href, hcomposite, hplain]

/-- The way down begins in the same way. -/
theorem form_nullTyped (h : v.SaysNullable t) : form c (v.nullTyped number) = form c v := by
  have hv : (v.member? "type").isSome := by
    rw [h.member_type]
    rfl
  have hw : ((v.nullTyped number).member? "type").isSome := by
    rw [h.member_nullTyped_type]
    rfl
  refine form_congr hv hw ?_ ?_ ?_
  · exact member?_nullTyped number v (by decide) (by decide)
  · exact composite_nullTyped number v (by decide) (by decide)
  · exact plainForm_nullTyped number h

theorem isEnum_nullTyped (h : v.SaysNullable t) : c.isEnum (v.nullTyped number) = c.isEnum v := by
  unfold Catalogue.isEnum
  rw [member?_nullTyped number v (by decide) (by decide), h.isEnumSchema_eq]

/-! ## Asking for a type -/

/-- Two ledgers list the same names and the same namespaces. -/
structure Ledger.SameNames (l l' : Ledger) : Prop where
  inlined : l'.inlined.map (·.1) = l.inlined.map (·.1)
  namespaces : l'.namespaces = l.namespaces

/-- A schema with a type of its own is entered. -/
theorem typeWith_of_own {owner : String} {fuel : Nat} (h : form c v = .ok .own) :
    typeWith c owner (fuel + 1) v
      = inlineName c owner v >>= fun name => pure (TypeRef.named name) := by
  rw [typeWith, h]
  rfl

/-- Where the way down does not end at once, the schema itself is not looked at again. -/
theorem typeWith_congr {w : Value} {owner : String} {fuel : Nat} (h : form c w = form c v)
    (hown : form c v ≠ .ok .own) :
    typeWith c owner (fuel + 1) w = typeWith c owner (fuel + 1) v := by
  rw [typeWith, typeWith, h]
  cases hf : form c v with
  | error e => rfl
  | ok f =>
    cases f with
    | own => exact absurd hf hown
    | _ => rfl

/-- The same type is found in both forms, or the way down fails in both. -/
theorem typeOf_nullTyped (h : v.SaysNullable t) (owner : String) {l : Ledger}
    (hknown : l.nameOf? (v.nullTyped number) = l.nameOf? v) :
    (∀ e l', Fails (typeOf c owner (v.nullTyped number)) l e l'
        ↔ Fails (typeOf c owner v) l e l')
      ∧ ∀ type l₁, Returns (typeOf c owner v) l type l₁ →
        ∃ l₂, Returns (typeOf c owner (v.nullTyped number)) l type l₂ ∧ l₁.SameNames l₂ := by
  have hform : form c (v.nullTyped number) = form c v := form_nullTyped number h
  unfold typeOf
  rw [h.countObjects_eq]
  by_cases hown : form c v = .ok .own
  · have hown' := hform.trans hown
    rw [typeWith_of_own hown, typeWith_of_own hown']
    constructor
    · intro e l'
      simp only [fails_bind_iff, fails_inlineName_iff, fails_pure_iff, and_false, exists_false,
        or_false]
    · intro type l₁ hreturns
      obtain ⟨name, l', hname, hreturns⟩ := returns_bind_iff.1 hreturns
      obtain ⟨rfl, rfl⟩ := returns_pure_iff.1 hreturns
      -- the name is known for both, or both get the same new one
      rcases returns_inlineName_iff.1 hname with ⟨hn, rfl⟩ | ⟨hn, hfresh, rfl⟩
      · rw [← hknown] at hn
        refine ⟨_, returns_bind_iff.2 ⟨name, _, ?_, returns_pure_iff.2 ⟨rfl, rfl⟩⟩, rfl, rfl⟩
        exact returns_inlineName_iff.2 (.inl ⟨hn, rfl⟩)
      · rw [← hknown] at hn
        have hentered := returns_inlineName_iff.2 (.inr ⟨hn, hfresh, rfl⟩)
        refine ⟨_, returns_bind_iff.2 ⟨name, _, hentered, returns_pure_iff.2 ⟨rfl, rfl⟩⟩, ?_, rfl⟩
        rw [List.map_append, List.map_append]
        rfl
  · rw [typeWith_congr hform hown]
    exact ⟨fun e l' => Iff.rfl, fun type l₁ hreturns => ⟨l₁, hreturns, rfl, rfl⟩⟩

theorem isNullable_of_saysNullable (h : v.SaysNullable t) : isNullable v = true := by
  unfold isNullable
  rw [h.isObject, h.nullable]
  rfl

/-- The newer form does not say it with the other member. -/
theorem isNullable_nullTyped (v : Value) : isNullable (v.nullTyped number) = false := by
  have hmember : (v.nullTyped number).member? "nullable" = none :=
    Members.getText?_nullTyped (v.members?.getD []) "nullable"
  unfold isNullable Value.memberOrNull
  rw [hmember]
  rfl

/-- Types of one text are written alike exactly if both are marked or none is. -/
theorem render_eq_iff {u u' : TypeUse} (h : u'.type = u.type) :
    u'.render = u.render ↔ u'.marked = u.marked := by
  constructor
  · intro hrender
    have hmarked := render_eq_append_iff u'
    rw [hrender, h, render_eq_append_iff] at hmarked
    exact Bool.eq_iff_iff.2 hmarked.symm
  · intro hmarked
    unfold TypeUse.render
    rw [h, hmarked]

/-- Asking for the type of a schema in the two forms.  It fails in both or in none, and the same
names are entered.  The types differ at most in the mark, and they do if the mark is set after the
schema alone. -/
theorem resolve_nullTyped (h : v.SaysNullable t) {owner : String} {nullable : Bool} {l : Ledger}
    (hknown : l.nameOf? (v.nullTyped number) = l.nameOf? v) :
    (∀ e l', Fails (resolve c (v.nullTyped number) owner nullable) l e l'
        ↔ Fails (resolve c v owner nullable) l e l')
      ∧ ∀ u l₁, Returns (resolve c v owner nullable) l u l₁ →
        ∃ u' l₂, Returns (resolve c (v.nullTyped number) owner nullable) l u' l₂
          ∧ l₁.SameNames l₂ ∧ u'.type = u.type
          ∧ (u'.render = u.render
            ↔ nullable ∨ ¬ (u.type.render ∈ valueTypes ∨ c.isEnum v = .ok true)) := by
  obtain ⟨hfails, hreturns⟩ := typeOf_nullTyped number h (c := c) owner hknown
  constructor
  · intro e l'
    rw [fails_resolve_iff, fails_resolve_iff, hfails]
  · intro u l₁ hu
    obtain ⟨l₂, htype, hmark, rfl⟩ := returns_resolve_iff.1 hu
    obtain ⟨l₃, htype', hnames⟩ := hreturns _ _ htype
    obtain ⟨b, hb⟩ := exists_isEnum_of_typeOf htype
    have hb' : c.isEnum (v.nullTyped number) = .ok b := (isEnum_nullTyped number h).trans hb
    rw [isMarked_eq hb, isNullable_of_saysNullable h, Bool.or_true, Bool.true_and] at hmark
    let u' : TypeUse := ⟨u.type, nullable && (valueTypes.contains u.type.render || b)⟩
    refine ⟨u', l₃.give u', ?_, ?_, rfl, ?_⟩
    · apply returns_resolve_iff.2
      refine ⟨l₃, htype', ?_, rfl⟩
      rw [isMarked_eq hb', isNullable_nullTyped, Bool.or_false]
    · exact ⟨hnames.inlined, hnames.namespaces⟩
    · -- the mark of the older form is there whenever the type can have one
      have hsame : u'.type = u.type := rfl
      rw [render_eq_iff hsame, ← Except.ok.inj hmark, hb]
      cases nullable <;> cases b <;> simp [u']

end Schema

end OpenApiClient
