/-
Schemas that say the same.

Two values are twins if they are equal but for two things: their objects may have other numbers,
related by `ν`, and where a reference to a schema stands in a schema, the other one may spell the
place of its target differently, as long as the name of the target is the same.  Which members of
a schema are schemas in turn is a matter of its keys, so a twin has a `Role`: a text under
`$ref` is a reference only in a schema, and not, say, among the values of an enumeration, which
are written into the code.

What is asked of a schema on the way to its type is answered by its twin in the same way.  That
is this module; the way itself is gone in the next ones.
-/
import OpenApiClient.Proofs.Agreement

set_option autoImplicit false

namespace OpenApiClient

/-! ## Roles -/

/-- What a value is to the schema that it belongs to. -/
inductive Role where
  | schema
  /-- Schemas by their names, as properties are. -/
  | table
  /-- Several schemas, as the parts of a composition are. -/
  | parts
  /-- What a reference says. -/
  | reference
  /-- Anything else, which is no schema and has none in it. -/
  | plain
  deriving DecidableEq, Repr

/-- The role of a member of a value in a role. -/
def Role.member (r : Role) (key : Scalar) : Role :=
  match r, key with
  | .table, _ => .schema
  | .schema, .text k =>
    if k = "$ref" then .reference
    else if k = "properties" then .table
    else if ["items", "additionalProperties"].contains k then .schema
    else if Schema.compositeKeys.contains k then .parts
    else .plain
  | _, _ => .plain

/-- The role of an item of a value in a role. -/
def Role.item : Role → Role
  | .parts => .schema
  | _ => .plain

namespace Value

/-! ## Twins -/

mutual

/-- The second value is the first one, with other numbers and respelled references. -/
inductive Twin (ν : Nat → Nat → Prop) : Role → Value → Value → Prop where
  | scalar (r : Role) (s : Scalar) : Twin ν r (.scalar s) (.scalar s)
  | reference {s t : String}
    (h : Schema.Catalogue.refTarget? s = Schema.Catalogue.refTarget? t) :
    Twin ν .reference (.text s) (.text t)
  | list {r : Role} {vs ws : List Value} (h : TwinItems ν r vs ws) :
    Twin ν r (.list vs) (.list ws)
  | object {r : Role} {n m : Nat} {ms ns : Members} (hn : ν n m) (h : TwinMembers ν r ms ns) :
    Twin ν r (.object n ms) (.object m ns)
  | set (r : Role) (ks : List Scalar) : Twin ν r (.set ks) (.set ks)
  | pair {r : Role} {k v l w : Value} (hk : Twin ν r.item k l) (hv : Twin ν r.item v w) :
    Twin ν r (.pair k v) (.pair l w)
  | again (r : Role) (n : Nat) : Twin ν r (.again n) (.again n)

/-- Items of twins. -/
inductive TwinItems (ν : Nat → Nat → Prop) : Role → List Value → List Value → Prop where
  | nil (r : Role) : TwinItems ν r [] []
  | cons {r : Role} {v w : Value} {vs ws : List Value} (hv : Twin ν r.item v w)
    (h : TwinItems ν r vs ws) : TwinItems ν r (v :: vs) (w :: ws)

/-- Members of twins. -/
inductive TwinMembers (ν : Nat → Nat → Prop) : Role → Members → Members → Prop where
  | nil (r : Role) : TwinMembers ν r [] []
  | cons {r : Role} {key : Scalar} {v w : Value} {ms ns : Members}
    (hv : Twin ν (r.member key) v w) (h : TwinMembers ν r ms ns) :
    TwinMembers ν r ((key, v) :: ms) ((key, w) :: ns)

end

section Twins

variable {ν : Nat → Nat → Prop} {r : Role} {v w : Value} {vs ws : List Value} {ms ns : Members}

theorem TwinItems.forall₂ (h : TwinItems ν r vs ws) : List.Forall₂ (Twin ν r.item) vs ws := by
  induction vs generalizing ws with
  | nil =>
    cases h
    exact .nil
  | cons v vs ih =>
    cases h with
    | cons hv h => exact .cons hv (ih h)

theorem TwinItems.of_forall₂ (h : List.Forall₂ (Twin ν r.item) vs ws) : TwinItems ν r vs ws := by
  induction h with
  | nil => exact .nil r
  | cons hv _ ih => exact .cons hv ih

theorem TwinMembers.forall₂ (h : TwinMembers ν r ms ns) :
    List.Forall₂ (fun m n => m.1 = n.1 ∧ Twin ν (r.member m.1) m.2 n.2) ms ns := by
  induction ms generalizing ns with
  | nil =>
    cases h
    exact .nil
  | cons m ms ih =>
    cases h with
    | cons hv h => exact .cons ⟨rfl, hv⟩ (ih h)

theorem TwinMembers.of_forall₂
    (h : List.Forall₂ (fun m n => m.1 = n.1 ∧ Twin ν (r.member m.1) m.2 n.2) ms ns) :
    TwinMembers ν r ms ns := by
  induction h with
  | nil => exact .nil r
  | @cons m n ms ns hm _ ih =>
    obtain ⟨key, v⟩ := m
    obtain ⟨key', w⟩ := n
    obtain ⟨hkey, hv⟩ := hm
    dsimp only at hkey
    subst hkey
    exact .cons hv ih

/-! ### What is no schema can stand for anything -/

mutual

/-- Twins without a role are twins in every role. -/
theorem Twin.of_plain (r : Role) {v w : Value} (h : Twin ν .plain v w) : Twin ν r v w := by
  cases v with
  | scalar s =>
    cases h
    exact .scalar r s
  | list vs =>
    cases h with
    | list h => exact .list (TwinItems.of_plain r h)
  | object n ms =>
    cases h with
    | object hn h => exact .object hn (TwinMembers.of_plain r h)
  | set ks =>
    cases h
    exact .set r ks
  | pair k v =>
    cases h with
    | pair hk hv => exact .pair (Twin.of_plain _ hk) (Twin.of_plain _ hv)
  | again n =>
    cases h
    exact .again r n

theorem TwinItems.of_plain (r : Role) {vs ws : List Value} (h : TwinItems ν .plain vs ws) :
    TwinItems ν r vs ws := by
  cases vs with
  | nil =>
    cases h
    exact .nil r
  | cons v vs =>
    cases h with
    | cons hv h => exact .cons (Twin.of_plain _ hv) (TwinItems.of_plain r h)

theorem TwinMembers.of_plain (r : Role) {ms ns : Members} (h : TwinMembers ν .plain ms ns) :
    TwinMembers ν r ms ns := by
  cases ms with
  | nil =>
    cases h
    exact .nil r
  | cons m ms =>
    cases h with
    | cons hv h => exact .cons (Twin.of_plain _ hv) (TwinMembers.of_plain r h)

end

/-! ### What is seen of twins -/

theorem Twin.isObject_eq (h : Twin ν r v w) : v.isObject = w.isObject := by
  cases h <;> rfl

theorem Twin.isNull_eq (h : Twin ν r v w) : v.isNull = w.isNull := by
  cases h <;> rfl

theorem Twin.text?_eq (h : Twin ν r v w) (hr : r ≠ .reference) : v.text? = w.text? := by
  cases h with
  | reference _ => exact absurd rfl hr
  | _ => rfl

theorem Twin.isGiven_eq (h : Twin ν r v w) (hr : r ≠ .reference) : v.isGiven = w.isGiven := by
  cases h with
  | reference _ => exact absurd rfl hr
  | list h => cases h <;> rfl
  | object _ h => cases h <;> rfl
  | _ => rfl

/-- What does not count as given is left out of both. -/
theorem rel_filter_isGiven (hr : r ≠ .reference) {x y : Option Value}
    (h : Option.Rel (Twin ν r) x y) :
    Option.Rel (Twin ν r) (x.filter (·.isGiven)) (y.filter (·.isGiven)) := by
  cases h with
  | none => exact .none
  | @some v w h =>
    rw [Option.filter_some, Option.filter_some, h.isGiven_eq hr]
    split
    · exact .some h
    · exact .none

/-- A key finds twins in the members of twins. -/
theorem TwinMembers.getText? (key : String) (h : TwinMembers ν r ms ns) :
    Option.Rel (Twin ν (r.member (.text key))) (Members.getText? ms key)
      (Members.getText? ns key) := by
  refine rel_map_option (rel_find? h.forall₂ fun m n hmn => by rw [hmn.1]) ?_
  rintro ⟨k, v⟩ ⟨l, w⟩ ⟨⟨-, hv⟩, hkey⟩
  obtain rfl : k = .text key := by
    cases k with
    | text s => exact congrArg Scalar.text (beq_iff_eq.1 hkey)
    | _ => cases hkey
  exact hv

theorem Twin.member? (key : String) (h : Twin ν r v w) :
    Option.Rel (Twin ν (r.member (.text key))) (v.member? key) (w.member? key) := by
  cases h with
  | object _ h => exact h.getText? key
  | _ => exact .none

theorem Twin.memberOrNull (key : String) (h : Twin ν r v w) :
    Twin ν (r.member (.text key)) (v.memberOrNull key) (w.memberOrNull key) := by
  have hmember := h.member? key
  unfold Value.memberOrNull
  generalize v.member? key = m at hmember ⊢
  generalize w.member? key = n at hmember ⊢
  cases hmember with
  | some h => exact h
  | none => exact .scalar _ _

/-- Scalars are their own twins. -/
theorem forall₂_scalar (r : Role) (ks : List Scalar) :
    List.Forall₂ (Twin ν r) (ks.map .scalar) (ks.map .scalar) :=
  List.forall₂_map_left_iff.2 (List.forall₂_map_right_iff.2
    (List.forall₂_same.2 fun s _ => .scalar r s))

/-- Twins have the same number of parts, and these are twins. -/
theorem Twin.parts? (h : Twin ν r v w) (hr : r ≠ .reference) :
    Option.Rel (List.Forall₂ (Twin ν r.item)) v.parts? w.parts? := by
  cases h with
  | reference _ => exact absurd rfl hr
  | scalar _ s =>
    cases s with
    | text s =>
      have h : List.Forall₂ (Twin ν r.item) _ _ :=
        forall₂_scalar r.item (s.toList.map fun c => Scalar.text (.singleton c))
      rw [List.map_map] at h
      exact .some h
    | bytes data =>
      have h : List.Forall₂ (Twin ν r.item) _ _ :=
        forall₂_scalar r.item (data.map fun b => Scalar.int b.toNat)
      rw [List.map_map] at h
      exact .some h
    | _ => exact .none
  | list h => exact .some h.forall₂
  | @object _ _ _ ms ns _ h =>
    -- the parts of an object are its keys, and these are the same
    have hkeys : ms.map (·.1) = ns.map (·.1) := by
      rw [← List.forall₂_eq_eq_eq, List.forall₂_map_left_iff, List.forall₂_map_right_iff]
      exact h.forall₂.imp fun _ _ hmn => hmn.1
    have h : List.Forall₂ (Twin ν r.item) _ _ := forall₂_scalar r.item (ms.map (·.1))
    nth_rewrite 2 [hkeys] at h
    rw [List.map_map, List.map_map] at h
    exact .some h
  | set _ ks => exact .some (forall₂_scalar r.item ks)
  | pair hk hv => exact .some (.cons hk (.cons hv .nil))
  | again _ _ => exact .none

theorem Twin.parts (h : Twin ν r v w) (hr : r ≠ .reference) :
    Concur (List.Forall₂ (Twin ν r.item)) v.parts w.parts := by
  have hparts := h.parts? hr
  unfold Value.parts
  generalize v.parts? = x at hparts ⊢
  generalize w.parts? = y at hparts ⊢
  cases hparts with
  | some h => exact .ok h
  | none => exact .fault _ _

/-! ### What a schema says -/

/-- Twins state the same type. -/
theorem Twin.schemaType (h : Twin ν .schema v w) : Twin ν .plain v.schemaType w.schemaType := by
  have htype : Twin ν .plain _ _ := h.memberOrNull "type"
  unfold Value.schemaType
  generalize v.memberOrNull "type" = t at htype ⊢
  generalize w.memberOrNull "type" = u at htype ⊢
  cases htype with
  | list h =>
    have hfind := rel_find? (p := fun t => t.text? != some "null")
      (q := fun t => t.text? != some "null") h.forall₂ fun t u htu => by
        rw [htu.text?_eq (by decide)]
    dsimp only
    generalize List.find? _ _ = x at hfind ⊢
    generalize List.find? _ _ = y at hfind ⊢
    cases hfind with
    | some h => exact h.1
    | none => exact .scalar _ _
  | scalar _ s => exact .scalar _ s
  | object hn h => exact .object hn h
  | set _ ks => exact .set _ ks
  | pair hk hv => exact .pair hk hv
  | again _ n => exact .again _ n

theorem Twin.hasType_eq (h : Twin ν .schema v w) (name : String) :
    v.hasType name = w.hasType name := by
  rw [Value.hasType, Value.hasType, h.schemaType.text?_eq (by decide)]

theorem Twin.hasNoType_eq (h : Twin ν .schema v w) : v.hasNoType = w.hasNoType :=
  h.schemaType.isNull_eq

theorem Twin.format?_eq (h : Twin ν .schema v w) : v.format? = w.format? :=
  (h.memberOrNull "format").text?_eq (by decide)

theorem Twin.listsValues_eq (h : Twin ν .schema v w) : v.listsValues = w.listsValues := by
  rw [Value.listsValues, Value.listsValues, h.isObject_eq,
    (h.memberOrNull "enum").isGiven_eq (by decide)]

theorem Twin.isEnumSchema_eq (h : Twin ν .schema v w) : v.isEnumSchema = w.isEnumSchema := by
  rw [Value.isEnumSchema, Value.isEnumSchema, h.listsValues_eq, h.hasNoType_eq,
    h.hasType_eq, h.hasType_eq]

theorem Twin.isDeclared_eq (h : Twin ν .schema v w) : v.isDeclared = w.isDeclared := by
  rw [Value.isDeclared, Value.isDeclared, h.listsValues_eq, h.isEnumSchema_eq]

theorem Twin.isNullable_eq (h : Twin ν .schema v w) :
    Schema.isNullable v = Schema.isNullable w := by
  rw [Schema.isNullable, Schema.isNullable, h.isObject_eq,
    (h.memberOrNull "nullable").isGiven_eq (by decide)]

/-! ### How much there is of twins -/

mutual

/-- Twins hold the same number of objects. -/
theorem Twin.countObjects_eq {r : Role} {v w : Value} (h : Twin ν r v w) :
    v.countObjects = w.countObjects := by
  cases v with
  | list vs =>
    cases h with
    | list h => exact TwinItems.countObjects_eq h
  | object n ms =>
    cases h with
    | object _ h => exact congrArg (· + 1) (TwinMembers.countObjects_eq h)
  | pair k v =>
    cases h with
    | pair hk hv => exact congrArg₂ (· + ·) (Twin.countObjects_eq hk) (Twin.countObjects_eq hv)
  | _ => cases h <;> rfl

theorem TwinItems.countObjects_eq {r : Role} {vs ws : List Value} (h : TwinItems ν r vs ws) :
    countObjectsInItems vs = countObjectsInItems ws := by
  cases vs with
  | nil =>
    cases h
    rfl
  | cons v vs =>
    cases h with
    | cons hv h => exact congrArg₂ (· + ·) (Twin.countObjects_eq hv) (TwinItems.countObjects_eq h)

theorem TwinMembers.countObjects_eq {r : Role} {ms ns : Members} (h : TwinMembers ν r ms ns) :
    countObjectsInMembers ms = countObjectsInMembers ns := by
  cases ms with
  | nil =>
    cases h
    rfl
  | cons m ms =>
    cases h with
    | cons hv h =>
      exact congrArg₂ (· + ·) (Twin.countObjects_eq hv) (TwinMembers.countObjects_eq h)

end

/-! ### What is written out -/

mutual

/-- What is no schema is written out like its twin. -/
theorem Twin.literal_eq {v w : Value} (h : Twin ν .plain v w) : v.literal = w.literal := by
  cases v with
  | list vs =>
    cases h with
    | list h => rw [literal, literal, TwinItems.literals_eq h]
  | object n ms =>
    cases h with
    | object _ h => rw [literal, literal, TwinMembers.literals_eq h]
  | pair k v =>
    cases h with
    | pair hk hv => rw [literal, literal, Twin.literal_eq hk, Twin.literal_eq hv]
  | _ =>
    cases h
    rfl

theorem TwinItems.literals_eq {vs ws : List Value} (h : TwinItems ν .plain vs ws) :
    literals vs = literals ws := by
  cases vs with
  | nil =>
    cases h
    rfl
  | cons v vs =>
    cases h with
    | cons hv h => rw [literals, literals, Twin.literal_eq hv, TwinItems.literals_eq h]

theorem TwinMembers.literals_eq {ms ns : Members} (h : TwinMembers ν .plain ms ns) :
    memberLiterals ms = memberLiterals ns := by
  cases ms with
  | nil =>
    cases h
    rfl
  | cons m ms =>
    cases h with
    | cons hv h =>
      rw [memberLiterals, memberLiterals, Twin.literal_eq hv, TwinMembers.literals_eq h]

end

mutual

/-- What can be written out can be so in any twin. -/
theorem Twin.isWritable_eq {r : Role} {v w : Value} (h : Twin ν r v w) :
    v.isWritable = w.isWritable := by
  cases v with
  | list vs =>
    cases h with
    | list h => exact TwinItems.areWritable_eq h
  | object n ms =>
    cases h with
    | object _ h => exact TwinMembers.areWritable_eq h
  | pair k v =>
    cases h with
    | pair hk hv => exact congrArg₂ (· && ·) (Twin.isWritable_eq hk) (Twin.isWritable_eq hv)
  | _ => cases h <;> rfl

theorem TwinItems.areWritable_eq {r : Role} {vs ws : List Value} (h : TwinItems ν r vs ws) :
    areWritable vs = areWritable ws := by
  cases vs with
  | nil =>
    cases h
    rfl
  | cons v vs =>
    cases h with
    | cons hv h => exact congrArg₂ (· && ·) (Twin.isWritable_eq hv) (TwinItems.areWritable_eq h)

theorem TwinMembers.areWritable_eq {r : Role} {ms ns : Members} (h : TwinMembers ν r ms ns) :
    membersAreWritable ms = membersAreWritable ns := by
  cases ms with
  | nil =>
    cases h
    rfl
  | cons m ms =>
    cases h with
    | @cons _ key _ _ _ _ hv h =>
      exact congrArg₂ (fun a b => key.isWritable && a && b) (Twin.isWritable_eq hv)
        (TwinMembers.areWritable_eq h)

end

theorem Twin.display_eq (h : Twin ν .plain v w) : v.display = w.display := by
  have hliteral := h.literal_eq
  cases h with
  | scalar _ s => rfl
  | _ => exact hliteral

/-- A text that is checked is the same text in a twin, or the same fault. -/
theorem Twin.text_eq (h : Twin ν .plain v w) : Validation.text v = Validation.text w := by
  have hexhibit : Validation.Exhibit.ofValue v = .ofValue w := by
    have hkind : v.kind = w.kind := by cases h <;> rfl
    rw [Validation.Exhibit.ofValue, Validation.Exhibit.ofValue, h.isWritable_eq, h.literal_eq,
      hkind]
  cases h with
  | scalar _ s => rfl
  | _ => exact congrArg (fun x => Validation.Checked.faults ⟨[], .notText, x⟩ []) hexhibit

/-! ### Tables of schemas -/

theorem TwinMembers.insert (key : Scalar) (h : TwinMembers ν .table ms ns)
    (hv : Twin ν .schema v w) :
    TwinMembers ν .table (Members.insert ms key v) (Members.insert ns key w) := by
  induction ms generalizing ns with
  | nil =>
    cases h
    exact .cons hv (.nil _)
  | cons m ms ih =>
    cases h with
    | @cons _ k _ _ _ _ hm h =>
      rw [Members.insert, Members.insert]
      by_cases hk : k.same key
      · rw [if_pos hk, if_pos hk]
        exact .cons hv h
      · rw [if_neg hk, if_neg hk]
        exact .cons hm (ih h)

theorem TwinMembers.update {extra extra' : Members} (h : TwinMembers ν .table ms ns)
    (hextra : TwinMembers ν .table extra extra') :
    TwinMembers ν .table (Members.update ms extra) (Members.update ns extra') := by
  unfold Members.update
  induction extra generalizing ms ns extra' with
  | nil =>
    cases hextra
    exact h
  | cons m extra ih =>
    cases hextra with
    | cons hv hextra =>
      rw [List.foldl_cons, List.foldl_cons]
      exact ih (h.insert _ hv) hextra

/-- A table may be given as pairs; then its schemas are none to whoever respells references. -/
theorem Twin.asPair (h : Twin ν .plain v w) (i : Nat) :
    Concur (fun m n => m.1 = n.1 ∧ Twin ν .plain m.2 n.2) (v.asPair i) (w.asPair i) := by
  refine (h.parts (by decide)).bind fun us us' hus => ?_
  cases hus with
  | nil => exact .fault _ _
  | cons hk hus =>
    cases hus with
    | nil => exact .fault _ _
    | cons hv hus =>
      cases hus with
      | cons _ _ => exact .fault _ _
      | nil =>
        cases hk with
        | scalar _ s => exact .ok ⟨rfl, hv⟩
        | _ => exact .fault _ _

theorem TwinItems.asPairs (h : TwinItems ν .plain vs ws) (i : Nat) :
    Concur (TwinMembers ν .table) (asPairs i vs) (asPairs i ws) := by
  induction vs generalizing ws i with
  | nil =>
    cases h
    exact .ok (.nil _)
  | cons v vs ih =>
    cases h with
    | cons hv h =>
      rw [Value.asPairs, Value.asPairs]
      refine (Twin.asPair hv i).bind fun m n hmn => ?_
      refine (ih h (i + 1)).bind fun ms ns hms => .ok ?_
      obtain ⟨key, v⟩ := m
      obtain ⟨key', w⟩ := n
      obtain ⟨hkey, hv⟩ := hmn
      dsimp only at hkey
      subst hkey
      exact .cons (hv.of_plain _) hms

/-- The members of twins, if they have members, are twins. -/
theorem Twin.asMembers (h : Twin ν .table v w) :
    Concur (TwinMembers ν .table) v.asMembers w.asMembers := by
  have hpairs : Concur (TwinMembers ν .table)
      (do return Members.ofList (← Value.asPairs 0 (← v.parts)))
      (do return Members.ofList (← Value.asPairs 0 (← w.parts))) := by
    refine (h.parts (by decide)).bind fun vs ws hvs => ?_
    refine (TwinItems.asPairs (.of_forall₂ hvs) 0).bind fun ms ns hms => .ok ?_
    exact (TwinMembers.nil .table).update hms
  cases h with
  | object _ h => exact .ok h
  | _ => exact hpairs

theorem rel_membersOrNone {x y : Option Value} (h : Option.Rel (Twin ν .table) x y) :
    Concur (TwinMembers ν .table) (membersOrNone x) (membersOrNone y) := by
  cases h with
  | none => exact .ok (.nil _)
  | @some v w h =>
    rw [membersOrNone, membersOrNone, ← h.isGiven_eq (by decide)]
    cases v.isGiven with
    | true => exact h.asMembers
    | false => exact .ok (.nil _)

end Twins

end Value

end OpenApiClient
