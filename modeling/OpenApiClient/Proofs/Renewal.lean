/-
Documents of the older form in the newer one.

`renewed` translates a document of the older form: the named schemas move, references to them
are respelled, a parameter says its type in a schema, the body moves out of the parameters, the
schemas of bodies and responses become those of a media type, and form fields are left out.  A
part that does not have the shape that it has in such a document is left as it is, so that a fault
stays one.  New objects have an arbitrary number: whoever reads the document gives them new ones.

What makes a document one of the older form is collected in `IsOlder`.  The schemas may hold
references, and whatever the document says besides may be one as well; but the parts that are read
have to be `InPlace`, since a reference can lead to a place that the translation moves.
-/
import OpenApiClient.Document.Reader
import OpenApiClient.Proofs.Respelling

set_option autoImplicit false

namespace OpenApiClient.Document

open Value (respelled)

/-! ## Moving members -/

theorem getText?_append (ms ns : Members) (key : String) :
    Members.getText? (ms ++ ns) key
      = (Members.getText? ms key).or (Members.getText? ns key) := by
  unfold Members.getText?
  rw [List.find?_append, Option.map_or]

/-- What stands under a key when every value is changed. -/
theorem getText?_map (f : Scalar → Value → Value) (ms : Members) (key : String) :
    Members.getText? (ms.map fun m => (m.1, f m.1 m.2)) key
      = (Members.getText? ms key).map (f (.text key)) := by
  unfold Members.getText?
  rw [List.find?_map, Option.map_map, Option.map_map]
  refine Option.map_congr fun m hm => ?_
  have hkey : m.1.isText key = true := by simpa using List.find?_some hm
  exact congrArg (f · m.2) (Scalar.eq_text_of_isText hkey)

/-- What is a reference stays one, if its text stays. -/
theorem reference?_map {f : Scalar → Value → Value} (k : Nat) (ms : Members)
    (h : ∀ v, (f (.text "$ref") v).text? = v.text?) :
    (Value.object k (ms.map fun m => (m.1, f m.1 m.2))).reference?
      = (Value.object k ms).reference? := by
  have href := congrArg (·.bind Value.text?) (getText?_map f ms "$ref")
  refine href.trans ?_
  show ((Members.getText? ms "$ref").map _).bind _ = (Members.getText? ms "$ref").bind _
  cases Members.getText? ms "$ref" with
  | none => rfl
  | some v => exact h v

/-- Members in which what stands under one key stands under another one, changed. -/
def moved (old new : String) (f : Value → Value) (ms : Members) : Members :=
  ms.map fun m => if m.1.isText old then (.text new, f m.2) else m

/-- What stands under a new key is what stood under the old one, if nothing else was there. -/
theorem getText?_moved {old new : String} (f : Value → Value) {ms : Members}
    (h : old = new ∨ Members.getText? ms new = none) :
    Members.getText? (moved old new f ms) new = (Members.getText? ms old).map f := by
  unfold Members.getText? moved at *
  induction ms with
  | nil => rfl
  | cons m ms ih =>
    rw [List.map_cons, List.find?_cons, List.find?_cons]
    -- the first member with the old name is the one that is found under the new name
    cases hold : m.1.isText old with
    | true => simp [Scalar.isText]
    | false =>
      have hnew : m.1.isText new = false ∧
          (old = new ∨ (List.find? (fun m => m.1.isText new) ms).map (·.2) = none) := by
        rcases h with rfl | h
        · exact ⟨hold, .inl rfl⟩
        · rw [List.find?_cons] at h
          cases hnew : m.1.isText new with
          | true =>
            rw [hnew] at h
            cases h
          | false =>
            rw [hnew] at h
            exact ⟨rfl, .inr h⟩
      simp only [Bool.false_eq_true, if_false, hnew.1]
      exact ih hnew.2

/-- What stands under other keys stays. -/
theorem getText?_moved_of_ne {old new key : String} (f : Value → Value) (ms : Members)
    (hold : key ≠ old) (hnew : key ≠ new) :
    Members.getText? (moved old new f ms) key = Members.getText? ms key := by
  unfold Members.getText? moved
  induction ms with
  | nil => rfl
  | cons m ms ih =>
    rw [List.map_cons, List.find?_cons, List.find?_cons]
    cases hm : m.1.isText old with
    | true =>
      obtain ⟨k, v⟩ := m
      cases k with
      | text s =>
        obtain rfl : s = old := beq_iff_eq.1 hm
        have h₁ : (Scalar.text s).isText key = false := beq_eq_false_iff_ne.2 hold.symm
        have h₂ : (Scalar.text new).isText key = false := beq_eq_false_iff_ne.2 hnew.symm
        simp only [if_true, h₁, h₂]
        exact ih
      | _ => cases hm
    | false =>
      simp only [Bool.false_eq_true, if_false]
      cases m.1.isText key with
      | true => rfl
      | false => exact ih

/-- Nothing is left under the old key. -/
theorem getText?_moved_old {old new : String} (f : Value → Value) (ms : Members)
    (h : old ≠ new) : Members.getText? (moved old new f ms) old = none := by
  unfold Members.getText? moved
  rw [Option.map_eq_none_iff, List.find?_eq_none]
  intro m hm
  obtain ⟨m, -, rfl⟩ := List.mem_map.1 hm
  cases hold : m.1.isText old with
  | true =>
    rw [if_pos rfl]
    exact fun heq => h (beq_iff_eq.1 heq).symm
  | false => simp [hold]

/-! ## Parameters -/

/-- Whether a parameter says that it stands in this location. -/
def isIn (location : String) (p : Value) : Bool :=
  (p.member? "in").bind Value.text? == some location

/-- Whether a parameter is neither a body nor a form field. -/
def isProper (p : Value) : Bool := !isIn "body" p && !isIn "formData" p

/-- The members that say the type of a parameter, as those of a schema. -/
def typeIn (ms : Members) : Members :=
  typeMembers.filterMap fun key => (Members.getText? ms key).map fun v =>
    (.text key, respelled (Role.member .schema (.text key)) v)

/-- Whether a member says the type of a parameter. -/
def saysType (m : Scalar × Value) : Bool := typeMembers.any m.1.isText

/-- The members of a parameter that says its type in a schema. -/
def membersWithSchema (fresh : Nat) (ms : Members) : Members :=
  ms.filter (!saysType ·) ++ [(.text "schema", .object fresh (typeIn ms))]

/-- What is neither the schema nor one of the members that go into it stays. -/
theorem getText?_membersWithSchema (fresh : Nat) (ms : Members) {key : String}
    (htype : key ∉ typeMembers) (hschema : key ≠ "schema") :
    Members.getText? (membersWithSchema fresh ms) key = Members.getText? ms key := by
  -- a member with this key is not about the type, so it is not moved
  have hstays : (fun m : Scalar × Value => decide ((!saysType m) = true ∧ m.1.isText key = true))
      = fun m => m.1.isText key := by
    funext m
    rw [Bool.decide_and, Bool.decide_eq_true, Bool.decide_eq_true]
    cases hm : m.1.isText key with
    | false => exact Bool.and_false _
    | true =>
      have hnot : saysType m = false := by
        rw [saysType, List.any_eq_false]
        intro name hname hname'
        rw [Scalar.eq_text_of_isText hm] at hname'
        exact htype (beq_iff_eq.1 hname' ▸ hname)
      rw [hnot]
      rfl
  have hfilter : Members.getText? (ms.filter (!saysType ·)) key = Members.getText? ms key := by
    unfold Members.getText?
    rw [List.find?_filter, hstays]
  have hnone : Members.getText? [(.text "schema", .object fresh (typeIn ms))] key = none := by
    have hkey : (Scalar.text "schema").isText key = false := beq_eq_false_iff_ne.2 hschema.symm
    unfold Members.getText?
    rw [List.find?_singleton, hkey]
    rfl
  rw [membersWithSchema, getText?_append, hfilter, hnone, Option.or_none]

theorem getText?_membersWithSchema_schema (fresh : Nat) {ms : Members}
    (h : Members.getText? ms "schema" = none) :
    Members.getText? (membersWithSchema fresh ms) "schema" = some (.object fresh (typeIn ms)) := by
  have hfilter : Members.getText? (ms.filter (!saysType ·)) "schema" = none := by
    unfold Members.getText? at h ⊢
    rw [Option.map_eq_none_iff, List.find?_eq_none] at h ⊢
    exact fun m hm => h m (List.mem_of_mem_filter hm)
  rw [membersWithSchema, getText?_append, hfilter, Option.none_or]
  rfl

/-- A parameter that says its type in a schema. -/
def renewedParameter (fresh : Nat) : Value → Value
  | .object n ms => .object n (membersWithSchema fresh ms)
  | v => v

/-- The items of a list of parameters.  The two halves of an entry count as items too. -/
def items? : Value → Option (List Value)
  | .list vs => some vs
  | .pair k v => some [k, v]
  | _ => none

/-- The parameters proper of a list of parameters. -/
def renewedParameters (fresh : Nat) (v : Value) : Value :=
  match items? v with
  | some ps => .list ((ps.filter isProper).map (renewedParameter fresh))
  | none => v

/-! ## Bodies and responses -/

/-- A content with one schema. -/
def contentOf (fresh : Nat) (schema : Value) : Value :=
  .object fresh [(.text "application/json",
    .object fresh [(.text "schema", respelled .schema schema)])]

/-- A response whose schema is that of a media type. -/
def renewedResponse (fresh : Nat) : Value → Value
  | .object n ms => .object n (moved "schema" "content" (contentOf fresh) ms)
  | v => v

/-- Responses whose schemas are those of a media type. -/
def renewedResponses (fresh : Nat) : Value → Value
  | .object n ms => .object n (ms.map fun m => (m.1, renewedResponse fresh m.2))
  | v => v

/-- The parameters of an operation or of a path. -/
def parametersIn (v : Value) : List Value := ((v.member? "parameters").bind items?).getD []

/-- The schema of the body among some parameters. -/
def bodySchema? (ps : List Value) : Option Value :=
  (ps.find? (isIn "body")).bind (·.member? "schema")

/-- The body of an operation, if it has one among its parameters. -/
def bodyMember (fresh : Nat) (ps : List Value) : Members :=
  (bodySchema? ps).toList.map fun schema =>
    (.text "requestBody", .object fresh [(.text "content", contentOf fresh schema)])

/-! ## Documents -/

/-- What stands under a key of an operation, in the newer form. -/
def renewedPart (fresh : Nat) (key : Scalar) (v : Value) : Value :=
  if key.isText "parameters" then renewedParameters fresh v
  else if key.isText "responses" then renewedResponses fresh v
  else v

/-- The members of an operation in the newer form. -/
def operationMembers (fresh : Nat) (ms : Members) : Members :=
  ms.map (fun m => (m.1, renewedPart fresh m.1 m.2))
    ++ bodyMember fresh (((Members.getText? ms "parameters").bind items?).getD [])

theorem getText?_operationMembers (fresh : Nat) (ms : Members) {key : String}
    (h : key ≠ "requestBody") :
    Members.getText? (operationMembers fresh ms) key
      = (Members.getText? ms key).map (renewedPart fresh (.text key)) := by
  have hnone : ∀ ps, Members.getText? (bodyMember fresh ps) key = none := by
    intro ps
    unfold Members.getText? bodyMember
    rw [Option.map_eq_none_iff, List.find?_eq_none]
    intro m hm
    obtain ⟨schema, -, rfl⟩ := List.mem_map.1 hm
    exact fun hkey => h (beq_iff_eq.1 hkey).symm
  rw [operationMembers, getText?_append, getText?_map, hnone, Option.or_none]

/-- What has nothing to do with parameters, bodies and responses stays. -/
theorem getText?_operationMembers_of_ne (fresh : Nat) (ms : Members) {key : String}
    (hbody : key ≠ "requestBody") (hparameters : key ≠ "parameters")
    (hresponses : key ≠ "responses") :
    Members.getText? (operationMembers fresh ms) key = Members.getText? ms key := by
  have hpart : renewedPart fresh (.text key) = id := by
    funext v
    have h₁ : (Scalar.text key).isText "parameters" = false := beq_eq_false_iff_ne.2 hparameters
    have h₂ : (Scalar.text key).isText "responses" = false := beq_eq_false_iff_ne.2 hresponses
    rw [renewedPart, h₁, h₂]
    rfl
  rw [getText?_operationMembers fresh ms hbody, hpart, Option.map_id_fun, id]

theorem getText?_operationMembers_body (fresh : Nat) {ms : Members}
    (h : Members.getText? ms "requestBody" = none) :
    Members.getText? (operationMembers fresh ms) "requestBody"
      = (bodySchema? (((Members.getText? ms "parameters").bind items?).getD [])).map fun schema =>
          .object fresh [(.text "content", contentOf fresh schema)] := by
  rw [operationMembers, getText?_append, getText?_map, h, Option.map_none, Option.none_or,
    bodyMember]
  cases bodySchema? _ <;> rfl

/-- An operation in the newer form. -/
def renewedOperation (fresh : Nat) : Value → Value
  | .object n ms => .object n (operationMembers fresh ms)
  | v => v

/-- What stands under a key of a path item, in the newer form. -/
def renewedField (fresh : Nat) (key : Scalar) (v : Value) : Value :=
  match key with
  | .text k =>
    if k = "parameters" then renewedParameters fresh v
    else if (Verb.ofName? k).isSome then renewedOperation fresh v
    else v
  | _ => v

/-- A path item in the newer form. -/
def renewedItem (fresh : Nat) : Value → Value
  | .object n ms => .object n (ms.map fun m => (m.1, renewedField fresh m.1 m.2))
  | v => v

/-- Paths in the newer form. -/
def renewedPaths (fresh : Nat) : Value → Value
  | .object n ms => .object n (ms.map fun m => (m.1, renewedItem fresh m.2))
  | v => v

/-- The table of named schemas in the newer form. -/
def componentsOf (fresh : Nat) (v : Value) : Value :=
  .object fresh [(.text "schemas", respelled .table v)]

/-- The members of a document in the newer form. -/
def documentMembers (fresh : Nat) (ms : Members) : Members :=
  moved "swagger" "openapi" (fun _ => .text "3.0.0")
    (moved "definitions" "components" (componentsOf fresh)
      (moved "paths" "paths" (renewedPaths fresh) ms))

/-- A document of the older form in the newer one. -/
def renewed (fresh : Nat) : Value → Value
  | .object n ms => .object n (documentMembers fresh ms)
  | v => v

section DocumentMembers

variable (fresh : Nat) (ms : Members)

/-- What is neither moved nor renewed stays. -/
theorem getText?_documentMembers {key : String}
    (h : key ∉ ["swagger", "openapi", "definitions", "components", "paths"]) :
    Members.getText? (documentMembers fresh ms) key = Members.getText? ms key := by
  simp only [List.mem_cons, List.not_mem_nil, or_false, not_or] at h
  obtain ⟨hswagger, hopenapi, hdefinitions, hcomponents, hpaths⟩ := h
  rw [documentMembers, getText?_moved_of_ne _ _ hswagger hopenapi,
    getText?_moved_of_ne _ _ hdefinitions hcomponents, getText?_moved_of_ne _ _ hpaths hpaths]

theorem getText?_documentMembers_paths :
    Members.getText? (documentMembers fresh ms) "paths"
      = (Members.getText? ms "paths").map (renewedPaths fresh) := by
  rw [documentMembers, getText?_moved_of_ne _ _ (by decide) (by decide),
    getText?_moved_of_ne _ _ (by decide) (by decide), getText?_moved _ (.inl rfl)]

theorem getText?_documentMembers_openapi (h : Members.getText? ms "openapi" = none) :
    Members.getText? (documentMembers fresh ms) "openapi"
      = (Members.getText? ms "swagger").map fun _ => .text "3.0.0" := by
  have hstays : ∀ key ∈ ["swagger", "openapi"], Members.getText?
      (moved "definitions" "components" (componentsOf fresh)
        (moved "paths" "paths" (renewedPaths fresh) ms)) key = Members.getText? ms key := by
    intro key hkey
    rw [getText?_moved_of_ne _ _, getText?_moved_of_ne _ _]
    all_goals
      rintro rfl
      exact absurd hkey (by decide)
  rw [documentMembers, getText?_moved, hstays "swagger" (by decide)]
  exact .inr ((hstays "openapi" (by decide)).trans h)

theorem getText?_documentMembers_components (h : Members.getText? ms "components" = none) :
    Members.getText? (documentMembers fresh ms) "components"
      = (Members.getText? ms "definitions").map (componentsOf fresh) := by
  rw [documentMembers, getText?_moved_of_ne _ _ (by decide) (by decide), getText?_moved,
    getText?_moved_of_ne _ _ (by decide) (by decide)]
  rw [getText?_moved_of_ne _ _ (by decide) (by decide)]
  exact .inr h

theorem getText?_documentMembers_definitions :
    Members.getText? (documentMembers fresh ms) "definitions" = none := by
  rw [documentMembers, getText?_moved_of_ne _ _ (by decide) (by decide),
    getText?_moved_old _ _ (by decide)]

end DocumentMembers

/-! ## The older form -/

/-- The values of an object that may be left out. -/
def valuesIn (v : Option Value) : List Value := ((v.bind Value.members?).getD []).map (·.2)

/-- The path items of a document. -/
def itemsIn (raw : Value) : List Value := valuesIn (raw.member? "paths")

/-- The operations of a path item. -/
def operationsIn (item : Value) : List Value :=
  (item.members?.getD []).filterMap fun m =>
    match m.1 with
    | .text k => if (Verb.ofName? k).isSome then some m.2 else none
    | _ => none

/-- The responses of an operation. -/
def responsesIn (operation : Value) : List Value := valuesIn (operation.member? "responses")

/-- Only bodies have schemas, in the older form. -/
def HasOlderType (p : Value) : Prop := (p.member? "schema").isSome = isIn "body" p

instance (p : Value) : Decidable (HasOlderType p) := inferInstanceAs (Decidable (_ = _))

/-- An operation of the older form: it has one body at most, among its parameters, and
parameters and responses are given in place. -/
@[mk_iff]
structure IsOlderOperation (operation : Value) : Prop where
  noBody : operation.member? "requestBody" = none
  parameters : ∀ p ∈ parametersIn operation, p.reference? = none ∧ HasOlderType p
  bodies : ((parametersIn operation).filter (isIn "body")).length ≤ 1
  responses : ∀ r ∈ responsesIn operation, r.reference? = none ∧ r.member? "content" = none

instance (o : Value) : Decidable (IsOlderOperation o) :=
  decidable_of_iff' _ (isOlderOperation_iff o)

/-- A path item of the older form: the parameters that its operations share are no bodies. -/
@[mk_iff]
structure IsOlderItem (item : Value) : Prop where
  parameters : ∀ p ∈ parametersIn item,
    p.reference? = none ∧ isIn "body" p = false ∧ HasOlderType p
  operations : ∀ o ∈ operationsIn item, IsOlderOperation o

instance (item : Value) : Decidable (IsOlderItem item) := decidable_of_iff' _ (isOlderItem_iff item)

/-- A document of the older form. -/
@[mk_iff]
structure IsOlder (raw : Value) : Prop where
  version : (raw.member? "swagger").bind Value.text? = some "2.0"
  noVersion : raw.member? "openapi" = none
  noComponents : raw.member? "components" = none
  items : ∀ item ∈ itemsIn raw, IsOlderItem item

instance (raw : Value) : Decidable (IsOlder raw) := decidable_of_iff' _ (isOlder_iff raw)

/-! ## Places -/

/-- Under none of these keys stands a reference. -/
def Given (keys : List String) (v : Value) : Prop :=
  ∀ key ∈ keys, (v.member? key).all (·.reference?.isNone) = true

instance (keys : List String) (v : Value) : Decidable (Given keys v) :=
  inferInstanceAs (Decidable (∀ key ∈ keys, _ = true))

/-- A parameter whose identity is given in place.  A parameter that is left out has to have a
name that can be one: it is looked at in the older form only. -/
@[mk_iff]
structure ParameterInPlace (p : Value) : Prop where
  members : Given ["name", "in", "required"] p
  named : isProper p = false → (p.member? "name").all (·.spreadBytes.asKey.isOk) = true

instance (p : Value) : Decidable (ParameterInPlace p) :=
  decidable_of_iff' _ (parameterInPlace_iff p)

/-- An operation that is given in place, with the parts that are read of it. -/
@[mk_iff]
structure OperationInPlace (operation : Value) : Prop where
  itself : operation.reference? = none
  members : Given ["parameters", "deprecated", "tags", "responses"] operation
  parameters : ∀ p ∈ parametersIn operation, ParameterInPlace p

instance (o : Value) : Decidable (OperationInPlace o) :=
  decidable_of_iff' _ (operationInPlace_iff o)

/-- A path item that is given in place, with the parts that are read of it. -/
@[mk_iff]
structure ItemInPlace (item : Value) : Prop where
  itself : item.reference? = none
  members : Given ["parameters"] item
  parameters : ∀ p ∈ parametersIn item, ParameterInPlace p
  operations : ∀ o ∈ operationsIn item, OperationInPlace o

instance (item : Value) : Decidable (ItemInPlace item) := decidable_of_iff' _ (itemInPlace_iff item)

/-- A document in which all that is read outside of schemas is given in place. -/
@[mk_iff]
structure InPlace (raw : Value) : Prop where
  itself : raw.reference? = none
  members : Given ["paths"] raw
  items : ∀ item ∈ itemsIn raw, ItemInPlace item

instance (raw : Value) : Decidable (InPlace raw) := decidable_of_iff' _ (inPlace_iff raw)

/-- Whether a document can be gone through to its end. -/
def isFinite (raw : Value) : Bool := !(raw.holdsLoop || raw.isTooDeep)

end OpenApiClient.Document
