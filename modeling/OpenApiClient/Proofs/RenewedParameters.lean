/-
Parameters that are read from both forms.

A list of parameters of the older form holds a body and form fields besides the parameters
proper; in the newer form only these are left.  `Lines` goes through both lists of nodes at once.
Parameters with the same name and location are merged on the way, and since the location is a
part of what they have in common, merging never brings together one that is left out and one that
stays: `filter_addParameter`.  So what is gathered from the newer list is the proper part of what
is gathered from the older one (`Gathered`), and the bodies among the rest are those of the list.
-/
import OpenApiClient.Proofs.InPlace
import OpenApiClient.Proofs.TwinCode

set_option autoImplicit false

namespace OpenApiClient

/-- Numbers of objects do not count. -/
abbrev AnyNumbers : Nat → Nat → Prop := fun _ _ => True

namespace Document

open Reference (Node Library)
open Validation (Checked)
open Value (spreadMembers Twin TwinMembers respelled twin_respelled)

/-! ## Lists of parameters -/

/-- A parameter of the older form, given in place. -/
structure IsOlderParameter (p : Value) : Prop where
  itself : p.reference? = none
  typed : HasOlderType p
  place : ParameterInPlace p

/-- Nodes that show a list of parameters, and nodes that show the renewed list. -/
inductive Lines (fresh : Nat) : List Value → List Node → List Node → Prop where
  | nil : Lines fresh [] [] []
  | kept {p : Value} {n n' : Node} {ps : List Value} {ns ns' : List Node}
    (hp : IsOlderParameter p) (hproper : isProper p = true) (h : Shows p n)
    (h' : Shows (renewedParameter fresh p) n') (rest : Lines fresh ps ns ns') :
    Lines fresh (p :: ps) (n :: ns) (n' :: ns')
  | left {p : Value} {n : Node} {ps : List Value} {ns ns' : List Node}
    (hp : IsOlderParameter p) (hproper : isProper p = false) (h : Shows p n)
    (rest : Lines fresh ps ns ns') : Lines fresh (p :: ps) (n :: ns) ns'
  /-- What is gone through is no list, and its first part is no parameter in both. -/
  | broken {n n' : Node} {s s' : Scalar} (ps : List Value) (ns ns' : List Node)
    (h : n.value = .scalar s) (h' : n'.value = .scalar s') :
    Lines fresh ps (n :: ns) (n' :: ns')

theorem Lines.append {fresh : Nat} {ps qs : List Value} {ns ns' ms ms' : List Node}
    (h : Lines fresh ps ns ns') (hq : Lines fresh qs ms ms') :
    Lines fresh (ps ++ qs) (ns ++ ms) (ns' ++ ms') := by
  induction h with
  | nil => exact hq
  | kept hp hproper h h' _ ih => exact .kept hp hproper h h' ih
  | left hp hproper h _ ih => exact .left hp hproper h ih
  | broken ps ns ns' h h' => exact .broken _ _ _ h h'

theorem Lines.of_shows {fresh : Nat} {ps : List Value} {ns ns' : List Node}
    (hps : ∀ p ∈ ps, IsOlderParameter p) (h : List.Forall₂ Shows ps ns)
    (h' : List.Forall₂ Shows ((ps.filter isProper).map (renewedParameter fresh)) ns') :
    Lines fresh ps ns ns' := by
  induction h generalizing ns' with
  | nil =>
    cases h'
    exact .nil
  | @cons p n ps ns hp _ ih =>
    obtain ⟨hfirst, hrest⟩ := List.forall_mem_cons.1 hps
    cases hproper : isProper p with
    | true =>
      rw [List.filter_cons_of_pos hproper, List.map_cons] at h'
      cases h' with
      | cons hp' h' => exact .kept hfirst hproper hp hp' (ih hrest h')
    | false =>
      rw [List.filter_cons_of_neg (by rw [hproper]; exact Bool.false_ne_true)] at h'
      exact .left hfirst hproper hp (ih hrest h')

/-- What is no list has no parts but scalars. -/
theorem scalars_of_items? {v : Value} {vs : List Value} (h : items? v = none)
    (hparts : v.spreadBytes.parts? = some vs) : ∀ w ∈ vs, ∃ s, w = .scalar s := by
  by_cases hbytes : ∃ data, v = .scalar (.bytes data)
  · -- bytes are spread to a list, but its items are numbers
    obtain ⟨data, rfl⟩ := hbytes
    cases hparts
    exact fun _ => Value.exists_scalar_of_mem_map
  · rcases Value.parts?_cases hparts with hlist | ⟨k, w, hpair, -⟩ | ⟨-, -, hscalars⟩
    · cases v with
      | scalar s =>
        cases s with
        | bytes data => exact absurd ⟨data, rfl⟩ hbytes
        | _ => simp only [Value.spreadBytes, reduceCtorEq] at hlist
      | list items => cases h
      | pair k w => cases h
      | _ => simp only [Value.spreadBytes, reduceCtorEq] at hlist
    · cases v with
      | scalar s => cases s <;> simp only [Value.spreadBytes, reduceCtorEq] at hpair
      | _ => simp only [Value.spreadBytes, reduceCtorEq] at hpair
    · exact hscalars

/-- What is no list has the same parts in both, none of which is a parameter. -/
theorem Lines.of_scalars {fresh : Nat} {vs : List Value} {n n' : Node}
    (h : ∀ v ∈ vs, ∃ s, v = .scalar s) : Lines fresh [] (n.children vs) (n'.children vs) := by
  have hn := children_values n vs
  have hn' := children_values n' vs
  generalize n.children vs = ns at hn ⊢
  generalize n'.children vs = ns' at hn' ⊢
  cases hn with
  | nil =>
    cases hn'
    exact .nil
  | cons hv _ =>
    cases hn' with
    | cons hv' _ =>
      obtain ⟨s, hs⟩ := h _ List.mem_cons_self
      exact .broken _ _ _ (hv.trans hs) (hv'.trans hs)

/-- The parameters that a value gives are read as lines. -/
theorem reads_parameterNodes {fresh : Nat} {v : Value} {n n' : Node} (h : Shows v n)
    (h' : Shows (renewedParameters fresh v) n') (href : v.reference? = none)
    (hps : ∀ p ∈ (items? v).getD [], IsOlderParameter p) :
    Reads (Lines fresh ((items? v).getD [])) (partsOf n) (partsOf n') := by
  have hlist : ∀ {v : Value} {n : Node} {vs : List Value}, Shows v n → v.reference? = none →
      items? v = some vs → partsOf n = pure (n.children (vs.map Value.spreadBytes)) := by
    intro v n vs h href hitems
    unfold partsOf
    rw [settle_eq (h.reference?.trans href), pure_bind, h]
    cases v with
    | list items =>
      cases hitems
      rw [Value.spreadBytes, Reference.spreadItems_eq]
      rfl
    | pair k w =>
      cases hitems
      rfl
    | _ => cases hitems
  cases hitems : items? v with
  | some ps =>
    have hrenewed : renewedParameters fresh v
        = .list ((ps.filter isProper).map (renewedParameter fresh)) := by
      rw [renewedParameters, hitems]
    rw [hrenewed] at h'
    rw [hitems] at hps
    rw [hlist h href hitems, hlist h' rfl rfl]
    exact Tally.pure (.of_shows hps (shows_children n ps) (shows_children n' _))
  | none =>
    have hrenewed : renewedParameters fresh v = v := by rw [renewedParameters, hitems]
    rw [hrenewed] at h'
    unfold partsOf
    rw [settle_eq (h.reference?.trans href), settle_eq (h'.reference?.trans href), pure_bind,
      pure_bind, h, h']
    cases hparts : v.spreadBytes.parts? with
    | none => exact reads_misused _ _
    | some vs =>
      exact Tally.pure (.of_scalars (scalars_of_items? hitems hparts))

theorem reads_parametersOfOptional {fresh : Nat} {v : Option Value} {a a' : Option Node}
    (h : Option.Rel Shows v a) (h' : Option.Rel Shows (v.map (renewedParameters fresh)) a')
    (hplace : v.all (·.reference?.isNone) = true)
    (hps : ∀ p ∈ (v.bind items?).getD [], IsOlderParameter p) :
    Reads (Lines fresh ((v.bind items?).getD [])) (partsOfOptional a) (partsOfOptional a') := by
  cases h with
  | none =>
    cases h'
    exact Tally.pure .nil
  | some h =>
    cases h' with
    | some h' => exact reads_parameterNodes h h' (Option.isNone_iff_eq_none.1 hplace) hps

/-! ## Parameters as they are written -/

/-- Whether a parameter is neither a body nor a form field. -/
def RawParameter.isProper (q : RawParameter) : Bool :=
  !q.location.scalar.isText "body" && !q.location.scalar.isText "formData"

/-- Whether a parameter is a body. -/
def RawParameter.isBody (q : RawParameter) : Bool := q.location.scalar.isText "body"

/-- The schema of a body. -/
def RawParameter.bodySchema (q : RawParameter) : Value :=
  match find? q.members "schema" with
  | some n => n.value.trimReferences
  | none => .object 0 []

/-- A parameter proper as it is written in the older form, and in the newer one. -/
structure RawTwin (fresh : Nat) (q q' : RawParameter) : Prop where
  proper : q.isProper = true
  name : q'.name = q.name
  location : q'.location = q.location
  members : ∃ ms : Members, ShowsMembers ms q.members
    ∧ ShowsMembers (membersWithSchema fresh ms) q'.members
    ∧ Members.getText? ms "schema" = none
    ∧ (Members.getText? ms "required").all (·.reference?.isNone) = true

/-- A key that is known is the location of what stands in it. -/
theorem isText_of_keyOf {v : Option Value} {k : KeyPart} (h : keyOf v = .ok k)
    (location : String) : k.scalar.isText location = (v.bind Value.text? == some location) := by
  cases v with
  | none =>
    cases h
    rfl
  | some v =>
    cases v with
    | scalar s =>
      cases s with
      | bytes data => cases h
      | text s =>
        cases h
        exact Bool.beq_eq_decide_eq s location ▸ rfl
      | _ =>
        cases h
        rfl
    | _ => cases h

theorem reference?_renewedParameter (fresh : Nat) (p : Value) :
    (renewedParameter fresh p).reference? = p.reference? := by
  cases p with
  | object k ms =>
    have href : Members.getText? (membersWithSchema fresh ms) "$ref" = Members.getText? ms "$ref" :=
      getText?_membersWithSchema fresh ms (by decide) (by decide)
    exact congrArg (·.bind Value.text?) href
  | _ => rfl

/-- What is neither the schema nor one of the members that go into it is found as before. -/
theorem find?_membersWithSchema {fresh : Nat} {ms : Members} {ps' : List (Scalar × Node)}
    (h : ShowsMembers (membersWithSchema fresh ms) ps') (key : String)
    (htype : key ∉ typeMembers) (hschema : key ≠ "schema") :
    Option.Rel Shows (Members.getText? ms key) (find? ps' key) := by
  rw [← getText?_membersWithSchema fresh ms htype hschema]
  exact h.find? key

/-- A parameter proper is read in both forms as one that says the same. -/
theorem reads_rawParameter {fresh : Nat} {p : Value} {n n' : Node} (hp : IsOlderParameter p)
    (hproper : isProper p = true) (h : Shows p n) (h' : Shows (renewedParameter fresh p) n') :
    Reads (RawTwin fresh) (rawParameter n) (rawParameter n') := by
  unfold rawParameter
  refine reads_membersFor h h' hp.itself
    ((reference?_renewedParameter fresh p).trans hp.itself) (by cases p <;> rfl) ?_
  rintro k k' ms ms' ps ps' rfl hrenewed hps hps'
  cases hrenewed
  have hmembers := hp.place.members
  have hname := hmembers "name" (by decide)
  have hin := hmembers "in" (by decide)
  dsimp only
  rw [keyPart_eq (hps.find? "name") hname,
    keyPart_eq (find?_membersWithSchema hps' "name" (by decide) (by decide)) hname]
  refine (reads_readKey _).bind fun name name' hnames => ?_
  rw [keyPart_eq (hps.find? "in") hin,
    keyPart_eq (find?_membersWithSchema hps' "in" (by decide) (by decide)) hin]
  refine (reads_readKey _).bind fun loc loc' hlocs => Tally.pure ?_
  obtain ⟨hloc, hkey⟩ := hlocs
  -- the parameter has one location in both forms
  have hlocation : ∀ location, loc.scalar.isText location = isIn location (.object k ms) :=
    isText_of_keyOf hkey
  refine ⟨?_, hnames.1, hloc, ms, hps, hps', ?_, hmembers "required" (by decide)⟩
  · rw [RawParameter.isProper, hlocation, hlocation]
    exact hproper
  · have hbody : isIn "body" (.object k ms) = false := by
      rw [isProper, Bool.and_eq_true, Bool.not_eq_true'] at hproper
      exact hproper.1
    exact Option.isNone_iff_eq_none.1 (Option.isSome_eq_false_iff.1 (hp.typed.trans hbody))

/-! ### Parameters that are left out -/

/-- The schema of a body in the older form. -/
def bodyOf (p : Value) : Value :=
  ((p.member? "schema").map (·.spreadBytes.trimReferences)).getD (.object 0 [])

/-- The schemas of the bodies among some parameters. -/
def bodiesOf (ps : List Value) : List Value := (ps.filter (isIn "body")).map bodyOf

theorem bodiesOf_cons (p : Value) (ps : List Value) :
    bodiesOf (p :: ps) = (if isIn "body" p then [bodyOf p] else []) ++ bodiesOf ps := by
  unfold bodiesOf
  rw [List.filter_cons]
  split <;> rfl

theorem exists_keyOf {v : Option Value} (h : v.all (·.spreadBytes.asKey.isOk) = true) :
    ∃ k, keyOf v = .ok k := by
  cases v with
  | none => exact ⟨_, rfl⟩
  | some v =>
    unfold keyOf
    dsimp only [Option.all_some] at h ⊢
    generalize v.spreadBytes = w at h
    cases w with
    | scalar s => exact ⟨_, rfl⟩
    | _ => cases h

theorem exists_keyOf_of_isIn {location : String} {p : Value} (h : isIn location p = true) :
    ∃ k, keyOf (p.member? "in") = .ok k := by
  obtain ⟨v, hv, htext⟩ := Option.bind_eq_some_iff.1 (beq_iff_eq.1 h)
  rw [hv]
  cases v with
  | scalar s =>
    cases s with
    | text s => exact ⟨_, rfl⟩
    | _ => cases htext
  | _ => cases htext

/-- A parameter that is left out is read without fail. -/
theorem rawParameter_left {p : Value} {n : Node} (hp : IsOlderParameter p)
    (hproper : isProper p = false) (h : Shows p n) :
    ∃ q, rawParameter n = pure q ∧ q.isProper = false ∧ q.isBody = isIn "body" p
      ∧ q.bodySchema = bodyOf p := by
  cases p with
  | object k ms =>
    have hmembers := hp.place.members
    -- its name and its location are read, although the newer form has nothing in its place
    obtain ⟨name, hname⟩ : ∃ name, keyOf (Members.getText? ms "name") = .ok name :=
      exists_keyOf (hp.place.named hproper)
    obtain ⟨loc, hloc⟩ : ∃ loc, keyOf (Members.getText? ms "in") = .ok loc := by
      rw [isProper, Bool.and_eq_false_iff, Bool.not_eq_false', Bool.not_eq_false'] at hproper
      rcases hproper with hin | hin
      · exact exists_keyOf_of_isIn hin
      · exact exists_keyOf_of_isIn hin
    have hps := showsMembers_memberNodes n ms
    have hlocation : ∀ location, loc.scalar.isText location = isIn location (.object k ms) :=
      isText_of_keyOf hloc
    refine ⟨⟨name, loc, memberNodes n (spreadMembers ms)⟩, ?_, ?_, hlocation "body", ?_⟩
    · unfold rawParameter
      rw [membersFor_eq "get" h hp.itself, pure_bind]
      dsimp only
      rw [keyPart_eq (hps.find? "name") (hmembers "name" (by decide)),
        keyPart_eq (hps.find? "in") (hmembers "in" (by decide)), readKey_eq hname,
        readKey_eq hloc]
      rfl
    · rw [RawParameter.isProper, hlocation, hlocation]
      exact hproper
    · have hschema := hps.find? "schema"
      unfold RawParameter.bodySchema bodyOf
      dsimp only [Value.member?]
      generalize Members.getText? ms "schema" = v at hschema ⊢
      generalize find? _ "schema" = a at hschema ⊢
      cases hschema with
      | none => rfl
      | some hv => exact congrArg Value.trimReferences hv
  | _ => cases hproper

/-! ## Merging -/

theorem filter_addParameter {f : RawParameter → Bool}
    (hsame : ∀ p q : RawParameter, q.same p = true → f q = f p)
    (hmembers : ∀ (q : RawParameter) ms, f { q with members := ms } = f q)
    (acc : List RawParameter) (p : RawParameter) :
    (addParameter acc p).filter f
      = if f p then addParameter (acc.filter f) p else acc.filter f := by
  induction acc with
  | nil =>
    rw [addParameter, List.filter_nil, addParameter, List.filter_cons, List.filter_nil]
  | cons q qs ih =>
    rw [addParameter]
    by_cases hq : q.same p = true
    · rw [if_pos hq, List.filter_cons, List.filter_cons, hmembers, hsame p q hq]
      split
      · rw [addParameter, if_pos hq]
      · rfl
    · rw [if_neg hq, List.filter_cons, List.filter_cons, ih]
      split
      · split
        · rw [addParameter, if_neg hq]
        · rfl
      · rfl

/-- Parameters that are one and the same have one location. -/
theorem isText_of_same {p q : RawParameter} (h : q.same p = true) (location : String) :
    q.location.scalar.isText location = p.location.scalar.isText location :=
  Scalar.isText_eq_of_same (Bool.and_eq_true_iff.1 h).2 location

theorem filter_isProper_addParameter (acc : List RawParameter) (p : RawParameter) :
    (addParameter acc p).filter (·.isProper)
      = if p.isProper then addParameter (acc.filter (·.isProper)) p
        else acc.filter (·.isProper) := by
  refine filter_addParameter (fun p q h => ?_) (fun _ _ => rfl) acc p
  rw [RawParameter.isProper, RawParameter.isProper, isText_of_same h, isText_of_same h]

theorem filter_isBody_addParameter (acc : List RawParameter) (p : RawParameter) :
    (addParameter acc p).filter (·.isBody)
      = if p.isBody then addParameter (acc.filter (·.isBody)) p else acc.filter (·.isBody) :=
  filter_addParameter (fun _ _ h => isText_of_same h "body") (fun _ _ => rfl) acc p

theorem addParameter_twin {fresh : Nat} {acc acc' : List RawParameter} {p p' : RawParameter}
    (h : List.Forall₂ (RawTwin fresh) acc acc') (hp : RawTwin fresh p p') :
    List.Forall₂ (RawTwin fresh) (addParameter acc p) (addParameter acc' p') := by
  induction h with
  | nil => exact .cons hp .nil
  | @cons q q' qs qs' hq hqs ih =>
    have hsame : q'.same p' = q.same p := by
      rw [RawParameter.same, RawParameter.same, hq.name, hq.location, hp.name, hp.location]
    rw [addParameter, addParameter, hsame]
    split
    · exact .cons ⟨hq.proper, hq.name, hq.location, hp.members⟩ hqs
    · exact .cons hq ih

/-- What is gathered from both lists: the same parameters proper, and some bodies from the older
one. -/
structure Gathered (fresh : Nat) (bodies : List Value) (acc acc' : List RawParameter) : Prop where
  proper : List.Forall₂ (RawTwin fresh) (acc.filter (·.isProper)) acc'
  bodies : (acc.filter (·.isBody)).map (·.bodySchema) = bodies

theorem RawParameter.isBody_of_isProper {q : RawParameter} (h : q.isProper = true) :
    q.isBody = false := by
  rw [RawParameter.isProper, Bool.and_eq_true, Bool.not_eq_true'] at h
  exact h.1

theorem Gathered.add {fresh : Nat} {bodies : List Value} {acc acc' : List RawParameter}
    {q q' : RawParameter} (h : Gathered fresh bodies acc acc') (hq : RawTwin fresh q q') :
    Gathered fresh bodies (addParameter acc q) (addParameter acc' q') where
  proper := by
    rw [filter_isProper_addParameter, if_pos hq.proper]
    exact addParameter_twin h.proper hq
  bodies := by
    rw [filter_isBody_addParameter, RawParameter.isBody_of_isProper hq.proper]
    exact h.bodies

/-- A second body would take the place of a first one with the same name, but there is none. -/
theorem Gathered.leave {fresh : Nat} {bodies : List Value} {acc acc' : List RawParameter}
    {q : RawParameter} (h : Gathered fresh bodies acc acc') (hq : q.isProper = false)
    (hfirst : q.isBody = true → bodies = []) :
    Gathered fresh (bodies ++ if q.isBody then [q.bodySchema] else []) (addParameter acc q)
      acc' where
  proper := by
    rw [filter_isProper_addParameter, hq]
    exact h.proper
  bodies := by
    rw [filter_isBody_addParameter]
    cases hbody : q.isBody with
    | true =>
      have hnone : acc.filter (·.isBody) = [] :=
        List.map_eq_nil_iff.1 (h.bodies.trans (hfirst hbody))
      rw [hnone, hfirst hbody]
      rfl
    | false =>
      rw [if_neg Bool.false_ne_true, if_neg Bool.false_ne_true, List.append_nil]
      exact h.bodies

/-- From both lists the same is gathered, if there is one body at most. -/
theorem reads_addParameters {fresh : Nat} {ps : List Value} {ns ns' : List Node}
    (hps : Lines fresh ps ns ns') {bodies : List Value} {acc acc' : List RawParameter}
    (hacc : Gathered fresh bodies acc acc') (hone : (bodies ++ bodiesOf ps).length ≤ 1) :
    Reads (Gathered fresh (bodies ++ bodiesOf ps)) (addParameters acc ns)
      (addParameters acc' ns') := by
  induction hps generalizing bodies acc acc' with
  | nil =>
    rw [show bodiesOf [] = [] from rfl, List.append_nil]
    exact Tally.pure hacc
  | kept hp hproper h h' _ ih =>
    have hbody := (Bool.and_eq_true_iff.1 hproper).1
    rw [bodiesOf_cons, if_neg (by simpa using hbody), List.nil_append] at hone ⊢
    exact (reads_rawParameter hp hproper h h').bind fun q q' hq => ih (hacc.add hq) hone
  | left hp hproper h _ ih =>
    obtain ⟨q, hq, hqproper, hqbody, hqschema⟩ := rawParameter_left hp hproper h
    rw [bodiesOf_cons, ← hqbody, ← hqschema, ← List.append_assoc] at hone ⊢
    rw [addParameters, hq, pure_bind]
    refine ih (hacc.leave hqproper fun hbody => ?_) hone
    rw [if_pos hbody] at hone
    simp only [List.length_append, List.length_cons, List.length_nil] at hone
    exact List.eq_nil_of_length_eq_zero (by omega)
  | @broken n n' s s' ps ns ns' h h' =>
    -- what cannot be read ends both runs
    obtain ⟨m, hm⟩ := exists_misused_membersFor "get" (congrArg Value.isObject h)
    obtain ⟨m', hm'⟩ := exists_misused_membersFor "get" (congrArg Value.isObject h')
    have hraw : Reads (fun _ _ => False) (rawParameter n) (rawParameter n') := by
      unfold rawParameter
      rw [hm, hm']
      exact Tally.bind (R := fun _ _ => False) (reads_misused m m') fun _ _ h => h.elim
    exact hraw.bind fun _ _ h => h.elim

/-! ## Parameters that are finished -/

/-- What is seen of a value and of the respelled one are twins. -/
theorem twin_seen (r : Role) (v : Value) :
    Twin AnyNumbers r v.spreadBytes.trimReferences (v.respelled r).spreadBytes.trimReferences := by
  rw [Value.spreadBytes_respelled]
  exact (twin_respelled r fun _ _ => trivial).trimReferences

theorem twinMembers_typeIn {ms : Members} {ps : List (Scalar × Node)} (h : ShowsMembers ms ps)
    (keys : List String) :
    TwinMembers AnyNumbers .schema
      (keys.filterMap fun key => (find? ps key).map fun n => (.text key, n.value.trimReferences))
      (Value.trimMembers (spreadMembers (keys.filterMap fun key =>
        (Members.getText? ms key).map fun v =>
          (.text key, respelled (Role.member .schema (.text key)) v)))) := by
  induction keys with
  | nil => exact .nil _
  | cons key keys ih =>
    rw [List.filterMap_cons, List.filterMap_cons]
    have hkey := h.find? key
    generalize Members.getText? ms key = v at hkey ⊢
    generalize find? ps key = a at hkey ⊢
    cases hkey with
    | none => exact ih
    | @some v n hv =>
      dsimp only [Option.map_some]
      rw [spreadMembers, Value.trimMembers, hv]
      exact .cons (twin_seen _ v) ih

theorem reference?_typeIn (fresh : Nat) (ms : Members) :
    (Value.object fresh (typeIn ms)).reference? = none := by
  have hnone : Members.getText? (typeIn ms) "$ref" = none := by
    unfold Members.getText? typeIn
    rw [Option.map_eq_none_iff, List.find?_eq_none]
    intro m hm hkey
    obtain ⟨key, hmem, hmap⟩ := List.mem_filterMap.1 hm
    obtain ⟨v, -, rfl⟩ := Option.map_eq_some_iff.1 hmap
    obtain rfl : key = "$ref" := beq_iff_eq.1 hkey
    exact absurd hmem (by decide)
  exact congrArg (·.bind Value.text?) hnone

/-- The schema that the members of a parameter say is the twin of the one that it is given. -/
theorem twin_parameterSchema {fresh : Nat} {ms : Members} {ps ps' : List (Scalar × Node)}
    (h : ShowsMembers ms ps) (h' : ShowsMembers (membersWithSchema fresh ms) ps')
    (hnone : Members.getText? ms "schema" = none) :
    Twin AnyNumbers .schema (parameterSchema ps) (parameterSchema ps') := by
  have hold := h.find? "schema"
  have hnew := h'.find? "schema"
  rw [hnone] at hold
  rw [getText?_membersWithSchema_schema fresh hnone] at hnew
  unfold parameterSchema
  generalize find? ps "schema" = a at hold ⊢
  generalize find? ps' "schema" = a' at hnew ⊢
  -- the older form has no schema, and the newer one has one that is made of the type
  cases hold
  cases hnew with
  | @some _ n hn =>
    have hobject : n.value = .object fresh (spreadMembers (typeIn ms)) := hn
    have hpresent : present? (some n) = some n := by
      rw [present?_some, hobject]
      rfl
    have href : (Value.object fresh (spreadMembers (typeIn ms))).reference? = none :=
      (Reference.reference?_spreadBytes (.object fresh (typeIn ms))).trans
        (reference?_typeIn fresh ms)
    rw [hpresent]
    dsimp only [present?, Option.filter_none]
    rw [hobject, Value.trimReferences, href]
    exact .object trivial (twinMembers_typeIn h typeMembers)

theorem reads_readParameter {fresh : Nat} {q q' : RawParameter} (h : RawTwin fresh q q') :
    Reads (Parameter.Twins AnyNumbers) (readParameter q) (readParameter q') := by
  obtain ⟨ms, hms, hms', hnone, hrequired⟩ := h.members
  unfold readParameter
  rw [h.location, isGivenOr_eq _ (hms.find? "required") hrequired,
    isGivenOr_eq _ (find?_membersWithSchema hms' "required" (by decide) (by decide)) hrequired,
    pure_bind, pure_bind]
  have hdescription := map_value_eq (hms.find? "description")
    (find?_membersWithSchema hms' "description" (by decide) (by decide))
  refine (reads_optionalText hdescription).bind fun description description' hd => ?_
  refine reads_finished ?_
  unfold RawParameter.checked
  rw [h.name, h.location]
  refine .seq (.seq (.seq (.map (Checked.Concur.of_eq rfl) fun name name' hname => ?_)
    (Checked.Concur.of_eq rfl)) hd.within) (twin_parameterSchema hms hms' hnone).concur_table.within
  rintro loc loc' rfl text text' rfl schema schema' hschema
  exact ⟨hname, rfl, rfl, rfl, hschema⟩

theorem readMerged_of_isBody {q : RawParameter} (h : q.isBody = true) (body : Value)
    (qs : List RawParameter) : readMerged body (q :: qs) = readMerged q.bodySchema qs := by
  rw [readMerged]
  exact if_pos h

theorem readMerged_of_isProper {q : RawParameter} (h : q.isProper = true) (body : Value)
    (qs : List RawParameter) :
    readMerged body (q :: qs) = do
      let parameter ← readParameter q
      let (rest, body') ← readMerged body qs
      return (parameter :: rest, body') := by
  rw [RawParameter.isProper, Bool.and_eq_true, Bool.not_eq_true', Bool.not_eq_true'] at h
  rw [readMerged, h.1, h.2]
  rfl

theorem readMerged_of_left {q : RawParameter} (hproper : ¬ q.isProper = true)
    (hbody : ¬ q.isBody = true) (body : Value) (qs : List RawParameter) :
    readMerged body (q :: qs) = readMerged body qs := by
  rw [RawParameter.isBody, Bool.not_eq_true] at hbody
  rw [RawParameter.isProper, hbody, Bool.not_false, Bool.true_and, Bool.not_eq_true',
    Bool.not_eq_false] at hproper
  rw [readMerged, hbody, hproper]
  rfl

/-- The parameters proper are finished alike, and the body is the last one of the older form. -/
theorem reads_readMerged {fresh : Nat} {acc acc' : List RawParameter}
    (h : List.Forall₂ (RawTwin fresh) (acc.filter (·.isProper)) acc') (body body' : Value) :
    Reads (fun r r' => List.Forall₂ (Parameter.Twins AnyNumbers) r.1 r'.1
        ∧ r.2 = (((acc.filter (·.isBody)).map (·.bodySchema)).getLast?).getD body ∧ r'.2 = body')
      (readMerged body acc) (readMerged body' acc') := by
  induction acc generalizing acc' body with
  | nil =>
    cases h
    exact Tally.pure ⟨.nil, rfl, rfl⟩
  | cons q qs ih =>
    by_cases hproper : q.isProper = true
    · have hbody : ¬ q.isBody = true := by
        rw [RawParameter.isBody_of_isProper hproper]
        exact Bool.false_ne_true
      rw [List.filter_cons_of_pos hproper] at h
      cases h with
      | @cons _ q' _ qs' hq h =>
        have hproper' : q'.isProper = true := by
          rw [RawParameter.isProper, hq.location]
          exact hproper
        rw [List.filter_cons_of_neg hbody, readMerged_of_isProper hproper,
          readMerged_of_isProper hproper']
        refine (reads_readParameter hq).bind fun a a' ha => ?_
        exact (ih h body).bind fun r r' hr => Tally.pure ⟨.cons ha hr.1, hr.2⟩
    · rw [List.filter_cons_of_neg hproper] at h
      by_cases hbody : q.isBody = true
      · rw [List.filter_cons_of_pos hbody, List.map_cons, List.getLast?_cons, Option.getD_some,
          readMerged_of_isBody hbody]
        exact ih h q.bodySchema
      · rw [List.filter_cons_of_neg hbody, readMerged_of_left hproper hbody]
        exact ih h body

/-- The parameters of an operation are the same in both forms, but for the body. -/
theorem reads_readParameters {fresh : Nat} {ps qs : List Value} {a b a' b' : Option Node}
    (hpath : Reads (Lines fresh ps) (partsOfOptional a) (partsOfOptional a'))
    (hown : Reads (Lines fresh qs) (partsOfOptional b) (partsOfOptional b'))
    (hone : (bodiesOf (ps ++ qs)).length ≤ 1) :
    Reads (fun r r' => List.Forall₂ (Parameter.Twins AnyNumbers) r.1 r'.1
        ∧ r.2 = ((bodiesOf (ps ++ qs)).getLast?).getD .null ∧ r'.2 = .null)
      (readParameters a b) (readParameters a' b') := by
  unfold readParameters
  refine hpath.bind fun ns ns' hns => hown.bind fun ms ms' hms => ?_
  have hempty : Gathered fresh [] [] [] := ⟨.nil, rfl⟩
  refine (reads_addParameters (hns.append hms) hempty hone).bind fun acc acc' hacc => ?_
  have hbodies := hacc.bodies
  rw [List.nil_append] at hbodies
  rw [← hbodies]
  exact reads_readMerged hacc.proper .null .null

end Document

end OpenApiClient
