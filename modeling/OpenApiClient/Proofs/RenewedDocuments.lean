/-
Documents that are read from both forms.

The body of an operation stands among its parameters in the older form and in a content in the
newer one, and so do the schemas of responses.  Whatever else is read of an operation is the same
in both.  So the operations of a document and of the renewed one are twins, up to the numbers of
the objects in their schemas: these are given anew when all operations have been read.

The head of a document says the same in both forms, but for its version and for the place of the
named schemas.  A table of schemas that was moved and respelled is the twin of the one before, in
whatever way it is written: as an object or as a sequence of pairs.
-/
import OpenApiClient.Proofs.RenewedParameters

set_option autoImplicit false

namespace OpenApiClient.Document

open Reference (Node Library)
open Validation (Checked)
open Value (spreadMembers Twin TwinMembers TwinItems respelled twin_respelled)

/-! ## Contents -/

/-- The schema of a content with one schema. -/
theorem contentSchema_eq {fresh : Nat} {schema : Value} {n : Node}
    (h : Shows (contentOf fresh schema) n) :
    ∃ m, Shows (respelled .schema schema) m
      ∧ contentSchema (some n) = pure (present? (some m)) := by
  let media := n.child 0 (.object fresh [(.text "schema", (respelled .schema schema).spreadBytes)])
  refine ⟨media.child 0 (respelled .schema schema).spreadBytes, rfl, ?_⟩
  have hvalue : n.value = .object fresh [(.text "application/json", media.value)] := h
  have hn : settle n = pure n := settle_eq (by rw [hvalue]; rfl)
  have hmedia : settle media = pure media := settle_eq rfl
  have hpreferred : preferredMedia n jsonMediaTypes = pure (some media) := by
    unfold jsonMediaTypes preferredMedia partNamed?
    rw [hn, pure_bind, hvalue]
    rfl
  unfold contentSchema isGiven
  dsimp only
  rw [hn, pure_bind, hvalue, pure_bind, hpreferred]
  show (membersFor "get" media >>= fun ms => pure (present? (find? ms "schema"))) = _
  unfold membersFor
  rw [hmedia]
  rfl

/-- A schema that is not null is seen in both forms, as twins. -/
theorem rel_present? {v : Value} {n m : Node} (hn : Shows v n)
    (hm : Shows (respelled .schema v) m) :
    Option.Rel (fun n m => Twin AnyNumbers .schema n.value.trimReferences m.value.trimReferences)
      (present? (some n)) (present? (some m)) := by
  have htwin : Twin AnyNumbers .schema n.value m.value := by
    rw [hn, hm, Value.spreadBytes_respelled]
    exact twin_respelled _ fun _ _ => trivial
  rw [present?_some, present?_some, ← htwin.isNull_eq]
  cases n.value.isNull with
  | true => exact .none
  | false => exact .some htwin.trimReferences

/-- What is absent is null, before and after. -/
theorem trimReferences_present? (n : Node) :
    ((present? (some n)).map (·.value.trimReferences)).getD .null = n.value.trimReferences := by
  rw [present?_some]
  cases hnull : n.value.isNull with
  | true =>
    rw [Value.eq_null_of_isNull hnull]
    rfl
  | false => rfl

/-! ## Bodies -/

/-- There is one body at most, and its schema is the one that is moved. -/
theorem getLast?_bodiesOf {ps : List Value} (hone : (bodiesOf ps).length ≤ 1)
    (htyped : ∀ p ∈ ps, HasOlderType p) :
    (bodiesOf ps).getLast? = (bodySchema? ps).map (·.spreadBytes.trimReferences) := by
  unfold bodySchema?
  rw [← List.head?_filter]
  unfold bodiesOf at hone ⊢
  rw [List.length_map] at hone
  cases hbodies : ps.filter (isIn "body") with
  | nil => rfl
  | cons p qs =>
    rw [hbodies, List.length_cons] at hone
    obtain rfl : qs = [] := List.eq_nil_of_length_eq_zero (by omega)
    obtain ⟨hmem, hbody⟩ := List.mem_filter.1 (hbodies ▸ List.mem_cons_self : p ∈ ps.filter _)
    obtain ⟨schema, hschema⟩ := Option.isSome_iff_exists.1 ((htyped p hmem).trans hbody)
    rw [List.map_singleton, List.getLast?_singleton, List.head?_cons, Option.bind_some, bodyOf,
      hschema]
    rfl

/-- The body that an operation has among its parameters is the one that it is given. -/
theorem reads_bodySchema {fresh : Nat} {schema : Option Value} {a' : Option Node}
    (h : Option.Rel Shows
      (schema.map fun v => .object fresh [(.text "content", contentOf fresh v)]) a') :
    Reads (Twin AnyNumbers .schema)
      (bodySchema ((schema.map (·.spreadBytes.trimReferences)).getD .null) none)
      (bodySchema .null a') := by
  cases schema with
  | none =>
    cases h
    exact Tally.pure (.scalar _ _)
  | some v =>
    cases h with
    | @some _ n hn =>
      -- the renewed body has its content as the only member
      let content := n.child 0 (contentOf fresh v).spreadBytes
      have hvalue : n.value = .object fresh [(.text "content", content.value)] := hn
      have hsettle : settle n = pure n := settle_eq (by rw [hvalue]; rfl)
      have hcontent : Shows (contentOf fresh v) content := rfl
      obtain ⟨m, hm, hschema⟩ := contentSchema_eq hcontent
      have hbody : bodySchema .null (some n) = pure m.value.trimReferences := by
        unfold bodySchema isGiven membersFor
        dsimp only
        rw [hsettle, pure_bind, pure_bind, hvalue, pure_bind, hvalue,
          if_neg (by simp [Value.isGiven])]
        dsimp only
        rw [pure_bind]
        have hfound : find? (memberNodes n [(.text "content", content.value)]) "content"
            = some content := rfl
        rw [hfound, hschema, pure_bind, ← trimReferences_present? m]
        cases present? (some m) <;> rfl
      rw [hbody, hm]
      exact Tally.pure (twin_seen _ v)

/-! ## Responses -/

/-- A response in the older form, and the renewed one. -/
def ResponseTwin (fresh : Nat) (p p' : Scalar × Node) : Prop :=
  p.1 = p'.1 ∧ ∃ r : Value, r.reference? = none ∧ r.member? "content" = none ∧ Shows r p.2
    ∧ Shows (renewedResponse fresh r) p'.2

theorem reference?_renewedResponse (fresh : Nat) (r : Value) :
    (renewedResponse fresh r).reference? = r.reference? := by
  cases r with
  | object k ms =>
    have href : Members.getText? (moved "schema" "content" (contentOf fresh) ms) "$ref"
        = Members.getText? ms "$ref" := getText?_moved_of_ne _ ms (by decide) (by decide)
    exact congrArg (·.bind Value.text?) href
  | _ => rfl

/-- The schema of a response is one that stands in it, in the older form, and one in its content,
in the newer one. -/
theorem schemas_of_response {fresh : Nat} {ms : Members} {ps ps' : List (Scalar × Node)}
    (hps : ShowsMembers ms ps)
    (hps' : ShowsMembers (moved "schema" "content" (contentOf fresh) ms) ps')
    (hcontent : Members.getText? ms "content" = none) :
    contentSchema (find? ps "content") = pure none ∧ find? ps' "schema" = none
      ∧ ∃ m, contentSchema (find? ps' "content") = pure m
        ∧ Option.Rel (fun n m =>
            Twin AnyNumbers .schema n.value.trimReferences m.value.trimReferences)
          (present? (find? ps "schema")) m := by
  have hold := hps.find? "content"
  have hnew := hps'.find? "content"
  have hschema := hps.find? "schema"
  have hmoved := hps'.find? "schema"
  rw [hcontent] at hold
  rw [getText?_moved _ (.inr hcontent)] at hnew
  rw [getText?_moved_old _ ms (by decide)] at hmoved
  generalize find? ps "content" = a at hold ⊢
  generalize find? ps' "schema" = a' at hmoved ⊢
  cases hold
  cases hmoved
  generalize Members.getText? ms "schema" = v at hnew hschema
  generalize find? ps "schema" = b at hschema ⊢
  generalize find? ps' "content" = b' at hnew ⊢
  cases hschema with
  | none =>
    cases hnew
    exact ⟨rfl, rfl, none, rfl, .none⟩
  | some hb =>
    cases hnew with
    | some hb' =>
      obtain ⟨m, hm, hread⟩ := contentSchema_eq hb'
      exact ⟨rfl, rfl, _, hread, rel_present? hb hm⟩

/-- The first response of success that has a schema is the same one in both forms. -/
theorem reads_successSchema {fresh : Nat} {rs rs' : List (Scalar × Node)}
    (h : List.Forall₂ (ResponseTwin fresh) rs rs') :
    Reads (Option.Rel (Twin AnyNumbers .schema)) (successSchema rs) (successSchema rs') := by
  induction h with
  | nil => exact Tally.pure .none
  | @cons p p' rs rs' hp _ ih =>
    obtain ⟨code, n⟩ := p
    obtain ⟨code', n'⟩ := p'
    obtain ⟨hcode, r, href, hcontent, hn, hn'⟩ := hp
    dsimp only at hcode hn hn'
    subst hcode
    rw [successSchema, successSchema]
    split
    · exact ih
    refine reads_membersFor hn hn' href ((reference?_renewedResponse fresh r).trans href)
      (by cases r <;> rfl) ?_
    rintro k k' ms ms' ps ps' rfl hrenewed hps hps'
    cases hrenewed
    obtain ⟨hnone, hnone', m, hread, hseen⟩ := schemas_of_response hps hps' hcontent
    rw [hnone, hread, hnone', pure_bind, pure_bind, present?_none, Option.none_or, Option.or_none]
    generalize present? (find? ps "schema") = a at hseen ⊢
    -- without a schema both forms look on in the responses that are left
    cases hseen with
    | none => exact ih
    | some h => exact Tally.pure (.some h)

theorem reference?_renewedResponses (fresh : Nat) (v : Value) :
    (renewedResponses fresh v).reference? = v.reference? := by
  cases v with
  | object k ms =>
    exact reference?_map (f := fun _ => renewedResponse fresh) k ms fun v => by cases v <;> rfl
  | _ => rfl

/-- The response on success has the same schema in both forms. -/
theorem reads_responseSchema {fresh : Nat} {v : Option Value} {a a' : Option Node}
    (h : Option.Rel Shows v a) (h' : Option.Rel Shows (v.map (renewedResponses fresh)) a')
    (hplace : v.all (·.reference?.isNone) = true)
    (hrs : ∀ r ∈ valuesIn v, r.reference? = none ∧ r.member? "content" = none) :
    Reads (Option.Rel (Twin AnyNumbers .schema)) (responseSchema a) (responseSchema a') := by
  cases h with
  | none =>
    cases h'
    have hnone : responseSchema none = pure none := by
      unfold responseSchema membersOfOptional
      rw [pure_bind, List.mergeSort_nil]
      rfl
    rw [hnone]
    exact Tally.pure .none
  | @some v n hn =>
    cases h' with
    | @some _ n' hn' =>
      have href : v.reference? = none := Option.isNone_iff_eq_none.1 hplace
      unfold responseSchema membersOfOptional
      dsimp only
      refine reads_membersFor hn hn' href ((reference?_renewedResponses fresh v).trans href)
        (by cases v <;> rfl) ?_
      rintro k k' ms ms' ps ps' rfl hobject hps hps'
      cases hobject
      have htwins : List.Forall₂ (ResponseTwin fresh) ps ps' :=
        (hps.map (f := fun _ => renewedResponse fresh) hps').imp
          fun p p' ⟨hkey, r, hr, hshows, hshows'⟩ =>
            have hplace := hrs r (List.mem_map_of_mem hr)
            ⟨hkey, r, hplace.1, hplace.2, hshows, hshows'⟩
      have hkeys : ps.map (·.1) = ps'.map (·.1) :=
        List.forall₂_eq_eq_eq ▸ List.forall₂_map_left_iff.2
          (List.forall₂_map_right_iff.2 (htwins.imp fun _ _ h => h.1))
      -- both forms have the same keys, so both are refused for a key that is too long, or none
      have hwritable : ps.any (fun m => !m.1.isWritable) = ps'.any fun m => !m.1.isWritable := by
        have hany := congrArg (·.any fun k => !k.isWritable) hkeys
        rwa [List.any_map, List.any_map] at hany
      rw [hwritable]
      split
      · exact Tally.throw _ _
      · exact reads_successSchema
          (rel_mergeSort htwins fun a b a' b' ha hb => by rw [ha.1, hb.1])

/-! ## Operations -/

/-- Fields that concur make operations that do. -/
theorem concur_operation {verb : Verb} {path : Scalar} {deprecated : Bool}
    {texts texts' : OperationTexts} {parameters parameters' : List Parameter} {body body' : Value}
    {response response' : Option Value}
    (hid : Checked.Concur Eq texts.operationId texts'.operationId)
    (hsummary : Checked.Concur Eq texts.summary texts'.summary)
    (hdescription : Checked.Concur Eq texts.description texts'.description)
    (htags : List.Forall₂ (Checked.Concur Eq) texts.tags texts'.tags)
    (hparameters : List.Forall₂ (Parameter.Twins AnyNumbers) parameters parameters')
    (hbody : Twin AnyNumbers .schema body body')
    (hresponse : Option.Rel (Twin AnyNumbers .schema) response response') :
    Checked.Concur (Operation.Twins AnyNumbers)
      (texts.checked verb path parameters deprecated body response)
      (texts'.checked verb path parameters' deprecated body' response') := by
  have hgiven : Twin AnyNumbers .schema (response.getD .null) (response'.getD .null) := by
    cases hresponse with
    | none => exact .scalar _ _
    | some h => exact h
  unfold OperationTexts.checked
  refine .seq (.seq (.seq (.seq (.seq (.seq (.map (Checked.Concur.of_eq rfl) ?_) hid.within)
    hsummary.within) hdescription.within) (concur_numbered htags).within)
    hbody.concur_optionalTable.within) hgiven.concur_optionalTable.within
  rintro path path' hpath id id' hid summary summary' hsummary text text' htext tags tags' htags
    body body' hbody response response' hresponse
  exact ⟨rfl, hpath, hid, hsummary, htext, rfl, htags, hparameters, hbody, hresponse⟩

theorem reference?_renewedOperation (fresh : Nat) (o : Value) :
    (renewedOperation fresh o).reference? = o.reference? := by
  cases o with
  | object k ms =>
    have href : Members.getText? (operationMembers fresh ms) "$ref" = Members.getText? ms "$ref" :=
      getText?_operationMembers_of_ne fresh ms (by decide) (by decide) (by decide)
    exact congrArg (·.bind Value.text?) href
  | _ => rfl

/-- The parameters of an operation are the same in both forms, and the body among those of the
older form has the schema that is moved. -/
theorem reads_operationParameters {fresh k : Nat} {ms : Members} {ns ns' : List (Scalar × Node)}
    {ps : List Value} {a a' : Option Node} (hns : ShowsMembers ms ns)
    (hns' : ShowsMembers (operationMembers fresh ms) ns') (ho : IsOlderOperation (.object k ms))
    (hplace : OperationInPlace (.object k ms))
    (hpath : Reads (Lines fresh ps) (partsOfOptional a) (partsOfOptional a'))
    (hbodies : bodiesOf ps = []) :
    Reads (fun r r' => List.Forall₂ (Parameter.Twins AnyNumbers) r.1 r'.1
        ∧ r.2 = ((bodySchema? (parametersIn (.object k ms))).map
          (·.spreadBytes.trimReferences)).getD .null
        ∧ r'.2 = .null)
      (readParameters a (find? ns "parameters")) (readParameters a' (find? ns' "parameters")) := by
  have hparameters := hns'.find? "parameters"
  rw [getText?_operationMembers fresh ms (by decide)] at hparameters
  have holder : ∀ p ∈ parametersIn (.object k ms), IsOlderParameter p := fun p hp =>
    ⟨(ho.parameters p hp).1, (ho.parameters p hp).2, hplace.parameters p hp⟩
  have hown : Reads (Lines fresh (parametersIn (.object k ms)))
      (partsOfOptional (find? ns "parameters")) (partsOfOptional (find? ns' "parameters")) :=
    reads_parametersOfOptional (hns.find? "parameters") hparameters
      (hplace.members "parameters" (by decide)) holder
  -- the path has no body, so the body is the operation's own
  have happend : bodiesOf (ps ++ parametersIn (.object k ms))
      = bodiesOf (parametersIn (.object k ms)) := by
    unfold bodiesOf at hbodies ⊢
    rw [List.filter_append, List.map_append, hbodies, List.nil_append]
  have hone : (bodiesOf (parametersIn (.object k ms))).length ≤ 1 := by
    rw [bodiesOf, List.length_map]
    exact ho.bodies
  rw [← getLast?_bodiesOf hone fun p hp => (holder p hp).typed, ← happend]
  exact reads_readParameters hpath hown (happend ▸ hone)

/-- What has nothing to do with parameters, bodies and responses is found as before. -/
theorem find?_operationMembers {fresh : Nat} {ms : Members} {ns' : List (Scalar × Node)}
    (h : ShowsMembers (operationMembers fresh ms) ns') (key : String) (hbody : key ≠ "requestBody")
    (hparameters : key ≠ "parameters") (hresponses : key ≠ "responses") :
    Option.Rel Shows (Members.getText? ms key) (find? ns' key) := by
  rw [← getText?_operationMembers_of_ne fresh ms hbody hparameters hresponses]
  exact h.find? key

theorem reads_restText {fresh : Nat} {ms : Members} {ns ns' : List (Scalar × Node)}
    (hns : ShowsMembers ms ns) (hns' : ShowsMembers (operationMembers fresh ms) ns') (key : String)
    (hbody : key ≠ "requestBody") (hparameters : key ≠ "parameters")
    (hresponses : key ≠ "responses") :
    Reads (Checked.Concur Eq) (optionalText (find? ns key)) (optionalText (find? ns' key)) :=
  reads_optionalText
    (map_value_eq (hns.find? key) (find?_operationMembers hns' key hbody hparameters hresponses))

/-- An operation is the same in both forms. -/
theorem reads_readOperation {fresh : Nat} {verb : Verb} {path : Scalar} {o : Value} {n n' : Node}
    {ps : List Value} {a a' : Option Node} (hn : Shows o n)
    (hn' : Shows (renewedOperation fresh o) n') (ho : IsOlderOperation o)
    (hplace : OperationInPlace o)
    (hpath : Reads (Lines fresh ps) (partsOfOptional a) (partsOfOptional a'))
    (hbodies : bodiesOf ps = []) :
    Reads (Operation.Twins AnyNumbers) (readOperation verb path a n)
      (readOperation verb path a' n') := by
  unfold readOperation
  refine reads_membersFor hn hn' hplace.itself
    ((reference?_renewedOperation fresh o).trans hplace.itself) (by cases o <;> rfl) ?_
  rintro k k' ms ms' ns ns' rfl hrenewed hns hns'
  cases hrenewed
  have hgiven := hplace.members
  refine (reads_operationParameters hns hns' ho hplace hpath hbodies).bind fun r r' hr => ?_
  obtain ⟨rs, body⟩ := r
  obtain ⟨rs', body'⟩ := r'
  obtain ⟨hrs, hmoved, hnull⟩ := hr
  dsimp only at hrs hmoved hnull ⊢
  -- the older form has no body of its own, and the newer one has it nowhere else
  have hnone := hns.find? "requestBody"
  have hbody := hns'.find? "requestBody"
  rw [show Members.getText? ms "requestBody" = none from ho.noBody] at hnone
  rw [getText?_operationMembers_body fresh ho.noBody] at hbody
  generalize find? ns "requestBody" = b at hnone ⊢
  cases hnone
  rw [hmoved, hnull]
  refine (reads_bodySchema hbody).bind fun body body' hbody => ?_
  -- what is left stays where it was, but for the responses
  have hdeprecated := hgiven "deprecated" (by decide)
  rw [isGivenOr_eq _ (hns.find? "deprecated") hdeprecated,
    isGivenOr_eq _ (find?_operationMembers hns' "deprecated" (by decide) (by decide) (by decide))
      hdeprecated, pure_bind, pure_bind]
  refine (reads_partsOfOptional (hns.find? "tags")
    (find?_operationMembers hns' "tags" (by decide) (by decide) (by decide))
    (hgiven "tags" (by decide))).bind fun tagNodes tagNodes' htagNodes => ?_
  have hresponses := hns'.find? "responses"
  rw [getText?_operationMembers fresh ms (by decide)] at hresponses
  refine (reads_responseSchema (hns.find? "responses") hresponses
    (hgiven "responses" (by decide)) ho.responses).bind fun response response' hresponse => ?_
  refine (reads_restText hns hns' "operationId" (by decide) (by decide) (by decide)).bind
    fun id id' hid => ?_
  refine (reads_restText hns hns' "summary" (by decide) (by decide) (by decide)).bind
    fun summary summary' hsummary => ?_
  refine (reads_restText hns hns' "description" (by decide) (by decide) (by decide)).bind
    fun description description' hdescription => ?_
  refine (reads_mapM htagNodes fun _ _ h => reads_text h).bind fun tags tags' htags => ?_
  exact reads_finished
    (concur_operation hid hsummary hdescription htags hrs hbody hresponse)

/-! ## Paths -/

/-- A member of a path item in the older form, and in the newer one. -/
def FieldTwin (fresh : Nat) (p p' : Scalar × Node) : Prop :=
  p.1 = p'.1 ∧ ∃ v, Shows v p.2 ∧ Shows (renewedField fresh p.1 v) p'.2
    ∧ ∀ name, p.1 = .text name → (Verb.ofName? name).isSome →
      IsOlderOperation v ∧ OperationInPlace v

/-- The operations of a path are the same in both forms. -/
theorem reads_readPathItem {fresh : Nat} {path : Scalar} {ps : List Value} {a a' : Option Node}
    {fs fs' : List (Scalar × Node)}
    (hpath : Reads (Lines fresh ps) (partsOfOptional a) (partsOfOptional a'))
    (hbodies : bodiesOf ps = []) (h : List.Forall₂ (FieldTwin fresh) fs fs') :
    Reads (List.Forall₂ (Operation.Twins AnyNumbers)) (readPathItem path a fs)
      (readPathItem path a' fs') := by
  induction h with
  | nil => exact Tally.pure .nil
  | @cons p p' fs fs' hp _ ih =>
    obtain ⟨key, n⟩ := p
    obtain ⟨key', n'⟩ := p'
    obtain ⟨hkey, v, hn, hn', hoperation⟩ := hp
    dsimp only at hkey hn hn' hoperation
    subst hkey
    cases key with
    | text name =>
      rw [readPathItem, readPathItem]
      cases hverb : Verb.ofName? name with
      | none => exact ih
      | some verb =>
        have hfield : renewedField fresh (.text name) v = renewedOperation fresh v := by
          -- the shared parameters are not written under a verb
          have hother : name ≠ "parameters" := by
            rintro rfl
            cases hverb
          rw [renewedField, if_neg hother, if_pos (by rw [hverb]; rfl)]
        rw [hfield] at hn'
        obtain ⟨holder, hplace⟩ := hoperation name rfl (by rw [hverb]; rfl)
        refine (reads_readOperation hn hn' holder hplace hpath hbodies).bind fun o o' ho => ?_
        exact ih.bind fun os os' hos => Tally.pure (.cons ho hos)
    | _ => exact ih

theorem reference?_renewedItem (fresh : Nat) (item : Value) :
    (renewedItem fresh item).reference? = item.reference? := by
  cases item with
  | object k ms => exact reference?_map (f := renewedField fresh) k ms fun _ => rfl
  | _ => rfl

theorem bodiesOf_eq_nil {ps : List Value} (h : ∀ p ∈ ps, isIn "body" p = false) :
    bodiesOf ps = [] := by
  have hnone : ps.filter (isIn "body") = [] :=
    List.filter_eq_nil_iff.2 fun p hp hbody => Bool.false_ne_true ((h p hp).symm.trans hbody)
  rw [bodiesOf, hnone]
  rfl

/-- The members of a path item are members of its renewed form. -/
theorem ShowsMembers.fields {fresh k : Nat} {ms : Members} {fs fs' : List (Scalar × Node)}
    (hfs : ShowsMembers ms fs)
    (hfs' : ShowsMembers (ms.map fun m => (m.1, renewedField fresh m.1 m.2)) fs')
    (holder : IsOlderItem (.object k ms)) (hplace : ItemInPlace (.object k ms)) :
    List.Forall₂ (FieldTwin fresh) fs fs' := by
  refine (hfs.map hfs').imp fun p p' ⟨hkey, v, hv, hshows, hshows'⟩ =>
    ⟨hkey, v, hshows, hshows', fun name hname hverb => ?_⟩
  have hmem : v ∈ operationsIn (.object k ms) := by
    refine List.mem_filterMap.2 ⟨_, hv, ?_⟩
    rw [hname]
    exact if_pos hverb
  exact ⟨holder.operations v hmem, hplace.operations v hmem⟩

/-- A path in the older form, and in the newer one. -/
def ItemTwin (fresh : Nat) (p p' : Scalar × Node) : Prop :=
  p.1 = p'.1 ∧ ∃ item, Shows item p.2 ∧ Shows (renewedItem fresh item) p'.2
    ∧ IsOlderItem item ∧ ItemInPlace item

/-- The operations of all paths are the same in both forms. -/
theorem reads_readPaths {fresh : Nat} {is is' : List (Scalar × Node)}
    (h : List.Forall₂ (ItemTwin fresh) is is') :
    Reads (List.Forall₂ (Operation.Twins AnyNumbers)) (readPaths is) (readPaths is') := by
  induction h with
  | nil => exact Tally.pure .nil
  | @cons p p' is is' hp _ ih =>
    obtain ⟨path, n⟩ := p
    obtain ⟨path', n'⟩ := p'
    obtain ⟨hpath, item, hn, hn', holder, hplace⟩ := hp
    dsimp only at hpath hn hn'
    subst hpath
    rw [readPaths, readPaths]
    refine reads_membersFor hn hn' hplace.itself
      ((reference?_renewedItem fresh item).trans hplace.itself) (by cases item <;> rfl) ?_
    rintro k k' ms ms' fs fs' rfl hrenewed hfs hfs'
    cases hrenewed
    -- the shared parameters are renewed under the same name
    have hshared := hfs'.find? "parameters"
    rw [getText?_map (renewedField fresh)] at hshared
    have holders : ∀ p ∈ parametersIn (.object k ms), IsOlderParameter p := fun p hp =>
      ⟨(holder.parameters p hp).1, (holder.parameters p hp).2.2, hplace.parameters p hp⟩
    have hparameters := reads_parametersOfOptional (hfs.find? "parameters") hshared
      (hplace.members "parameters" (by decide)) holders
    have hbodies := bodiesOf_eq_nil fun p hp => (holder.parameters p hp).2.1
    refine (reads_readPathItem hparameters hbodies (hfs.fields hfs' holder hplace)).bind
      fun os os' hos => ?_
    exact ih.bind fun rest rest' hrest => Tally.pure (List.rel_append hos hrest)

/-! ## The operations of a document -/

/-- Reads the operations of a document, given its root. -/
def operationsOf (root : Node) : Reading (List Operation) := do
  match find? (← membersFor "get" root) "paths" with
  | some n => readPaths (← membersFor "items" n)
  | none => return []

theorem reference?_renewed (fresh : Nat) (raw : Value) :
    (renewed fresh raw).reference? = raw.reference? := by
  cases raw with
  | object k ms =>
    have href : Members.getText? (documentMembers fresh ms) "$ref" = Members.getText? ms "$ref" :=
      getText?_documentMembers fresh ms (by decide)
    exact congrArg (·.bind Value.text?) href
  | _ => rfl

theorem reference?_renewedPaths (fresh : Nat) (v : Value) :
    (renewedPaths fresh v).reference? = v.reference? := by
  cases v with
  | object k ms =>
    exact reference?_map (f := fun _ => renewedItem fresh) k ms fun v => by cases v <;> rfl
  | _ => rfl

theorem reads_operationsOf {fresh : Nat} {raw : Value} {n n' : Node} (hn : Shows raw n)
    (hn' : Shows (renewed fresh raw) n') (h : IsOlder raw) (hp : InPlace raw) :
    Reads (List.Forall₂ (Operation.Twins AnyNumbers)) (operationsOf n) (operationsOf n') := by
  unfold operationsOf
  refine reads_membersFor hn hn' hp.itself ((reference?_renewed fresh raw).trans hp.itself)
    (by cases raw <;> rfl) ?_
  rintro k k' ms ms' ns ns' rfl hrenewed hns hns'
  cases hrenewed
  have hold := hns.find? "paths"
  have hnew := hns'.find? "paths"
  have hgiven := hp.members "paths" (by decide)
  have holder := h.items
  have hplace := hp.items
  rw [getText?_documentMembers_paths] at hnew
  unfold itemsIn at holder hplace
  dsimp only [Value.member?] at hgiven holder hplace
  generalize Members.getText? ms "paths" = v at hold hnew hgiven holder hplace
  generalize find? ns "paths" = a at hold ⊢
  generalize find? ns' "paths" = a' at hnew ⊢
  cases hold with
  | none =>
    cases hnew
    exact Tally.pure .nil
  | @some v m hm =>
    cases hnew with
    | @some _ m' hm' =>
      have href : v.reference? = none := Option.isNone_iff_eq_none.1 hgiven
      refine reads_membersFor hm hm' href ((reference?_renewedPaths fresh v).trans href)
        (by cases v <;> rfl) ?_
      rintro k k' ms ms' is is' rfl hrenewed his his'
      cases hrenewed
      have hitems : List.Forall₂ (ItemTwin fresh) is is' := by
        refine (his.map (f := fun _ => renewedItem fresh) his').imp ?_
        rintro p p' ⟨hkey, item, hitem, hshows, hshows'⟩
        have hmem : item ∈ valuesIn (some (.object k ms)) := List.mem_map_of_mem hitem
        exact ⟨hkey, item, hshows, hshows', holder item hmem, hplace item hmem⟩
      exact reads_readPaths hitems

/-- The operations of a document are the same in both forms, up to numbers. -/
theorem concur_readOperations (files : Source.Files) {fresh : Nat} {raw : Value} (h : IsOlder raw)
    (hp : InPlace raw) :
    Concur (fun p p' => List.Forall₂ (Operation.Twins AnyNumbers) p.1 p'.1)
      (readOperations.run (Library.ofValue files raw.spreadBytes))
      (readOperations.run (Library.ofValue files (renewed fresh raw).spreadBytes)) := by
  have hreads : Reads (List.Forall₂ (Operation.Twins AnyNumbers))
      (operationsOf ⟨0, [], raw.spreadBytes⟩)
      (operationsOf ⟨0, [], (renewed fresh raw).spreadBytes⟩) :=
    reads_operationsOf rfl rfl h hp
  exact (hreads _ _ trivial).mono fun _ _ hos => hos.1

/-! ## Tables of schemas -/

section Tables

variable {ν : Nat → Nat → Prop} {v w : Value}

theorem concur_schemaPair (h : Twin ν .plain v w) (i : Nat) :
    Concur (fun m n => m.1 = n.1 ∧ Twin ν .plain m.2 n.2) (schemaPair i v) (schemaPair i w) := by
  have hparts := h.parts? (by decide)
  unfold schemaPair
  generalize v.parts? = x at hparts ⊢
  generalize w.parts? = y at hparts ⊢
  cases hparts with
  | none => exact .fault _ _
  | some hus =>
    cases hus with
    | nil => exact .fault _ _
    | cons hk hus =>
      cases hus with
      | nil => cases hk <;> exact .fault _ _
      | cons hv hus =>
        cases hus with
        | cons _ _ => cases hk <;> exact .fault _ _
        | nil =>
          cases hk with
          | scalar _ s => exact .ok ⟨rfl, hv⟩
          | _ => exact .fault _ _

/-- The members of twins that are read as tables are twins. -/
theorem concur_tableMembers (h : Twin ν .table v w) :
    Concur (TwinMembers ν .table) (tableMembers v) (tableMembers w) := by
  have hparts := h.parts? (by decide)
  cases h with
  | object _ h => exact .ok h
  | _ =>
    unfold tableMembers
    dsimp only
    generalize Value.parts? _ = x at hparts ⊢
    generalize Value.parts? _ = y at hparts ⊢
    cases hparts with
    | none => exact .fault _ _
    | some hvs =>
      -- a table that is written as a list has its entries read with their positions
      refine (Concur.mapM (rel_zipIdx hvs 0)
        (Q := fun m n => m.1 = n.1 ∧ Twin ν .plain m.2 n.2) fun p q hpq => ?_).bind
        fun ms ns hms => .ok ?_
      · obtain ⟨v, i⟩ := p
        obtain ⟨w, j⟩ := q
        obtain ⟨hvw, rfl⟩ : Twin ν .plain v w ∧ i = j := hpq
        exact concur_schemaPair hvw i
      · refine (TwinMembers.nil .table).update (.of_forall₂ (hms.imp fun m n hmn => ?_))
        exact ⟨hmn.1, hmn.2.of_plain _⟩

theorem concur_distinctEntries {ms ns : Members} (h : TwinMembers ν .table ms ns) :
    Checked.Concur (fun es es' => List.Forall₂ (Schema.TwinNamed ν) es.1 es'.1)
      (Validation.distinctEntries Validation.table ms)
      (Validation.distinctEntries Validation.table ns) :=
  (h.concur_entries (Q := fun _ => Twin ν .schema) fun _ _ _ hv => hv.concur_table).withFact _ _

end Tables

/-! ## The head of a document -/

/-- The version of the format can be written out in both forms. -/
theorem exists_formatVersion (fresh : Nat) {k : Nat} {ms : Members} (h : IsOlder (.object k ms)) :
    (∃ s, formatVersion (.object k ms) = .ok s)
      ∧ ∃ s, formatVersion (renewed fresh (.object k ms)) = .ok s := by
  -- the older form has its version under `swagger`, the newer one under `openapi`
  obtain ⟨v, hv, htext⟩ := Option.bind_eq_some_iff.1 h.version
  have hversion : Members.getText? ms "swagger" = some (.text "2.0") := by
    refine hv.trans (congrArg some ?_)
    unfold Value.text? at htext
    split at htext
    · cases htext
      rfl
    · cases htext
  have hnew := getText?_documentMembers_openapi fresh ms h.noVersion
  have hold : Members.getText? ms "openapi" = none := h.noVersion
  rw [hversion] at hnew
  constructor
  · refine ⟨"2.0", ?_⟩
    unfold formatVersion
    dsimp only [List.findSome?_cons, Value.member?]
    rw [hold, hversion]
    rfl
  · refine ⟨"3.0.0", ?_⟩
    unfold formatVersion renewed
    dsimp only [List.findSome?_cons, Value.member?]
    rw [hnew]
    rfl

theorem rawSchemas_older {k : Nat} {ms : Members} (h : Members.getText? ms "components" = none) :
    rawSchemas (.object k ms)
      = .ok (((Members.getText? ms "definitions").filter (·.isGiven)).getD (.object 0 [])) := by
  unfold rawSchemas
  dsimp only [Value.member?]
  rw [h, pure_bind]
  rfl

theorem rawSchemas_newer {fresh k : Nat} {ms : Members} {v : Option Value}
    (h : Members.getText? ms "components" = v.map (componentsOf fresh))
    (hnone : Members.getText? ms "definitions" = none) :
    rawSchemas (.object k ms)
      = .ok (((v.map (respelled .table)).filter (·.isGiven)).getD (.object 0 [])) := by
  unfold rawSchemas
  dsimp only [Value.member?]
  rw [h, hnone]
  cases v with
  | none => rfl
  | some v =>
    have hschemas : Members.getText? [(.text "schemas", respelled .table v)] "schemas"
        = some (respelled .table v) := rfl
    show (Except.ok _ : Except Fault Value) = .ok _
    rw [hschemas, Option.filter_none, Option.or_none, Option.map_some]

/-- Named schemas are found in both forms, and are twins. -/
theorem exists_rawSchemas {ν : Nat → Nat → Prop} (fresh : Nat) {k : Nat} {ms : Members}
    (h : IsOlder (.object k ms)) (hzero : ν 0 0)
    (hν : ∀ v, Members.getText? ms "definitions" = some v → ∀ n ∈ v.numbers, ν n n) :
    ∃ v w, rawSchemas (.object k ms) = .ok v
      ∧ rawSchemas (renewed fresh (.object k ms)) = .ok w ∧ Twin ν .table v w := by
  have hnone : Members.getText? ms "components" = none := h.noComponents
  refine ⟨_, _, rawSchemas_older hnone, rawSchemas_newer
    (getText?_documentMembers_components fresh ms hnone)
    (getText?_documentMembers_definitions fresh ms), ?_⟩
  cases hv : Members.getText? ms "definitions" with
  | none => exact .object hzero (.nil _)
  | some v =>
    have htwin : Twin ν .table v (respelled .table v) := twin_respelled .table (hν v hv)
    rw [Option.map_some, Option.filter_some, Option.filter_some, htwin.isGiven_eq (by decide)]
    split
    · exact htwin
    · exact .object hzero (.nil _)

/-- What the head of a document says is the same in both forms, if the tables of schemas are
twins. -/
theorem concur_readHead {ν : Nat → Nat → Prop} (fresh : Nat) {k : Nat} {ms : Members}
    (h : IsOlder (.object k ms)) (hzero : ν 0 0)
    (hν : ∀ v, Members.getText? ms "definitions" = some v → ∀ n ∈ v.numbers, ν n n)
    (os os' : List Operation) :
    Concur (fun d d' => d.title = d'.title ∧ d.description = d'.description
        ∧ d.operations = os ∧ d'.operations = os'
        ∧ List.Forall₂ (Schema.TwinNamed ν) d.schemas d'.schemas)
      (readHead (.object k ms) os) (readHead (renewed fresh (.object k ms)) os') := by
  obtain ⟨v, w, hv, hw, htwin⟩ := exists_rawSchemas fresh h hzero hν
  obtain ⟨⟨s, hs⟩, ⟨s', hs'⟩⟩ := exists_formatVersion fresh h
  have hinfo : readInfo (renewed fresh (.object k ms)) = readInfo (.object k ms) := by
    have hmember : Members.getText? (documentMembers fresh ms) "info"
        = Members.getText? ms "info" :=
      getText?_documentMembers fresh ms (by decide)
    unfold readInfo renewed
    dsimp only [Value.member?]
    rw [hmember]
  unfold readHead
  rw [hv, hw, hs, hs', hinfo]
  refine Concur.bind (R := Twin ν .table) (.ok htwin) fun v w htwin => ?_
  refine Concur.bind (R := fun _ _ => True) (.ok trivial) fun _ _ _ => ?_
  refine Concur.bind (.of_eq rfl) fun info _ hinfo => ?_
  subst hinfo
  -- the version is one text in both, whether it is written or not
  cases Members.getText? info "version"
  all_goals
    refine Concur.bind (R := Eq) (.of_eq rfl) fun version _ _ => ?_
    refine (concur_tableMembers htwin).bind fun table table' htable => ?_
    refine concur_check (.seq (.seq (.map (Checked.Concur.of_eq rfl) ?_)
      (Checked.Concur.of_eq rfl)) (concur_distinctEntries htable).within)
    rintro title _ rfl description _ rfl schemas schemas' hschemas
    exact ⟨rfl, rfl, rfl, rfl, hschemas⟩

end OpenApiClient.Document
