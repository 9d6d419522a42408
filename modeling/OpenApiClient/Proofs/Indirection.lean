/-
Reading a document with references replaced.

References to whole path items, parameters, bodies and responses make no difference: what is
made of a document by putting their targets in their place is read whenever the document is,
and has the same operations (`read_inlined`).  Schemas stay as they are written, since they are
looked for under keys that are kept.

The functions of the reader are taken one after the other.  Each gives in the new document
what it gives in the old one, up to mirrored nodes, and where it gives no nodes exactly that.
-/
import OpenApiClient.Proofs.Agreement
import OpenApiClient.Proofs.Looks
import OpenApiClient.Proofs.ObjectNumbers
import OpenApiClient.Proofs.Replaced

set_option autoImplicit false

namespace OpenApiClient.Document

open Reference
open Validation (Checked)

section Reading

variable {files : Source.Files} {root : Value} {o : Outline}

/-- Sorting by keys keeps members mirrored. -/
theorem mergeSort_mirror {ms ms' : List (Scalar × Node)} (le : Scalar → Scalar → Bool)
    (hms : List.Forall₂ (MemberMirrors files root o) ms ms') :
    List.Forall₂ (MemberMirrors files root o) (ms.mergeSort fun a b => le a.1 b.1)
      (ms'.mergeSort fun a b => le a.1 b.1) :=
  rel_mergeSort hms fun _ _ _ _ ha hb => by rw [ha.1, hb.1]

/-! ## Bodies and responses -/

/-- Two nodes with one value, or two missing ones. -/
def SameValue (n n' : Option Node) : Prop := n'.map (·.value) = n.map (·.value)

theorem SameValue.cases {n n' : Option Node} (h : SameValue n n') :
    (n = none ∧ n' = none) ∨ ∃ m m', n = some m ∧ n' = some m' ∧ m'.value = m.value := by
  unfold SameValue at h
  cases n with
  | none => exact .inl ⟨rfl, Option.map_eq_none_iff.1 h⟩
  | some m =>
    obtain ⟨m', rfl, hvalue⟩ := Option.map_eq_some_iff.1 h
    exact .inr ⟨m, m', rfl, rfl, hvalue⟩

theorem SameValue.present? {n n' : Option Node} (h : SameValue n n') :
    SameValue (present? n) (present? n') := by
  rcases h.cases with ⟨rfl, rfl⟩ | ⟨m, m', rfl, rfl, hvalue⟩
  · rfl
  · unfold SameValue Document.present?
    rw [Option.filter_some, Option.filter_some, hvalue]
    cases m.value.isNull with
    | true => rfl
    | false => exact congrArg some hvalue

section Agreement

variable (hroot : root.spreadBytes = root) (hout : ¬ LooksInside files root)
include hroot hout

theorem preferredMedia_agree {types : List String} {c c' : Node}
    (hc : Resembles files root o c c') :
    Agree files root o (Option.Rel (Resembles files root o)) (preferredMedia c types)
      (preferredMedia c' types) := by
  induction types with
  | nil => exact .pure .none
  | cons type types ih =>
    refine (partNamed?_agree hroot hout hc).bind fun n n' hn => ?_
    cases hn with
    | none => exact ih
    | some hn => exact .pure (.some (.inl hn.1))

theorem firstSchema_agree {ms ms' : List (Scalar × Node)}
    (hms : List.Forall₂ (MemberMirrors files root o) ms ms') :
    Agree files root o SameValue (firstSchema ms) (firstSchema ms') := by
  induction hms with
  | nil => exact .pure rfl
  | cons hm _ ih =>
    refine (partNamed?_agree hroot hout (.inl hm.2.1)).bind fun n n' hn => ?_
    cases hn with
    | none => exact ih
    | some hn =>
      exact .pure (SameValue.present? (congrArg some (hn.2 (by decide))))

theorem contentSchema_agree {c c' : Option Node} (hc : Option.Rel (Resembles files root o) c c') :
    Agree files root o SameValue (contentSchema c) (contentSchema c') := by
  cases hc with
  | none => exact .pure rfl
  | @some c c' hc =>
    refine (isGiven_agree hroot hout hc).bind fun b b' hb => ?_
    subst hb
    cases b with
    | false => exact .pure rfl
    | true =>
      refine (preferredMedia_agree hroot hout hc).bind fun media media' hmedia => ?_
      cases hmedia with
      | none =>
        exact (membersFor_agree hroot hout hc).bind fun ms ms' hms =>
          firstSchema_agree hroot hout hms
      | some hmedia =>
        exact (membersFor_agree hroot hout hmedia).bind fun ms ms' hms =>
          .pure (SameValue.present? (find?_value "schema" (by decide) hms))

theorem successSchema_agree {ms ms' : List (Scalar × Node)}
    (hms : List.Forall₂ (MemberMirrors files root o) ms ms') :
    Agree files root o Eq (successSchema ms) (successSchema ms') := by
  induction hms with
  | nil => exact .pure rfl
  | @cons m m' ms ms' hm _ ih =>
    obtain ⟨code, response⟩ := m
    obtain ⟨code', response'⟩ := m'
    obtain ⟨hcode, hresponse, -⟩ := hm
    dsimp only at hcode hresponse
    subst hcode
    unfold successSchema
    split
    · exact ih
    · refine (membersFor_agree hroot hout (.inl hresponse)).bind fun fs fs' hfs => ?_
      refine (contentSchema_agree hroot hout (find?_resembles "content" hfs)).bind
        fun schema schema' hschema => ?_
      -- the schema of the content, or the one that older formats write beside it
      have hsame : SameValue (schema.or (present? (find? fs "schema")))
          (schema'.or (present? (find? fs' "schema"))) := by
        have hdirect := SameValue.present? (find?_value "schema" (by decide) hfs)
        unfold SameValue at hschema hdirect ⊢
        rw [Option.map_or, Option.map_or, hschema, hdirect]
      rcases hsame.cases with ⟨hn, hn'⟩ | ⟨n, n', hn, hn', hvalue⟩
      · rw [hn, hn']
        exact ih
      · rw [hn, hn']
        dsimp only
        rw [hvalue]
        exact .pure rfl

theorem responseSchema_agree {c c' : Option Node}
    (hc : Option.Rel (Resembles files root o) c c') :
    Agree files root o Eq (responseSchema c) (responseSchema c') := by
  refine (membersOfOptional_agree hroot hout hc).bind fun ms ms' hms => ?_
  have hany : ms'.any (fun m => !m.1.isWritable) = ms.any fun m => !m.1.isWritable := by
    induction hms with
    | nil => rfl
    | cons hm _ ih => rw [List.any_cons, List.any_cons, ih, hm.1]
  rw [hany]
  split
  · exact .throw _ _
  · exact successSchema_agree hroot hout
      (mergeSort_mirror (fun a b => decide (a.display ≤ b.display)) hms)

end Agreement

/-! ## Parameters -/

/-- Two halves of a key: the same scalar, and the new one stands there itself if the old one
does. -/
def KeyMirrors (k k' : KeyPart) : Prop :=
  k'.scalar = k.scalar ∧ (k.direct = true → k'.direct = true)

/-- Two parameters with the same name in the same location and with mirrored members. -/
structure RawMirrors (files : Source.Files) (root : Value) (o : Outline)
    (p p' : RawParameter) : Prop where
  name : KeyMirrors p.name p'.name
  location : KeyMirrors p.location p'.location
  members : List.Forall₂ (MemberMirrors files root o) p.members p'.members

theorem KeyMirrors.text {k k' : KeyPart} (h : KeyMirrors k k') {s : String}
    (htext : k.text = .ok s) : k'.text = .ok s := by
  unfold KeyPart.text at htext ⊢
  cases hdirect : k.direct with
  | true => rw [h.2 hdirect, h.1, if_pos rfl, ← htext, hdirect, if_pos rfl]
  | false =>
    rw [hdirect, if_neg Bool.false_ne_true] at htext
    cases htext

theorem RawMirrors.same {p p' q q' : RawParameter} (hp : RawMirrors files root o p p')
    (hq : RawMirrors files root o q q') : q'.same p' = q.same p := by
  rw [RawParameter.same, RawParameter.same, hp.name.1, hp.location.1, hq.name.1, hq.location.1]

theorem addParameter_mirror {ps ps' : List RawParameter} {p p' : RawParameter}
    (hps : List.Forall₂ (RawMirrors files root o) ps ps') (hp : RawMirrors files root o p p') :
    List.Forall₂ (RawMirrors files root o) (addParameter ps p) (addParameter ps' p') := by
  induction hps with
  | nil => exact .cons hp .nil
  | @cons q q' qs qs' hq hqs ih =>
    rw [addParameter, addParameter, hp.same hq]
    split
    · exact .cons ⟨hq.name, hq.location, hp.members⟩ hqs
    · exact .cons hq ih

/-- The schema of a parameter is looked for under kept keys only. -/
theorem parameterSchema_eq {ms ms' : List (Scalar × Node)}
    (hms : List.Forall₂ (MemberMirrors files root o) ms ms') :
    parameterSchema ms' = parameterSchema ms := by
  have hvalue : ∀ key ∈ keptKeys, (find? ms' key).map (·.value) = (find? ms key).map (·.value) :=
    fun key hkey => find?_value key hkey hms
  have hschema : SameValue (present? (find? ms "schema")) (present? (find? ms' "schema")) :=
    SameValue.present? (hvalue "schema" (by decide))
  unfold parameterSchema
  rcases hschema.cases with ⟨hn, hn'⟩ | ⟨n, n', hn, hn', heq⟩
  · -- without a schema, the members that say the type make up one
    rw [hn, hn']
    dsimp only
    congr 1
    refine List.filterMap_congr fun key hkey => ?_
    have hboth := hvalue key (List.mem_append_right _ hkey)
    have htrim := congrArg (Option.map fun v => (Scalar.text key, v.trimReferences)) hboth
    rw [Option.map_map, Option.map_map] at htrim
    exact htrim
  · rw [hn, hn']
    exact congrArg Value.trimReferences heq

theorem RawParameter.exists_text_of_checked {p : RawParameter} {required : Bool}
    {description : Checked (Option String)} {a : Parameter}
    (h : p.checked required description = .ok a) : ∃ text, description = .ok text := by
  unfold RawParameter.checked at h
  simp only [Checked.seq_eq_ok_iff, Checked.map_eq_ok_iff, Checked.within_eq_ok_iff] at h
  obtain ⟨_, _, ⟨_, text, -, htext, -⟩, -⟩ := h
  exact ⟨text, htext⟩

/-- A parameter that is in order in the old document is in order in the new one, and is the
same. -/
theorem RawMirrors.checked {p p' : RawParameter} {required : Bool}
    {description : Checked (Option String)} {a : Parameter} (hp : RawMirrors files root o p p')
    (h : p.checked required description = .ok a) : p'.checked required description = .ok a := by
  unfold RawParameter.checked at h ⊢
  rw [parameterSchema_eq hp.members]
  simp only [Checked.seq_eq_ok_iff, Checked.map_eq_ok_iff, Checked.within_eq_ok_iff] at h ⊢
  obtain ⟨_, schema, ⟨_, text, ⟨_, location, ⟨name, hname, rfl⟩, hlocation, rfl⟩, htext, rfl⟩,
    hschema, rfl⟩ := h
  exact ⟨_, schema, ⟨_, text, ⟨_, location, ⟨name, hp.name.text hname, rfl⟩,
    hp.location.text hlocation, rfl⟩, htext, rfl⟩, hschema, rfl⟩

section Agreement

variable (hroot : root.spreadBytes = root) (hout : ¬ LooksInside files root)
include hroot hout

theorem keyPart_agree {c c' : Option Node} (hc : Option.Rel (Resembles files root o) c c') :
    Agree files root o KeyMirrors (KeyPart.ofNode c) (KeyPart.ofNode c') := by
  cases hc with
  | none => exact .pure ⟨rfl, fun _ => rfl⟩
  | @some c c' hc =>
    refine (settle_agree hroot hout hc).bind fun m m' hm => ?_
    cases hvalue : m.value with
    | scalar s =>
      rw [hm.alike.scalar hvalue]
      refine .pure ⟨rfl, fun hdirect => ?_⟩
      rw [Bool.not_eq_true'] at hdirect ⊢
      exact hc.plain hdirect
    | _ => exact .throw _ _

theorem rawParameter_agree {c c' : Node} (hc : Resembles files root o c c') :
    Agree files root o (RawMirrors files root o) (rawParameter c) (rawParameter c') := by
  refine (membersFor_agree hroot hout hc).bind fun ms ms' hms => ?_
  refine (keyPart_agree hroot hout (find?_resembles "name" hms)).bind fun name name' hname => ?_
  refine (keyPart_agree hroot hout (find?_resembles "in" hms)).bind fun loc loc' hloc => ?_
  exact .pure ⟨hname, hloc, hms⟩

theorem addParameters_agree {cs cs' : List Node} {ps ps' : List RawParameter}
    (hcs : List.Forall₂ (Resembles files root o) cs cs')
    (hps : List.Forall₂ (RawMirrors files root o) ps ps') :
    Agree files root o (List.Forall₂ (RawMirrors files root o)) (addParameters ps cs)
      (addParameters ps' cs') := by
  induction hcs generalizing ps ps' with
  | nil => exact .pure hps
  | cons hc _ ih =>
    exact (rawParameter_agree hroot hout hc).bind fun p p' hp => ih (addParameter_mirror hps hp)

theorem readParameter_agree {p p' : RawParameter} (hp : RawMirrors files root o p p') :
    Agree files root o Eq (readParameter p) (readParameter p') := by
  unfold readParameter
  rw [hp.location.1]
  refine (isGivenOr_agree hroot hout (find?_resembles "required" hp.members)).bind
    fun required required' hrequired => ?_
  subst hrequired
  intro l l' a l₁ hl h
  obtain ⟨description, l₂, hread, hfinished⟩ := runs_bind_iff.1 h
  obtain ⟨hchecked, rfl⟩ := runs_finished_iff.1 hfinished
  obtain ⟨text, rfl⟩ := RawParameter.exists_text_of_checked hchecked
  obtain ⟨rfl, hread'⟩ :=
    optionalText_agree l' (find?_resembles "description" hp.members) hread
  exact ⟨a, l', runs_bind_iff.2 ⟨_, l', hread', runs_finished_iff.2 ⟨hp.checked hchecked, rfl⟩⟩,
    hl, rfl⟩

theorem readMerged_agree {ps ps' : List RawParameter} {body : Value}
    (hps : List.Forall₂ (RawMirrors files root o) ps ps') :
    Agree files root o Eq (readMerged body ps) (readMerged body ps') := by
  induction hps generalizing body with
  | nil => exact .pure rfl
  | @cons p p' ps ps' hp _ ih =>
    unfold readMerged
    -- both parameters have one location, so both are a body, passed over, or read
    rw [hp.location.1]
    split
    · have hsame : SameValue (find? p.members "schema") (find? p'.members "schema") :=
        find?_value "schema" (by decide) hp.members
      rcases hsame.cases with ⟨hn, hn'⟩ | ⟨n, n', hn, hn', hvalue⟩
      · rw [hn, hn']
        exact ih
      · rw [hn, hn']
        dsimp only
        rw [hvalue]
        exact ih
    · split
      · exact ih
      · refine (readParameter_agree hroot hout hp).bind fun a a' ha => ?_
        refine ih.bind fun rest rest' hrest => ?_
        subst ha hrest
        exact .pure rfl

theorem readParameters_agree {c c' d d' : Option Node}
    (hc : Option.Rel (Resembles files root o) c c')
    (hd : Option.Rel (Resembles files root o) d d') :
    Agree files root o Eq (readParameters c d) (readParameters c' d') := by
  refine (partsOfOptional_agree hroot hout hc).bind fun ps ps' hps => ?_
  refine (partsOfOptional_agree hroot hout hd).bind fun qs qs' hqs => ?_
  refine (addParameters_agree hroot hout (List.rel_append hps hqs) .nil).bind
    fun merged merged' hmerged => ?_
  exact readMerged_agree hroot hout hmerged

end Agreement

/-! ## Operations -/

theorem OperationTexts.exists_of_checked {texts : OperationTexts} {verb : Verb} {path : Scalar}
    {parameters : List Parameter} {deprecated : Bool} {body : Value} {response : Option Value}
    {a : Operation}
    (h : texts.checked verb path parameters deprecated body response = .ok a) :
    ∃ operationId summary description, ∃ tags : List String,
      texts = ⟨.ok operationId, .ok summary, .ok description, tags.map .ok⟩ := by
  obtain ⟨operationId, summary, description, tags⟩ := texts
  unfold OperationTexts.checked at h
  simp only [Checked.seq_eq_ok_iff, Checked.map_eq_ok_iff, Checked.within_eq_ok_iff,
    numbered_eq_ok_iff] at h
  obtain ⟨_, _, ⟨_, _, ⟨_, tags', ⟨_, description', ⟨_, summary', ⟨_, operationId', ⟨_, -, -⟩,
    hid, -⟩, hsummary, -⟩, hdescription, -⟩, htags, -⟩, -⟩, -⟩ := h
  exact ⟨operationId', summary', description', tags', by
    rw [hid, hsummary, hdescription, htags]⟩

section Agreement

variable (hroot : root.spreadBytes = root) (hout : ¬ LooksInside files root)
include hroot hout

theorem bodySchema_agree {fromParameters : Value} {c c' : Option Node}
    (hc : Option.Rel (Resembles files root o) c c') :
    Agree files root o Eq (bodySchema fromParameters c) (bodySchema fromParameters c') := by
  cases hc with
  | none => exact .pure rfl
  | @some c c' hc =>
    refine (isGiven_agree hroot hout hc).bind fun b b' hb => ?_
    subst hb
    cases b with
    | false => exact .pure rfl
    | true =>
      refine (membersFor_agree hroot hout hc).bind fun ms ms' hms => ?_
      refine (contentSchema_agree hroot hout (find?_resembles "content" hms)).bind
        fun n n' hsame => ?_
      rcases hsame.cases with ⟨rfl, rfl⟩ | ⟨m, m', rfl, rfl, hvalue⟩
      · exact .pure rfl
      · dsimp only
        rw [hvalue]
        exact .pure rfl

theorem readOperation_agree {verb : Verb} {path : Scalar} {level level' : Option Node}
    {c c' : Node} (hlevel : Option.Rel (Resembles files root o) level level')
    (hc : Resembles files root o c c') :
    Agree files root o Eq (readOperation verb path level c)
      (readOperation verb path level' c') := by
  unfold readOperation
  refine (membersFor_agree hroot hout hc).bind fun ms ms' hms => ?_
  refine (readParameters_agree hroot hout hlevel (find?_resembles "parameters" hms)).bind
    fun parameters parameters' hparameters => ?_
  subst hparameters
  refine (bodySchema_agree hroot hout (find?_resembles "requestBody" hms)).bind
    fun body body' hbody => ?_
  subst hbody
  refine (isGivenOr_agree hroot hout (find?_resembles "deprecated" hms)).bind
    fun deprecated deprecated' hdeprecated => ?_
  subst hdeprecated
  refine (partsOfOptional_agree hroot hout (find?_resembles "tags" hms)).bind
    fun tagNodes tagNodes' htagNodes => ?_
  refine (responseSchema_agree hroot hout (find?_resembles "responses" hms)).bind
    fun response response' hresponse => ?_
  subst hresponse
  -- From here on only fields are read, and all of them are in order.
  intro l l' a l₁ hl h
  simp only [runs_bind_iff, runs_finished_iff] at h
  obtain ⟨operationId, l₂, hid, summary, l₃, hsummary, description, l₄, hdescription, tags, l₅,
    htags, hchecked, rfl⟩ := h
  obtain ⟨operationId', summary', description', tags', heq⟩ :=
    OperationTexts.exists_of_checked hchecked
  cases heq
  obtain ⟨rfl, hid'⟩ := optionalText_agree l' (find?_resembles "operationId" hms) hid
  obtain ⟨rfl, hsummary'⟩ := optionalText_agree l' (find?_resembles "summary" hms) hsummary
  obtain ⟨rfl, hdescription'⟩ :=
    optionalText_agree l' (find?_resembles "description" hms) hdescription
  obtain ⟨rfl, htags'⟩ := texts_agree l' htagNodes htags
  refine ⟨a, l', ?_, hl, rfl⟩
  simp only [runs_bind_iff, runs_finished_iff]
  exact ⟨_, l', hid', _, l', hsummary', _, l', hdescription', _, l', htags', hchecked, rfl⟩

theorem readPathItem_agree {path : Scalar} {level level' : Option Node}
    {ms ms' : List (Scalar × Node)} (hlevel : Option.Rel (Resembles files root o) level level')
    (hms : List.Forall₂ (MemberMirrors files root o) ms ms') :
    Agree files root o Eq (readPathItem path level ms) (readPathItem path level' ms') := by
  induction hms with
  | nil => exact .pure rfl
  | @cons m m' ms ms' hm _ ih =>
    obtain ⟨key, spec⟩ := m
    obtain ⟨key', spec'⟩ := m'
    obtain ⟨hkey, hspec, -⟩ := hm
    dsimp only at hkey hspec
    rw [hkey]
    unfold readPathItem
    -- only the name of a verb makes an operation of a member
    cases key with
    | text name =>
      dsimp only
      cases Verb.ofName? name with
      | none => exact ih
      | some verb =>
        refine (readOperation_agree hroot hout hlevel (.inl hspec)).bind fun a a' ha => ?_
        refine ih.bind fun rest rest' hrest => ?_
        subst ha hrest
        exact .pure rfl
    | _ => exact ih

theorem readPaths_agree {ms ms' : List (Scalar × Node)}
    (hms : List.Forall₂ (MemberMirrors files root o) ms ms') :
    Agree files root o Eq (readPaths ms) (readPaths ms') := by
  induction hms with
  | nil => exact .pure rfl
  | @cons m m' ms ms' hm _ ih =>
    obtain ⟨path, item⟩ := m
    obtain ⟨path', item'⟩ := m'
    obtain ⟨hpath, hitem, -⟩ := hm
    dsimp only at hpath hitem
    subst hpath
    unfold readPaths
    refine (membersFor_agree hroot hout (.inl hitem)).bind fun fs fs' hfs => ?_
    refine (readPathItem_agree hroot hout (find?_resembles "parameters" hfs) hfs).bind
      fun a a' ha => ?_
    refine ih.bind fun rest rest' hrest => ?_
    subst ha hrest
    exact .pure rfl

/-- The operations of a document are those of what an outline makes of it. -/
theorem readOperations_agree : Agree files root o Eq readOperations readOperations := by
  have hget : Agree files root o
      (fun l l' => Resembles files root o (l.rootNode 0) (l'.rootNode 0)) get get := by
    intro l l' a l₁ hl h
    obtain ⟨rfl, rfl⟩ := runs_get_iff.1 h
    exact ⟨l', l', runs_get_iff.2 ⟨rfl, rfl⟩, hl, .inl (hl.rootNode 0)⟩
  refine hget.bind fun l l' hl => ?_
  refine (membersFor_agree hroot hout hl).bind fun ms ms' hms => ?_
  have hpaths := find?_resembles "paths" hms
  generalize find? ms "paths" = n at hpaths ⊢
  generalize find? ms' "paths" = n' at hpaths ⊢
  cases hpaths with
  | none => exact .pure rfl
  | some hn =>
    exact (membersFor_agree hroot hout hn).bind fun _ _ hitems => readPaths_agree hroot hout hitems

end Agreement

end Reading

/-! ## Operations up to the numbers of their objects -/

/-- A parameter with the objects of its schema numbered alike. -/
def unnumberedParameter (p : Parameter) : Parameter := { p with schema := p.schema.unnumbered }

/-- An operation with the objects of its schemas numbered alike.  The numbers only tell copies
of an object apart; everything else that an operation says stays. -/
def unnumberedOperation (a : Operation) : Operation :=
  { a with
    parameters := a.parameters.map unnumberedParameter
    requestBody := a.requestBody.map Value.unnumbered
    response := a.response.map Value.unnumbered }

theorem unnumbered_renumberOptional (next : Nat) (v : Option Value) :
    (renumberOptional next v).1.map Value.unnumbered = v.map Value.unnumbered := by
  cases v with
  | none => rfl
  | some v => exact congrArg some (Value.unnumbered_renumber next v)

theorem unnumbered_renumberParameters (next : Nat) (ps : List Parameter) :
    (renumberParameters next ps).1.map unnumberedParameter = ps.map unnumberedParameter := by
  induction ps generalizing next with
  | nil => rfl
  | cons p ps ih =>
    rw [renumberParameters, List.map_cons, List.map_cons, ih]
    exact congrArg (· :: _) (congrArg (fun v => { p with schema := v })
      (Value.unnumbered_renumber next p.schema))

theorem unnumbered_renumberOperations (next : Nat) (as : List Operation) :
    (renumberOperations next as).1.map unnumberedOperation = as.map unnumberedOperation := by
  induction as generalizing next with
  | nil => rfl
  | cons a as ih =>
    rw [renumberOperations, List.map_cons, List.map_cons, ih]
    refine congrArg (· :: _) ?_
    simp only [unnumberedOperation, unnumbered_renumberParameters, unnumbered_renumberOptional]

/-! ## Documents -/

/-- What a document that could be read was made of. -/
theorem readParts_ok_iff {files : Source.Files} {raw : Value} {as : List Operation} :
    (∃ d, readParts files raw = .ok d ∧ d.operations = as) ↔
      (raw.holdsLoop || raw.isTooDeep) = false
        ∧ ∃ operations l d, Runs readOperations (Library.ofValue files raw.spreadBytes) operations l
          ∧ readHead raw operations = .ok d
          ∧ (renumberOperations raw.nextNumber d.operations).1 = as := by
  unfold readParts
  -- a value with a loop in it, or too deep, is not read at all
  cases raw.holdsLoop || raw.isTooDeep with
  | true =>
    constructor
    · rintro ⟨d, h, -⟩
      rw [if_pos rfl] at h
      obtain ⟨_, h, -⟩ := bind_eq_ok_iff.1 h
      cases h
    · rintro ⟨h, -⟩
      cases h
  | false =>
    rw [if_neg Bool.false_ne_true]
    constructor
    · rintro ⟨d, h, hd⟩
      obtain ⟨⟨operations, l⟩, hrun, h⟩ := bind_eq_ok_iff.1 h
      obtain ⟨d₀, hhead, h⟩ := bind_eq_ok_iff.1 h
      refine ⟨rfl, operations, l, d₀, hrun, hhead, ?_⟩
      rw [← hd, ← pure_eq_ok_iff.1 h]
    · rintro ⟨-, operations, l, d₀, hrun, hhead, has⟩
      exact ⟨_, bind_eq_ok_iff.2 ⟨⟨operations, l⟩, hrun, bind_eq_ok_iff.2 ⟨d₀, hhead, rfl⟩⟩, has⟩

/-- A document is read when it is an object whose paths are an object. -/
theorem read_eq_readParts {files : Source.Files} {raw : Value} {k : Nat} {ms : Members}
    (h : raw.member? "paths" = some (.object k ms)) : read files raw = readParts files raw := by
  cases raw with
  | object n fields =>
    have hpaths : Members.getText? fields "paths" = some (.object k ms) := h
    simp only [read, hpaths]
  | _ => cases h

theorem member?_of_read {files : Source.Files} {raw : Value} {d : OpenApiClient.Document}
    (h : read files raw = .ok d) : ∃ k ms, raw.member? "paths" = some (.object k ms) := by
  cases raw with
  | object n fields =>
    cases hpaths : Members.getText? fields "paths" with
    | none =>
      simp only [read, hpaths] at h
      cases h
    | some v =>
      cases v with
      | object k ms => exact ⟨k, ms, hpaths⟩
      | _ =>
        simp only [read, hpaths] at h
        cases h
  | _ => cases h

/-- The paths of the new document are an object if those of the old one are. -/
theorem member?_paths_inlined (files : Source.Files) (levels : Nat) {raw : Value} {k : Nat}
    {ms : Members} (h : raw.member? "paths" = some (.object k ms)) :
    ∃ ms', (inlined files levels raw).member? "paths" = some (.object k ms') := by
  rcases member?_cases (landing files raw.spreadBytes) (Outline.document levels) ⟨0, [], raw⟩
    "paths" with ⟨-, hmember⟩ | ⟨i, v, hmember, hmade⟩
  · dsimp only at hmember
    rw [h] at hmember
    cases hmember
  · dsimp only at hmember
    rw [h, Option.some.injEq] at hmember
    obtain ⟨hvalue, -⟩ := part_fields (landing files raw.spreadBytes)
      (Outline.documentFields levels) ⟨0, [], raw⟩ i "paths" v rfl
    obtain ⟨ms', hobject, -⟩ := (inlineWith_alike _ _ _).exists_object (hvalue.trans hmember.symm)
    refine ⟨ms', ?_⟩
    rw [inlined, hmade]
    exact congrArg some hobject

/-- References to whole path items, parameters, bodies and responses make no difference: if a
document can be read, so can the one with their targets in their place, and both have the same
operations. -/
theorem read_inlined {files : Source.Files} {levels : Nat} {raw : Value}
    {d : OpenApiClient.Document} (hread : read files raw = .ok d)
    (hout : ¬ LooksInside files raw.spreadBytes)
    (hdepth : (inlined files levels raw).isTooDeep = false) :
    ∃ d', read files (inlined files levels raw) = .ok d'
      ∧ d'.operations.map unnumberedOperation = d.operations.map unnumberedOperation := by
  obtain ⟨k, ms, hpaths⟩ := member?_of_read hread
  obtain ⟨ms', hpaths'⟩ := member?_paths_inlined files levels hpaths
  rw [read_eq_readParts hpaths] at hread
  obtain ⟨hguard, operations, l, d₀, hrun, hhead, hd⟩ := readParts_ok_iff.1 ⟨d, hread, rfl⟩
  rw [Bool.or_eq_false_iff] at hguard
  have hroot : raw.spreadBytes.spreadBytes = raw.spreadBytes := spreadBytes_idem raw
  -- Both readings begin with libraries that mirror each other.
  have hlibrary : LibraryMirrors files raw.spreadBytes (Outline.document levels)
      (.ofValue files raw.spreadBytes)
      (.ofValue files (inlined files levels raw).spreadBytes) := by
    rw [spreadBytes_inlined]
    exact ⟨[], rfl, rfl⟩
  obtain ⟨operations', l', hrun', -, rfl⟩ :=
    readOperations_agree hroot hout _ _ operations l hlibrary hrun
  have hloop : (inlined files levels raw).holdsLoop = false :=
    holdsLoop_inlineWith hroot (by rw [holdsLoop_spreadBytes]; exact hguard.1) ⟨rfl, rfl⟩
  obtain ⟨d', hread', hd'⟩ := readParts_ok_iff.2 ⟨by rw [hloop, hdepth]; rfl, operations, l', d₀,
    hrun', readHead_inlined hhead, rfl⟩
  refine ⟨d', (read_eq_readParts hpaths').trans hread', ?_⟩
  rw [hd', ← hd, unnumbered_renumberOperations, unnumbered_renumberOperations]

/-! ### A document with references in all these places -/

/-- An object with textual keys. -/
def objectOf (ms : List (String × Value)) : Value := .object 0 (ms.map fun m => (.text m.1, m.2))

/-- A reference. -/
def referring (target : String) : Value := objectOf [("$ref", .text target)]

/-- A body or a response whose schema is a reference. -/
def petContent : Value :=
  objectOf [("content", objectOf [("application/json",
    objectOf [("schema", referring "#/components/schemas/Pet")])])]

/-- A parameter whose schema is a reference. -/
def pageParameter : Value :=
  objectOf [("name", .text "page"), ("in", .text "query"),
    ("schema", referring "#/components/schemas/Page")]

/-- A path item with a parameter, a body and a response. -/
def petItem (parameter body response : Value) : Value :=
  objectOf [("parameters", .list [parameter]),
    ("post", objectOf [("requestBody", body), ("responses", objectOf [("200", response)])])]

/-- A document that says everything once and refers to it.  The response is referred to in two
steps. -/
def petDocument : Value :=
  objectOf [("paths", objectOf [("/pets", referring "#/components/pathItems/pets")]),
    ("components", objectOf [
      ("pathItems", objectOf [("pets", petItem (referring "#/components/parameters/page")
        (referring "#/components/requestBodies/pet")
        (referring "#/components/responses/created"))]),
      ("parameters", objectOf [("page", pageParameter)]),
      ("requestBodies", objectOf [("pet", petContent)]),
      ("responses", objectOf [("created", referring "#/components/responses/pet"),
        ("pet", petContent)]),
      ("schemas", objectOf [("Pet", objectOf [("type", .text "object")]),
        ("Page", objectOf [("type", .text "integer")])])])]

/-- Which of the schemas of an operation are references: those of its parameters, of its body
and of its response. -/
def referringSchemas (a : Operation) : List Bool × Bool × Bool :=
  (a.parameters.map fun p => p.schema.reference?.isSome,
    (a.requestBody.bind Value.reference?).isSome, (a.response.bind Value.reference?).isSome)

/-- The operations of a reading that succeeded, with what is known of them. -/
def readRows (r : Except Fault OpenApiClient.Document) :
    Option (List (List Bool × Bool × Bool)) :=
  r.toOption.map fun d => (d.operations.map unnumberedOperation).map referringSchemas

theorem exists_of_readRows {r : Except Fault OpenApiClient.Document}
    {rows : List (List Bool × Bool × Bool)} (h : readRows r = some rows) :
    ∃ d, r = .ok d ∧ (d.operations.map unnumberedOperation).map referringSchemas = rows := by
  cases r with
  | error e => cases h
  | ok d => exact ⟨d, rfl, Option.some.inj h⟩

theorem read_inlined_petDocument :
    ∃ d d', read [] petDocument = .ok d ∧ read [] (inlined [] 1 petDocument) = .ok d'
      ∧ d'.operations.map unnumberedOperation = d.operations.map unnumberedOperation := by
  have hrows : readRows (read [] petDocument) = some [([true], true, true)] := by decide +kernel
  obtain ⟨d, hread, -⟩ := exists_of_readRows hrows
  have hout : ¬ LooksInside [] petDocument.spreadBytes :=
    not_looksInside_of_allStayOut (by decide +kernel)
  obtain ⟨d', hread', hsame⟩ := read_inlined hread hout
    (show (inlined [] 1 petDocument).isTooDeep = false by decide +kernel)
  exact ⟨d, d', hread, hread', hsame⟩

/-- In the new document only the schemas are left to be followed. -/
example : (((inlined [] 1 petDocument).member? "paths").bind (·.member? "/pets")).map Value.literal
    = some (petItem pageParameter petContent petContent).literal := by
  decide +kernel

/-! ### What may not be replaced -/

/-- A document in which a path item stands under the key of schemas, and the paths are what a
body says about its media type. -/
def pathsAsMedia (item : Value) : Value :=
  objectOf [("paths", objectOf [("schema", item),
      ("/a", objectOf [("post", objectOf [("requestBody", objectOf [("content",
        objectOf [("application/json", referring "#/paths")])])])])]),
    ("x", objectOf [])]

/-- A value that is nested as deeply as the number says. -/
def nestedValue : Nat → Value
  | 0 => objectOf []
  | k + 1 => objectOf [("items", nestedValue k)]

/-- A parameter with a nested schema. -/
def nestedParameter : Value :=
  objectOf [("name", .text "p"), ("in", .text "query"), ("schema", nestedValue 480)]

/-- A document with that parameter among its components, and an operation that has `parameter`. -/
def nestedDocument (parameter : Value) : Value :=
  objectOf [("paths", objectOf [("/a",
      objectOf [("get", objectOf [("parameters", .list [parameter])])])]),
    ("components", objectOf [("parameters", objectOf [("p", nestedParameter)])])]

/-- Not every reference can be replaced.  If a path item under a kept key is, the body of an
operation changes, since that takes the path item as its schema.  And a parameter that stands
deeper than before can be nested too deeply to be read. -/
theorem replaced_differs :
    (∃ d d', read [] (pathsAsMedia (referring "#/x")) = .ok d
      ∧ read [] (pathsAsMedia (objectOf [])) = .ok d'
      ∧ d'.operations.map unnumberedOperation ≠ d.operations.map unnumberedOperation)
    ∧ ∃ d, read [] (nestedDocument (referring "#/components/parameters/p")) = .ok d
      ∧ ∀ d', read [] (nestedDocument nestedParameter) ≠ .ok d' := by
  refine ⟨?_, ?_⟩
  · have hrows : readRows (read [] (pathsAsMedia (referring "#/x")))
        = some [([], true, false)] := by
      decide +kernel
    have hrows' : readRows (read [] (pathsAsMedia (objectOf []))) = some [([], false, false)] := by
      decide +kernel
    obtain ⟨d, hread, hd⟩ := exists_of_readRows hrows
    obtain ⟨d', hread', hd'⟩ := exists_of_readRows hrows'
    refine ⟨d, d', hread, hread', fun hsame => ?_⟩
    rw [hsame, hd] at hd'
    revert hd'
    decide
  · have hrows : readRows (read [] (nestedDocument (referring "#/components/parameters/p")))
        = some [([false], false, false)] := by
      decide +kernel
    have hnone : readRows (read [] (nestedDocument nestedParameter)) = none := by decide +kernel
    obtain ⟨d, hread, -⟩ := exists_of_readRows hrows
    refine ⟨d, hread, fun d' hread' => ?_⟩
    rw [hread'] at hnone
    cases hnone

end OpenApiClient.Document
