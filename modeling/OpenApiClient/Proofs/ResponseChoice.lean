/-
Which response gives the type of a result.

A client gets the schema of one response of an operation: of those with a code of success the one
that comes first as a text.  The responses are sorted, so the order in which they are written does
not count, and neither does it whether a code is a number or a text; `IsFirst` says the same without
any sorting, and since the codes are different there is at most one such response.

What may go wrong is the choice inside of a response.  The reader goes by the type of the content
first: once it has met a type of JSON, or a schema that is null, it looks at no other type.  So a
response can have a schema and yet show none, and then the answer comes from a later response, or
there is no answer.  `Response.Hides` says exactly when.

Responses and the types of their content may be references, so what a node shows is said for all
libraries of which a fact `P` is true, and looking at it has to keep that fact.
-/
import Mathlib
import OpenApiClient.Proofs.InPlace

set_option autoImplicit false

namespace OpenApiClient.Document

open Reference (Node Library)

/-! ## What responses say -/

/-- What a response says of its body: the schema under each type of its content, and one of its
own.  A schema may be left out, and it may be null. -/
structure Response where
  content : List (Scalar × Option Value)
  own : Option Value

/-- A schema, unless it is left out or null. -/
def given? (v : Option Value) : Option Value := v.filter fun v => !v.isNull

namespace Response

/-- A response has a body: a schema stands under one of its types, or is its own. -/
def Carries (r : Response) : Prop :=
  (∃ m ∈ r.content, given? m.2 ≠ none) ∨ given? r.own ≠ none

/-- What stands under the preferred type of JSON, if there is one. -/
def json? (r : Response) : Option (Option Value) :=
  jsonMediaTypes.findSome? fun type => (r.content.find? fun m => m.1.isText type).map (·.2)

/-- The place in the content that is looked at: the preferred type of JSON, and if there is none
the first type with a schema, also if that is null. -/
def looked (r : Response) : Option Value := r.json?.getD (r.content.findSome? (·.2))

/-- The schema that is seen of a response. -/
def seen? (r : Response) : Option Value := (given? r.looked).or (given? r.own)

/-- A response hides its body: it has a schema under some type, but where it is looked for it is
left out or null, and it has none of its own. -/
def Hides (r : Response) : Prop :=
  (∃ m ∈ r.content, given? m.2 ≠ none) ∧ given? r.looked = none ∧ given? r.own = none

theorem seen?_eq_none_iff (r : Response) :
    r.seen? = none ↔ given? r.looked = none ∧ given? r.own = none := Option.or_eq_none_iff

theorem exists_of_json? {r : Response} {s : Option Value} (h : r.json? = some s) :
    ∃ m ∈ r.content, m.2 = s := by
  obtain ⟨type, -, hmap⟩ := List.exists_of_findSome?_eq_some h
  obtain ⟨m, hm, heq⟩ := Option.map_eq_some_iff.1 hmap
  exact ⟨m, List.mem_of_find?_eq_some hm, heq⟩

/-- Whatever is looked at stands under one of the types. -/
theorem exists_of_looked {r : Response} {v : Value} (h : r.looked = some v) :
    ∃ m ∈ r.content, m.2 = some v := by
  unfold looked at h
  cases hjson : r.json? with
  | some s =>
    rw [hjson, Option.getD_some] at h
    rw [← h]
    exact exists_of_json? hjson
  | none =>
    rw [hjson, Option.getD_none] at h
    obtain ⟨m, hm, heq⟩ := List.exists_of_findSome?_eq_some h
    exact ⟨m, hm, heq⟩

theorem given?_looked_of_nil {r : Response} (h : r.content = []) : given? r.looked = none := by
  rw [looked, json?, h]
  rfl

/-- What is seen of a response is one of its schemas. -/
theorem carries_of_seen? {r : Response} (h : r.seen? ≠ none) : r.Carries := by
  by_cases hown : given? r.own = none
  · have hlooked : given? r.looked ≠ none := fun hnone =>
      h ((seen?_eq_none_iff r).2 ⟨hnone, hown⟩)
    cases hvalue : r.looked with
    | none =>
      rw [hvalue] at hlooked
      exact absurd rfl hlooked
    | some v =>
      obtain ⟨m, hm, heq⟩ := exists_of_looked hvalue
      refine .inl ⟨m, hm, ?_⟩
      rw [heq, ← hvalue]
      exact hlooked
  · exact .inr hown

/-- A response with a body shows a schema exactly if it does not hide it. -/
theorem Carries.seen?_iff {r : Response} (h : r.Carries) : r.seen? ≠ none ↔ ¬ r.Hides := by
  rw [Ne, seen?_eq_none_iff, Hides, not_iff_not]
  constructor
  · rintro ⟨hlooked, hown⟩
    exact ⟨h.resolve_right fun hne => hne hown, hlooked, hown⟩
  · rintro ⟨-, hlooked, hown⟩
    exact ⟨hlooked, hown⟩

end Response

/-! ## The first response -/

/-- Whether a code is one of success. -/
def isSuccess (code : Scalar) : Bool := code.display.startsWith "2"

/-- A code of three digits can be written out. -/
theorem isWritable_of_lt {code : Nat} (h : code < 10 ^ 3) :
    (Scalar.int code).isWritable = true := by
  have hdigits : 3 ≤ Text.maxDigits := by decide
  have hlt : code < Scalar.writtenEnd := by
    unfold Scalar.writtenEnd
    generalize Text.maxDigits = limit at hdigits
    exact Nat.lt_of_lt_of_le h (Nat.pow_le_pow_right (by decide) hdigits)
  rw [Scalar.isWritable, Int.natAbs_natCast]
  exact decide_eq_true hlt

/-- Of the responses of success with a property, the one whose code comes first as a text. -/
structure IsFirst (rs : List (Scalar × Response)) (p : Response → Prop) (e : Scalar × Response) :
    Prop where
  mem : e ∈ rs
  success : isSuccess e.1 = true
  holds : p e.2
  least : ∀ e' ∈ rs, isSuccess e'.1 = true → p e'.2 → e.1.display ≤ e'.1.display

/-- Responses with the texts of their codes. -/
abbrev spelled (rs : List (Scalar × Response)) : List (String × Response) :=
  rs.map fun e => (e.1.display, e.2)

namespace IsFirst

variable {rs : List (Scalar × Response)} {p : Response → Prop} {e e' : Scalar × Response}

/-- A response that is passed over may be left out. -/
theorem cons_iff (hout : ¬ (isSuccess e'.1 = true ∧ p e'.2)) :
    IsFirst (e' :: rs) p e ↔ IsFirst rs p e := by
  constructor
  · intro h
    have hmem : e ∈ rs := by
      rcases List.mem_cons.1 h.mem with rfl | hmem
      · exact absurd ⟨h.success, h.holds⟩ hout
      · exact hmem
    exact ⟨hmem, h.success, h.holds, fun a ha => h.least a (List.mem_cons_of_mem _ ha)⟩
  · intro h
    refine ⟨List.mem_cons_of_mem _ h.mem, h.success, h.holds, fun a ha hsuccess hp => ?_⟩
    rcases List.mem_cons.1 ha with rfl | ha
    · exact absurd ⟨hsuccess, hp⟩ hout
    · exact h.least a ha hsuccess hp

/-- Which response is the first is a matter of the texts of the codes, not of their order or
kinds. -/
theorem transfer {rs' : List (Scalar × Response)} (h : IsFirst rs p e)
    (hperm : (spelled rs').Perm (spelled rs)) : ∃ e', IsFirst rs' p e' ∧ e'.2 = e.2 := by
  obtain ⟨e', he', heq⟩ := List.mem_map.1 (hperm.mem_iff.2 (List.mem_map_of_mem h.mem))
  obtain ⟨hcode, hresponse⟩ := Prod.mk.inj heq
  refine ⟨e', ⟨he', ?_, ?_, fun a ha hsuccess hp => ?_⟩, hresponse⟩
  · rw [isSuccess, hcode]
    exact h.success
  · rw [hresponse]
    exact h.holds
  · obtain ⟨b, hb, hab⟩ := List.mem_map.1 (hperm.mem_iff.1 (List.mem_map_of_mem ha))
    obtain ⟨hcode', hresponse'⟩ := Prod.mk.inj hab
    rw [hcode, ← hcode']
    apply h.least b hb
    · rw [isSuccess, hcode']
      exact hsuccess
    · rw [hresponse']
      exact hp

end IsFirst

/-- The first response with a body is the one that is seen first exactly if it does not hide its
body. -/
theorem IsFirst.seen_iff {rs : List (Scalar × Response)} {e : Scalar × Response}
    (h : IsFirst rs Response.Carries e) : IsFirst rs (·.seen? ≠ none) e ↔ ¬ e.2.Hides := by
  rw [← h.holds.seen?_iff]
  constructor
  · exact IsFirst.holds
  · intro hseen
    exact ⟨h.mem, h.success, hseen, fun e' he' hsuccess hseen' =>
      h.least e' he' hsuccess (Response.carries_of_seen? hseen')⟩

/-- What is answered to a look through responses. -/
def answer? (rs : List (Scalar × Response)) : Option Value :=
  rs.findSome? fun e => if isSuccess e.1 then e.2.seen? else none

theorem answer?_cons_of_seen {e : Scalar × Response} {v : Value} (hsuccess : isSuccess e.1 = true)
    (hseen : e.2.seen? = some v) (rs : List (Scalar × Response)) :
    answer? (e :: rs) = some v := by
  rw [answer?, List.findSome?_cons, if_pos hsuccess, hseen]

theorem answer?_cons_of_passed {e : Scalar × Response}
    (hout : ¬ (isSuccess e.1 = true ∧ e.2.seen? ≠ none)) (rs : List (Scalar × Response)) :
    answer? (e :: rs) = answer? rs := by
  have hnone : (if isSuccess e.1 then e.2.seen? else none) = none := by
    split
    · by_contra hne
      exact hout ⟨‹_›, hne⟩
    · rfl
  rw [answer?, List.findSome?_cons, hnone, ← answer?]

/-- In a sorted list the answer is given by the first response that shows a schema. -/
theorem answer?_eq_some_iff {rs : List (Scalar × Response)}
    (hsorted : rs.Pairwise fun e e' => e.1.display < e'.1.display) {v : Value} :
    answer? rs = some v ↔ ∃ e, IsFirst rs (·.seen? ≠ none) e ∧ e.2.seen? = some v := by
  induction rs with
  | nil =>
    constructor
    · intro h
      cases h
    · rintro ⟨e, he, -⟩
      cases he.mem
  | cons a rs ih =>
    obtain ⟨hbefore, hsorted⟩ := List.pairwise_cons.1 hsorted
    -- the head comes before all others, so it is the first if it shows a schema at all
    by_cases hshown : isSuccess a.1 = true ∧ a.2.seen? ≠ none
    · obtain ⟨hsuccess, hseen⟩ := hshown
      have hanswer : answer? (a :: rs) = a.2.seen? := by
        obtain ⟨w, hw⟩ := Option.ne_none_iff_exists'.1 hseen
        rw [answer?_cons_of_seen hsuccess hw, hw]
      rw [hanswer]
      constructor
      · intro h
        refine ⟨a, ⟨List.mem_cons_self, hsuccess, hseen, fun b hb _ _ => ?_⟩, h⟩
        rcases List.mem_cons.1 hb with rfl | hb
        · exact le_rfl
        · exact (hbefore b hb).le
      · rintro ⟨e, he, hv⟩
        rcases List.mem_cons.1 he.mem with rfl | hmem
        · exact hv
        · exact absurd (he.least a List.mem_cons_self hsuccess hseen) (hbefore e hmem).not_ge
    · rw [answer?_cons_of_passed hshown, ih hsorted]
      exact exists_congr fun e => and_congr_left' (IsFirst.cons_iff hshown).symm

/-! ## Nodes that show a response -/

variable {P : Library → Prop} {l : Library}

/-- In every library of which `P` is true an object stands in the place of the node; `P` stays true
when it is looked at, and its members are as `R` says. -/
def ShowsObject (P : Library → Prop) (n : Node) (R : List (Scalar × Node) → Prop) : Prop :=
  ∀ l, P l → ∃ m l' k ms, Runs (settle n) l m l' ∧ P l' ∧ m.value = .object k ms
    ∧ R (memberNodes m ms)

/-- The node shows a type of a content. -/
def ShowsMedia (P : Library → Prop) (schema : Option Value) (n : Node) : Prop :=
  ShowsObject P n fun ms => (find? ms "schema").map (·.value) = schema

/-- The members show a content. -/
abbrev ShowsTypes (P : Library → Prop) :
    List (Scalar × Option Value) → List (Scalar × Node) → Prop :=
  List.Forall₂ fun m p => m.1 = p.1 ∧ ShowsMedia P m.2 p.2

/-- The node shows a content, which may be left out. -/
def ShowsContent (P : Library → Prop) (content : List (Scalar × Option Value)) :
    Option Node → Prop
  | none => content = []
  | some n => ShowsObject P n (ShowsTypes P content)

/-- The node shows a response. -/
def ShowsResponse (P : Library → Prop) (r : Response) (n : Node) : Prop :=
  ShowsObject P n fun ms => ShowsContent P r.content (find? ms "content")
    ∧ (find? ms "schema").map (·.value) = r.own

/-- The node shows responses with their codes. -/
def ShowsResponses (P : Library → Prop) (rs : List (Scalar × Response)) (n : Node) : Prop :=
  ShowsObject P n (List.Forall₂ (fun e p => e.1 = p.1 ∧ ShowsResponse P e.2 p.2) rs)

namespace ShowsObject

variable {n : Node} {R : List (Scalar × Node) → Prop}

/-- An object that is no reference stands in its own place, whatever is in the library. -/
theorem of_plain {k : Nat} {ms : Members} (hvalue : n.value = .object k ms)
    (hplain : n.value.reference? = none) (hR : R (memberNodes n ms)) : ShowsObject P n R := by
  intro l hl
  refine ⟨n, l, k, ms, ?_, hl, hvalue, hR⟩
  rw [settle_eq hplain]
  exact runs_pure_iff.2 ⟨rfl, rfl⟩

/-- What is asked of the members of an object is answered by them. -/
theorem runs {β : Type} {f : Node → Reading β} {g : List (Scalar × Node) → β}
    (h : ShowsObject P n R) (hl : P l)
    (hf : ∀ m k ms, m.value = .object k ms → f m = pure (g (memberNodes m ms))) :
    ∃ ms l', Runs (settle n >>= f) l (g ms) l' ∧ P l' ∧ R ms := by
  obtain ⟨m, l', k, ms, hsettle, hl', hvalue, hR⟩ := h l hl
  refine ⟨memberNodes m ms, l', runs_bind_iff.2 ⟨m, l', hsettle, ?_⟩, hl', hR⟩
  rw [hf m k ms hvalue]
  exact runs_pure_iff.2 ⟨rfl, rfl⟩

theorem membersFor (h : ShowsObject P n R) (name : String) (hl : P l) :
    ∃ ms l', Runs (membersFor name n) l ms l' ∧ P l' ∧ R ms := by
  apply h.runs (g := fun ms => ms) hl
  intro m k ms hvalue
  rw [hvalue]

theorem partNamed? (h : ShowsObject P n R) (name : String) (hl : P l) :
    ∃ ms l', Runs (partNamed? n name) l (find? ms name) l' ∧ P l' ∧ R ms := by
  apply h.runs (g := fun ms => find? ms name) hl
  intro m k ms hvalue
  rw [hvalue]

theorem isGiven (h : ShowsObject P n R) (hl : P l) :
    ∃ ms l', Runs (isGiven n) l (!ms.isEmpty) l' ∧ P l' ∧ R ms := by
  apply h.runs (g := fun ms => !ms.isEmpty) hl
  intro m k ms hvalue
  have hlength := Reference.memberNodes_length m ms
  have hempty : (memberNodes m ms).isEmpty = ms.isEmpty := by
    rw [Bool.eq_iff_iff, List.isEmpty_iff_length_eq_zero, List.isEmpty_iff_length_eq_zero, hlength]
  rw [hvalue, hempty]
  rfl

end ShowsObject

theorem map_present? (n : Option Node) :
    (present? n).map (·.value) = given? (n.map (·.value)) := by
  cases n with
  | none => rfl
  | some n =>
    unfold present? given?
    cases hnull : n.value.isNull <;> simp [Option.filter, hnull]

/-! ## What is read of them -/

/-- The preferred type of JSON is found if there is one. -/
theorem runs_preferredMedia {content : List (Scalar × Option Value)} {n : Node}
    (h : ShowsObject P n (ShowsTypes P content)) (types : List String) (hl : P l) :
    ∃ media l', Runs (preferredMedia n types) l media l' ∧ P l'
      ∧ Option.Rel (ShowsMedia P)
        (types.findSome? fun type => (content.find? fun m => m.1.isText type).map (·.2)) media := by
  induction types generalizing l with
  | nil => exact ⟨none, l, runs_pure_iff.2 ⟨rfl, rfl⟩, hl, .none⟩
  | cons type types ih =>
    obtain ⟨ms, l₁, hrun, hl₁, hms⟩ := h.partNamed? type hl
    -- a type is found among the members exactly if the content has it
    have hrel : Option.Rel (ShowsMedia P) ((content.find? fun m => m.1.isText type).map (·.2))
        (find? ms type) :=
      rel_map_option (rel_find? hms fun m p hmp => by rw [hmp.1]) fun _ _ hmp => hmp.1.2
    rw [List.findSome?_cons]
    unfold preferredMedia
    generalize (content.find? fun m => m.1.isText type).map (·.2) = s at hrel ⊢
    generalize find? ms type = found at hrel hrun
    cases hrel with
    | some hmedia =>
      exact ⟨_, l₁, runs_bind_iff.2 ⟨_, l₁, hrun, runs_pure_iff.2 ⟨rfl, rfl⟩⟩, hl₁, .some hmedia⟩
    | none =>
      obtain ⟨media, l₂, hrest, hl₂, hmedia⟩ := ih hl₁
      exact ⟨media, l₂, runs_bind_iff.2 ⟨_, l₁, hrun, hrest⟩, hl₂, hmedia⟩

/-- Otherwise the first type with a schema counts, also if the schema is null. -/
theorem runs_firstSchema {content : List (Scalar × Option Value)} {ms : List (Scalar × Node)}
    (h : ShowsTypes P content ms) (hl : P l) :
    ∃ n l', Runs (firstSchema ms) l n l' ∧ P l'
      ∧ n.map (·.value) = given? (content.findSome? (·.2)) := by
  induction h generalizing l with
  | nil => exact ⟨none, l, runs_pure_iff.2 ⟨rfl, rfl⟩, hl, rfl⟩
  | @cons m p content ms hmp _ ih =>
    obtain ⟨parts, l₁, hrun, hl₁, hschema⟩ := hmp.2.partNamed? "schema" hl
    rw [List.findSome?_cons, ← hschema]
    unfold firstSchema
    cases hfound : find? parts "schema" with
    | some n =>
      rw [hfound] at hrun
      refine ⟨present? (some n), l₁, ?_, hl₁, map_present? (some n)⟩
      exact runs_bind_iff.2 ⟨_, l₁, hrun, runs_pure_iff.2 ⟨rfl, rfl⟩⟩
    | none =>
      rw [hfound] at hrun
      obtain ⟨n, l₂, hrest, hl₂, hn⟩ := ih hl₁
      exact ⟨n, l₂, runs_bind_iff.2 ⟨_, l₁, hrun, hrest⟩, hl₂, hn⟩

/-- Of a content the schema is read that stands where it is looked for. -/
theorem runs_contentSchema {r : Response} {n : Option Node} (h : ShowsContent P r.content n)
    (hl : P l) : ∃ schema l', Runs (contentSchema n) l schema l' ∧ P l'
      ∧ schema.map (·.value) = given? r.looked := by
  cases n with
  | none =>
    have hcontent : r.content = [] := h
    exact ⟨none, l, runs_pure_iff.2 ⟨rfl, rfl⟩, hl, (Response.given?_looked_of_nil hcontent).symm⟩
  | some n =>
    have hn : ShowsObject P n (ShowsTypes P r.content) := h
    obtain ⟨ms, l₁, hgiven, hl₁, hms⟩ := hn.isGiven hl
    by_cases hempty : ms = []
    · subst hempty
      have hcontent : r.content = [] := List.forall₂_nil_right_iff.1 hms
      refine ⟨none, l₁, runs_bind_iff.2 ⟨_, l₁, hgiven, runs_pure_iff.2 ⟨rfl, rfl⟩⟩, hl₁, ?_⟩
      exact (Response.given?_looked_of_nil hcontent).symm
    · have hne : (!ms.isEmpty) = true := by
        rw [Bool.not_eq_true', List.isEmpty_eq_false_iff]
        exact hempty
      rw [hne] at hgiven
      obtain ⟨media, l₂, hmedia, hl₂, hrel⟩ := runs_preferredMedia hn jsonMediaTypes hl₁
      change Option.Rel (ShowsMedia P) r.json? media at hrel
      unfold Response.looked
      generalize r.json? = json at hrel ⊢
      cases hrel with
      | some hshows =>
        -- a type of JSON ends the look, with a schema or without
        obtain ⟨parts, l₃, hrun, hl₃, hschema⟩ := hshows.membersFor "get" hl₂
        refine ⟨present? (find? parts "schema"), l₃, runs_bind_iff.2 ⟨_, l₁, hgiven, ?_⟩, hl₃, ?_⟩
        · refine runs_bind_iff.2 ⟨_, l₂, hmedia, ?_⟩
          exact runs_bind_iff.2 ⟨_, l₃, hrun, runs_pure_iff.2 ⟨rfl, rfl⟩⟩
        · rw [map_present?, hschema]
          rfl
      | none =>
        obtain ⟨types, l₃, hrun, hl₃, htypes⟩ := hn.membersFor "values" hl₂
        obtain ⟨schema, l₄, hfirst, hl₄, hschema⟩ := runs_firstSchema htypes hl₃
        refine ⟨schema, l₄, runs_bind_iff.2 ⟨_, l₁, hgiven, ?_⟩, hl₄, hschema⟩
        refine runs_bind_iff.2 ⟨_, l₂, hmedia, ?_⟩
        exact runs_bind_iff.2 ⟨_, l₃, hrun, hfirst⟩

/-- A look through responses gives their answer, with its references cut down. -/
theorem runs_successSchema {rs : List (Scalar × Response)} {ms : List (Scalar × Node)}
    (h : List.Forall₂ (fun e p => e.1 = p.1 ∧ ShowsResponse P e.2 p.2) rs ms) (hl : P l) :
    ∃ l', Runs (successSchema ms) l ((answer? rs).map Value.trimReferences) l' ∧ P l' := by
  induction h generalizing l with
  | nil => exact ⟨l, runs_pure_iff.2 ⟨rfl, rfl⟩, hl⟩
  | @cons e p rs ms hep _ ih =>
    obtain ⟨code, r⟩ := e
    obtain ⟨_, n⟩ := p
    obtain ⟨rfl, hshows⟩ := hep
    have hshows : ShowsResponse P r n := hshows
    unfold successSchema
    cases hsuccess : code.display.startsWith "2" with
    | false =>
      rw [answer?_cons_of_passed (e := (code, r)) fun h =>
        absurd (hsuccess.symm.trans h.1) Bool.false_ne_true]
      exact ih hl
    | true =>
      obtain ⟨parts, l₁, hget, hl₁, hcontent, hown⟩ := hshows.membersFor "get" hl
      obtain ⟨schema, l₂, hrun, hl₂, hschema⟩ := runs_contentSchema hcontent hl₁
      -- what the reader comes to is the schema that the response lets it see
      have hseen : (schema.or (present? (find? parts "schema"))).map (·.value) = r.seen? := by
        rw [Option.map_or, hschema, map_present?, hown, Response.seen?]
      cases hfound : schema.or (present? (find? parts "schema")) with
      | some m =>
        rw [hfound] at hseen
        rw [answer?_cons_of_seen (e := (code, r)) hsuccess hseen.symm]
        refine ⟨l₂, runs_bind_iff.2 ⟨_, l₁, hget, runs_bind_iff.2 ⟨_, l₂, hrun, ?_⟩⟩, hl₂⟩
        rw [hfound]
        exact runs_pure_iff.2 ⟨rfl, rfl⟩
      | none =>
        rw [hfound] at hseen
        rw [answer?_cons_of_passed (e := (code, r)) fun h => h.2 hseen.symm]
        obtain ⟨l₃, hrest, hl₃⟩ := ih hl₂
        refine ⟨l₃, runs_bind_iff.2 ⟨_, l₁, hget, runs_bind_iff.2 ⟨_, l₂, hrun, ?_⟩⟩, hl₃⟩
        rw [hfound]
        exact hrest

/-! ## The choice -/

/-- Entries in the order of their codes as texts. -/
def byCode {α : Type} (es : List (Scalar × α)) : List (Scalar × α) :=
  es.mergeSort fun a b => a.1.display ≤ b.1.display

theorem perm_byCode {α : Type} (es : List (Scalar × α)) : (byCode es).Perm es :=
  List.mergeSort_perm es _

/-- Entries with different codes are sorted strictly. -/
theorem pairwise_byCode {α : Type} {es : List (Scalar × α)}
    (hdistinct : (es.map (·.1.display)).Nodup) :
    (byCode es).Pairwise fun e e' => e.1.display < e'.1.display := by
  have hle : (byCode es).Pairwise fun a b => decide (a.1.display ≤ b.1.display) = true := by
    refine List.pairwise_mergeSort ?_ ?_ es
    · intro a b c hab hbc
      exact decide_eq_true ((of_decide_eq_true hab).trans (of_decide_eq_true hbc))
    · intro a b
      rw [Bool.or_eq_true, decide_eq_true_iff, decide_eq_true_iff]
      exact le_total _ _
  have hne := List.pairwise_map.1 (((perm_byCode es).map (·.1.display)).nodup_iff.2 hdistinct)
  exact (hle.and hne).imp fun h => lt_of_le_of_ne (of_decide_eq_true h.1) h.2

/-- The answer is that of the responses in the order of their codes as texts. -/
theorem runs_responseSchema {rs : List (Scalar × Response)} {n : Node}
    (hn : ShowsResponses P rs n) (hwritable : ∀ e ∈ rs, e.1.isWritable = true) (hl : P l) :
    ∃ l', Runs (responseSchema (some n)) l ((answer? (byCode rs)).map Value.trimReferences) l'
      ∧ P l' := by
  obtain ⟨ms, l₁, hkeys, hl₁, hms⟩ := hn.membersFor "keys" hl
  have hall : (ms.any fun m => !m.1.isWritable) = false := by
    rw [List.any_eq_false]
    intro m hm
    obtain ⟨e, he, heq, -⟩ := exists_left_of_mem hms hm
    rw [← heq, hwritable e he]
    decide
  have hsorted : List.Forall₂ (fun e p => e.1 = p.1 ∧ ShowsResponse P e.2 p.2)
      (byCode rs) (byCode ms) :=
    rel_mergeSort hms fun a b a' b' ha hb => by rw [ha.1, hb.1]
  obtain ⟨l₂, hrun, hl₂⟩ := runs_successSchema hsorted hl₁
  refine ⟨l₂, runs_bind_iff.2 ⟨ms, l₁, hkeys, ?_⟩, hl₂⟩
  rw [hall]
  exact hrun

/-- The answer in terms of nothing but the texts of the codes. -/
theorem answer?_byCode_eq_some_iff {rs rs' : List (Scalar × Response)}
    (hdistinct : (rs.map (·.1.display)).Nodup) (hperm : (spelled rs').Perm (spelled rs))
    {v : Value} :
    answer? (byCode rs) = some v ↔ ∃ e, IsFirst rs' (·.seen? ≠ none) e ∧ e.2.seen? = some v := by
  have hsort : (spelled rs').Perm (spelled (byCode rs)) :=
    hperm.trans ((perm_byCode rs).map _).symm
  rw [answer?_eq_some_iff (pairwise_byCode hdistinct)]
  constructor
  · rintro ⟨e, he, hv⟩
    obtain ⟨e', he', heq⟩ := he.transfer hsort
    exact ⟨e', he', heq ▸ hv⟩
  · rintro ⟨e, he, hv⟩
    obtain ⟨e', he', heq⟩ := he.transfer hsort.symm
    exact ⟨e', he', heq ▸ hv⟩

/-- There is no answer if all responses of success that have a body hide it. -/
theorem answer?_byCode_eq_none_iff (rs : List (Scalar × Response)) :
    answer? (byCode rs) = none ↔
      ∀ e ∈ rs, isSuccess e.1 = true → e.2.Carries → e.2.Hides := by
  rw [answer?, List.findSome?_eq_none_iff]
  simp only [(perm_byCode rs).mem_iff]
  refine forall₂_congr fun e _ => ?_
  split
  next hsuccess =>
    constructor
    · intro hnone _ hcarries
      by_contra hhides
      exact hcarries.seen?_iff.2 hhides hnone
    · intro h
      by_contra hseen
      have hcarries := Response.carries_of_seen? hseen
      exact hcarries.seen?_iff.1 hseen (h hsuccess hcarries)
  next hno => exact ⟨fun _ hsuccess => absurd hsuccess hno, fun _ => rfl⟩

/-- **The choice of a response.**  Of the responses of success that show a schema, the one that
comes first gives its schema, and there is no schema only if all that have a body hide it.  The
first one that has a body is chosen unless it hides it.  The order of the responses does not count, nor do the
kinds of their codes. -/
theorem responseSchema_chooses {rs : List (Scalar × Response)} {n : Node}
    (hn : ShowsResponses P rs n) (hwritable : ∀ e ∈ rs, e.1.isWritable = true)
    (hdistinct : (rs.map (·.1.display)).Nodup) (hl : P l) :
    ∃ schema l', Runs (responseSchema (some n)) l schema l' ∧ P l'
      ∧ (∀ v, schema = some v ↔ ∃ e w, IsFirst rs (·.seen? ≠ none) e ∧ e.2.seen? = some w
        ∧ v = w.trimReferences)
      ∧ (schema = none ↔ ∀ e ∈ rs, isSuccess e.1 = true → e.2.Carries → e.2.Hides)
      ∧ (∀ e, IsFirst rs Response.Carries e → (IsFirst rs (·.seen? ≠ none) e ↔ ¬ e.2.Hides))
      ∧ ∀ (P' : Library → Prop) (rs' : List (Scalar × Response)) (n' : Node) (l₁ : Library),
        ShowsResponses P' rs' n' → (∀ e ∈ rs', e.1.isWritable = true) →
        (spelled rs').Perm (spelled rs) → P' l₁ →
        ∃ l₁', Runs (responseSchema (some n')) l₁ schema l₁' ∧ P' l₁' := by
  obtain ⟨l', hrun, hl'⟩ := runs_responseSchema hn hwritable hl
  refine ⟨_, l', hrun, hl', ?_, ?_, fun e he => he.seen_iff, ?_⟩
  · intro v
    rw [Option.map_eq_some_iff]
    simp only [answer?_byCode_eq_some_iff hdistinct (.refl _)]
    constructor
    · rintro ⟨w, ⟨e, he, hw⟩, rfl⟩
      exact ⟨e, w, he, hw, rfl⟩
    · rintro ⟨e, w, he, hw, rfl⟩
      exact ⟨w, ⟨e, he, hw⟩, rfl⟩
  · rw [Option.map_eq_none_iff, answer?_byCode_eq_none_iff]
  · intro P' rs' n' l₁ hn' hwritable' hperm hl₁
    have hdistinct' : (rs'.map (·.1.display)).Nodup := by
      have hcodes := hperm.map Prod.fst
      rw [List.map_map, List.map_map] at hcodes
      exact hcodes.nodup_iff.2 hdistinct
    -- both answers are told by one list, although each run sorts its own
    have heq : answer? (byCode rs') = answer? (byCode rs) := by
      apply Option.ext
      intro v
      rw [answer?_byCode_eq_some_iff hdistinct' (.refl _),
        answer?_byCode_eq_some_iff hdistinct hperm]
    obtain ⟨l₁', hrun', hl₁'⟩ := runs_responseSchema hn' hwritable' hl₁
    rw [heq] at hrun'
    exact ⟨l₁', hrun', hl₁'⟩

/-- A document with responses.  The first one of success has no body, and the next one stands
elsewhere in the document. -/
def shopDocument : Value :=
  .object 0 [
    (.text "responses", .object 1 [
      (.text "100", .object 2 [(.text "schema", .object 3 [(.text "type", .text "integer")])]),
      (.int 202, .object 4 [(.text "content", .object 5 [
        (.text "text/plain", .object 6 []),
        (.text "image/png", .object 7 [(.text "schema", .object 8 [])])])]),
      (.text "201", .object 9 [(.text "$ref", .text "#/made")]),
      (.int 200, .object 10 [(.text "description", .text "nothing")])]),
    (.text "made", .object 11 [(.text "content", .object 12 []),
      (.text "schema", .object 13 [(.text "$ref", .text "#/Pet"), (.text "title", .text "pet")])])]

def shopLibrary : Library := .ofValue {} shopDocument

def shopNode (place : List Nat) : Node :=
  ⟨0, place, (Reference.valueAt shopDocument place).getD .null⟩

/-- The response that stands elsewhere. -/
def madeResponse : Response :=
  ⟨[], some (.object 13 [(.text "$ref", .text "#/Pet"), (.text "title", .text "pet")])⟩

/-- What the responses say. -/
def shopResponses : List (Scalar × Response) := [
  (.text "100", ⟨[], some (.object 3 [(.text "type", .text "integer")])⟩),
  (.int 202, ⟨[(.text "text/plain", none), (.text "image/png", some (.object 8 []))], none⟩),
  (.text "201", madeResponse),
  (.int 200, ⟨[], none⟩)]

theorem shop_shows : ShowsResponses (· = shopLibrary) shopResponses (shopNode [0]) := by
  refine .of_plain rfl rfl (.cons ⟨rfl, ?_⟩ (.cons ⟨rfl, ?_⟩ (.cons ⟨rfl, ?_⟩
    (.cons ⟨rfl, ?_⟩ .nil))))
  · exact .of_plain rfl rfl ⟨rfl, rfl⟩
  · refine .of_plain rfl rfl ⟨?_, rfl⟩
    exact .of_plain rfl rfl (.cons ⟨rfl, .of_plain rfl rfl rfl⟩
      (.cons ⟨rfl, .of_plain rfl rfl rfl⟩ .nil))
  · rintro l rfl
    refine ⟨shopNode [1], shopLibrary, _, _, by cbv, rfl, rfl, ?_, rfl⟩
    exact .of_plain rfl rfl .nil
  · exact .of_plain rfl rfl ⟨rfl, rfl⟩

theorem responseSchema_chooses_made :
    ∃ l', Runs (responseSchema (some (shopNode [0]))) shopLibrary
        (some (.object 13 [(.text "$ref", .text "#/Pet")])) l'
      ∧ IsFirst shopResponses (·.seen? ≠ none) (.text "201", madeResponse) := by
  have hcodes : shopResponses.map (·.1.display) = ["100", "202", "201", "200"] := by cbv
  have hother : isSuccess (.text "100") = false := by cbv
  have hwritable : ∀ e ∈ shopResponses, e.1.isWritable = true := by
    rintro e (_ | ⟨_, _ | ⟨_, _ | ⟨_, _ | ⟨_, he⟩⟩⟩⟩)
    · rfl
    · exact isWritable_of_lt (by decide : 202 < 10 ^ 3)
    · rfl
    · exact isWritable_of_lt (by decide : 200 < 10 ^ 3)
    · cases he
  have hfirst : IsFirst shopResponses (·.seen? ≠ none) (.text "201", madeResponse) := by
    refine ⟨by simp [shopResponses], by cbv, Option.some_ne_none _, fun e he hsuccess hseen => ?_⟩
    rcases he with _ | ⟨_, _ | ⟨_, _ | ⟨_, _ | ⟨_, he⟩⟩⟩⟩
    · exact absurd (hother.symm.trans hsuccess) Bool.false_ne_true
    · show "201" ≤ "202"
      decide
    · exact le_rfl
    · exact absurd rfl hseen
    · cases he
  obtain ⟨schema, l', hrun, -, hchoice, -⟩ := responseSchema_chooses shop_shows
    hwritable (by rw [hcodes]; decide) rfl
  rw [(hchoice _).2 ⟨_, _, hfirst, rfl, rfl⟩] at hrun
  exact ⟨l', hrun, hfirst⟩

/-- A content with an empty type of JSON and a text. -/
def hiddenDocument : Value :=
  .object 0 [(.text "200", .object 1 [(.text "content", .object 2 [
    (.text "application/json", .object 3 []),
    (.text "text/plain", .object 4 [(.text "schema",
      .object 5 [(.text "type", .text "string")])])])])]

def hiddenLibrary : Library := .ofValue {} hiddenDocument

/-- What its response says. -/
def hiddenResponses : List (Scalar × Response) := [
  (.text "200", ⟨[(.text "application/json", none),
    (.text "text/plain", some (.object 5 [(.text "type", .text "string")]))], none⟩)]

theorem hidden_shows : ShowsResponses P hiddenResponses (hiddenLibrary.rootNode 0) := by
  refine .of_plain rfl rfl (.cons ⟨rfl, .of_plain rfl rfl ⟨?_, rfl⟩⟩ .nil)
  exact .of_plain rfl rfl (.cons ⟨rfl, .of_plain rfl rfl rfl⟩
    (.cons ⟨rfl, .of_plain rfl rfl rfl⟩ .nil))

/-- Beside an empty type of JSON another type with a schema is not looked at. -/
theorem responseSchema_hides :
    ShowsResponses (· = hiddenLibrary) hiddenResponses (hiddenLibrary.rootNode 0)
      ∧ (hiddenResponses.map (·.1.display)).Nodup
      ∧ (∃ e, IsFirst hiddenResponses Response.Carries e)
      ∧ Runs (responseSchema (some (hiddenLibrary.rootNode 0))) hiddenLibrary none hiddenLibrary := by
  refine ⟨hidden_shows, by decide, ⟨_, List.mem_cons_self, by cbv,
    .inl ⟨_, List.mem_cons_of_mem _ List.mem_cons_self, Option.some_ne_none _⟩, ?_⟩, ?_⟩
  · rintro e he - -
    rw [List.mem_singleton.1 he]
  · obtain ⟨_, hrun, rfl⟩ :=
      runs_responseSchema (P := (· = hiddenLibrary)) hidden_shows (by decide) rfl
    have hanswer : answer? hiddenResponses = none := by cbv
    rw [hiddenResponses, byCode, List.mergeSort_singleton, ← hiddenResponses, hanswer] at hrun
    exact hrun

end OpenApiClient.Document
